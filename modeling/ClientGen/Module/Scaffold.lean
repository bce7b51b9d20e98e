import ClientGen.TypeScript.Literal

/-!
The fixed part of every generated module: types of its configuration, the default configuration,
error classes and the resolution of headers.
-/
namespace ClientGen.Module

/-- Names that a client function would declare again or hide. -/
def runtimeNames : List String :=
  ["z", "configure", "schemas", "clientConfig", "resolveHeaders", "fetch", "encodeURIComponent"]

def configTypes : String := String.join [
  "export type HeaderProvider =\n",
  "  | Record<string, string>\n",
  "  | (() => Record<string, string> | Promise<Record<string, string>>);\n",
  "\n",
  "export type ClientConfig = \x7b\n",
  "  baseUrl: string;\n",
  "  headers: HeaderProvider;\n",
  "\x7d;\n"]

/-- The default configuration; without a base URL, requests go to relative URLs. -/
def clientConfig (baseUrl : Option String) : String := String.join [
  "export const clientConfig: ClientConfig = \x7b\n",
  "  baseUrl: ", TypeScript.stringLiteral (baseUrl.getD ""), ",\n",
  "  headers: \x7b\x7d,\n",
  "\x7d;\n"]

/-- The function that changes the default configuration. -/
def configure : String := String.join [
  "export function configure(options: Partial<ClientConfig>): ClientConfig \x7b\n",
  "  if (options.baseUrl !== undefined) \x7b\n",
  "    clientConfig.baseUrl = options.baseUrl;\n",
  "  \x7d\n",
  "  if (options.headers !== undefined) \x7b\n",
  "    clientConfig.headers = options.headers;\n",
  "  \x7d\n",
  "  return clientConfig;\n",
  "\x7d\n"]

/-- The error classes and the resolution of headers. -/
def runtime : String := String.join [
  "export class HttpError extends Error \x7b\n",
  "  constructor(\n",
  "    public readonly status: number,\n",
  "    public readonly body: string,\n",
  "  ) \x7b\n",
  "    super(`Request failed with status $\x7bstatus\x7d`);\n",
  "    this.name = \"HttpError\";\n",
  "  \x7d\n",
  "\x7d\n",
  "\n",
  "export class ResponseValidationError extends Error \x7b\n",
  "  constructor(\n",
  "    public readonly operation: string,\n",
  "    public readonly issues: z.ZodError,\n",
  "  ) \x7b\n",
  "    super(`Response of $\x7boperation\x7d failed validation: $\x7bissues.message\x7d`);\n",
  "    this.name = \"ResponseValidationError\";\n",
  "  \x7d\n",
  "\x7d\n",
  "\n",
  "async function resolveHeaders(headers: HeaderProvider): Promise<Record<string, string>> \x7b\n",
  "  return typeof headers === \"function\" ? await headers() : headers;\n",
  "\x7d\n"]

end ClientGen.Module
