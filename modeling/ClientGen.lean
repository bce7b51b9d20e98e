import ClientGen.Attempt
import ClientGen.CommandLine.Arguments
import ClientGen.CommandLine.Run
import ClientGen.Config.Basic
import ClientGen.Config.Fault
import ClientGen.Config.Json
import ClientGen.Config.Load
import ClientGen.Config.Toml
import ClientGen.Decimal.Binary64
import ClientGen.Decimal.Shortest
import ClientGen.Decimal.Text
import ClientGen.Diagnostic
import ClientGen.Error
import ClientGen.Files.Fault
import ClientGen.Files.FilePath
import ClientGen.Files.System
import ClientGen.Generate
import ClientGen.Host
import ClientGen.Http.Authority
import ClientGen.Http.Host
import ClientGen.Http.Name.Ascii
import ClientGen.Http.Name.Direction
import ClientGen.Http.Name.DirectionTable
import ClientGen.Http.Name.Joining
import ClientGen.Http.Name.JoiningTable
import ClientGen.Http.Name.Label
import ClientGen.Http.Name.Mapping
import ClientGen.Http.Name.MappingTable
import ClientGen.Http.Name.Punycode
import ClientGen.Http.Percent
import ClientGen.Http.Request
import ClientGen.Http.Scheme
import ClientGen.Http.Url
import ClientGen.Http.UrlPath
import ClientGen.Identifier
import ClientGen.Introspection
import ClientGen.Json.Cursor
import ClientGen.Json.Number
import ClientGen.Json.Printer
import ClientGen.Json.Reader
import ClientGen.Json.Scalar
import ClientGen.Json.Skip
import ClientGen.Json.Value
import ClientGen.Main
import ClientGen.Module.Emit
import ClientGen.Module.Scaffold
import ClientGen.Module.Timestamp
import ClientGen.NameSet
import ClientGen.Operation.Basic
import ClientGen.Operation.Compile
import ClientGen.Operation.Payload
import ClientGen.Operation.Verb
import ClientGen.Ordered
import ClientGen.Output
import ClientGen.PathTemplate
import ClientGen.Plan
import ClientGen.Proofs.Config.Document
import ClientGen.Proofs.Config.Loading
import ClientGen.Proofs.Config.Spelling
import ClientGen.Proofs.Decimal.Rounding
import ClientGen.Proofs.Failure
import ClientGen.Proofs.Files.Alike
import ClientGen.Proofs.Files.Directories
import ClientGen.Proofs.Files.Finding
import ClientGen.Proofs.Files.Place
import ClientGen.Proofs.Files.Reading
import ClientGen.Proofs.Files.Staging
import ClientGen.Proofs.Generate
import ClientGen.Proofs.Identifier
import ClientGen.Proofs.Identifier.Pieces
import ClientGen.Proofs.Introspection
import ClientGen.Proofs.Json.Equality
import ClientGen.Proofs.Json.Passing
import ClientGen.Proofs.Json.Reading
import ClientGen.Proofs.Json.Strings
import ClientGen.Proofs.Json.Tokens
import ClientGen.Proofs.Json.Written
import ClientGen.Proofs.Module.Body
import ClientGen.Proofs.Module.Breaks
import ClientGen.Proofs.Module.Captures
import ClientGen.Proofs.Module.Content
import ClientGen.Proofs.Module.Declarations
import ClientGen.Proofs.Module.Hidden
import ClientGen.Proofs.Module.Identifiers
import ClientGen.Proofs.Module.Names
import ClientGen.Proofs.Module.References
import ClientGen.Proofs.Module.Stamps
import ClientGen.Proofs.Module.Survivors
import ClientGen.Proofs.Module.Syntax
import ClientGen.Proofs.Operation.Editing
import ClientGen.Proofs.Operation.Element
import ClientGen.Proofs.Operation.FieldNames
import ClientGen.Proofs.Operation.Parameters
import ClientGen.Proofs.Operation.Payload
import ClientGen.Proofs.Operation.Reroute
import ClientGen.Proofs.Ordered
import ClientGen.Proofs.Output
import ClientGen.Proofs.Output.AllOrNothing
import ClientGen.Proofs.Output.Directories
import ClientGen.Proofs.Output.Repeated
import ClientGen.Proofs.PathTemplate.Parameters
import ClientGen.Proofs.PathTemplate.Segments
import ClientGen.Proofs.PathTemplate.Url
import ClientGen.Proofs.Plan
import ClientGen.Proofs.Plan.Steps
import ClientGen.Proofs.Regeneration
import ClientGen.Proofs.Schema.Closed
import ClientGen.Proofs.Schema.Editing
import ClientGen.Proofs.Schema.Enumeration
import ClientGen.Proofs.Schema.Filled
import ClientGen.Proofs.Schema.IndexSignatures
import ClientGen.Proofs.Schema.Inference
import ClientGen.Proofs.Schema.LineTerminators
import ClientGen.Proofs.Schema.MergedMembers
import ClientGen.Proofs.Schema.Merging
import ClientGen.Proofs.Schema.Parts
import ClientGen.Proofs.Schema.Positions
import ClientGen.Proofs.Schema.References
import ClientGen.Proofs.Schema.Requirements
import ClientGen.Proofs.Schema.Rules
import ClientGen.Proofs.Text.CaseMapping
import ClientGen.Proofs.Text.LineTerminators
import ClientGen.Proofs.Text.Split
import ClientGen.Proofs.TypeScript.Code
import ClientGen.Proofs.TypeScript.IdentifierTable
import ClientGen.Proofs.TypeScript.Identifiers
import ClientGen.Proofs.TypeScript.Meaning
import ClientGen.Proofs.TypeScript.Printed
import ClientGen.Proofs.TypeScript.PropertyNames
import ClientGen.Proofs.TypeScript.Spelling
import ClientGen.Proofs.TypeScript.StringLiteral
import ClientGen.Proofs.TypeScript.Syntax
import ClientGen.Proofs.TypeScript.Template
import ClientGen.Proofs.Validator.Acceptance
import ClientGen.Proofs.Validator.Syntax
import ClientGen.Schema.Basic
import ClientGen.Schema.Classify
import ClientGen.Schema.Compile
import ClientGen.Schema.Merge
import ClientGen.Text.Blank
import ClientGen.Text.Case
import ClientGen.Text.CaseTable
import ClientGen.Text.Composition
import ClientGen.Text.CompositionTable
import ClientGen.Text.Digits
import ClientGen.Text.Mark
import ClientGen.Text.MarkTable
import ClientGen.Text.PrintableTable
import ClientGen.Text.Quoted
import ClientGen.Text.Ranges
import ClientGen.Text.Rows
import ClientGen.Text.Shift
import ClientGen.Text.Split
import ClientGen.Text.Word
import ClientGen.Text.WordTable
import ClientGen.Toml.Blank
import ClientGen.Toml.Document
import ClientGen.Toml.Moment
import ClientGen.Toml.Number
import ClientGen.Toml.Table
import ClientGen.Toml.Text
import ClientGen.Toml.Value
import ClientGen.TypeScript.Literal
import ClientGen.TypeScript.Type
import ClientGen.Validator.Basic
