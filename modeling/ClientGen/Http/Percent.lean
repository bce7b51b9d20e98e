import ClientGen.Text.Digits

/-!
Percent encoding: a character that may not stand in a part of a URL is written as the bytes of its
UTF-8 form, each as a percent sign and two hexadecimal digits.
-/
namespace ClientGen.Http

/-- A byte as a percent sign and two upper-case hexadecimal digits. -/
def encodedByte (byte : UInt8) : List Char :=
  ['%', (Nat.digitChar (byte.toNat / 16)).toUpper, (Nat.digitChar (byte.toNat % 16)).toUpper]

/-- A text in which the characters of a set, control characters and all characters beyond ASCII are
percent encoded. -/
def percentEncode (isReserved : Char → Bool) (text : List Char) : List Char :=
  text.flatMap fun c =>
    if c.toNat < 0x20 || 0x7F ≤ c.toNat || isReserved c then
      (String.utf8EncodeChar c).flatMap encodedByte
    else [c]

/-- The bytes that a percent-encoded text stands for. A percent sign without two digits stands for
itself. -/
def percentBytes : List Char → List UInt8
  | [] => []
  | '%' :: a :: b :: rest =>
    match Text.hexValue? a, Text.hexValue? b with
    | some high, some low => UInt8.ofNat (high * 16 + low) :: percentBytes rest
    | _, _ => String.utf8EncodeChar '%' ++ percentBytes (a :: b :: rest)
  | c :: rest => String.utf8EncodeChar c ++ percentBytes rest

/-- The text that a percent-encoded one stands for, or none if its bytes are no UTF-8. -/
def percentDecode? (text : List Char) : Option (List Char) :=
  (String.fromUTF8? ⟨(percentBytes text).toArray⟩).map String.toList

end ClientGen.Http
