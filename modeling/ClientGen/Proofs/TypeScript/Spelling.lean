import ClientGen.Proofs.Identifier
import ClientGen.Proofs.TypeScript.Identifiers

/-!
When the forms of a name are identifiers. It can be read off the letters of the name, which are all
its characters but the separators.
-/
namespace ClientGen.Identifier
open Text TypeScript

/-- The characters of a name that its forms are made of. -/
def letters (name : List Char) : List Char := name.filter (!isSeparator ·)

/-- A name that spells identifiers: each of its letters may continue one, and the first may start
one or is the combining iota, which a Pascal form writes as a letter. -/
def Spells (name : List Char) : Prop :=
  (∀ c ∈ letters name, continuesIdentifier c = true) ∧
    ∀ c, (letters name).head? = some c → startsIdentifier c = true ∨ c = '\u0345'

private theorem flatten_pieces (name : List Char) : (pieces name).flatten = letters name := by
  rw [pieces, List.flatten_filter_not_isEmpty, flatten_split]
  rfl

private theorem all_pascalChars (name : List Char) :
    (pascalChars name).all continuesIdentifier = (letters name).all continuesIdentifier := by
  simp only [pascalChars_eq, List.all_flatMap, all_upperFirst, ← flatten_pieces, List.all_flatten]

private theorem head?_pascalChars_starts (name : List Char) :
    (pascalChars name).head?.map startsIdentifier = (letters name).head?.map startsRaised := by
  rw [pascalChars_eq, ← flatten_pieces]
  cases cut : pieces name with
  | nil => rfl
  | cons piece more =>
    have filled := filled_of_mem_pieces (cut ▸ List.mem_cons_self : piece ∈ pieces name)
    cases piece with
    | nil => exact absurd rfl filled
    | cons c rest =>
      have first := head?_upperFirst (c :: rest)
      cases raised : upperFirst (c :: rest) with
      | nil => simp [raised] at first
      | cons d others => simpa [raised] using first

/-- A Pascal form in front of an identifier gives one iff its name spells identifiers. -/
theorem isIdentifierName_pascalChars (name : List Char) (suffix : isIdentifierName back = true) :
    isIdentifierName (pascalChars name ++ back) = true ↔ Spells name := by
  rw [isIdentifierName_append _ suffix, all_pascalChars, head?_pascalChars_starts, Spells,
    List.all_eq_true, and_comm]
  refine and_congr_right fun _ => ?_
  cases (letters name).head? with
  | none => simp
  | some c =>
    cases starts : startsIdentifier c with
    | true => simp [startsRaised, starts]
    | false => simp [startsRaised, starts]

/-- A camel form is an identifier by itself iff its name has letters and they spell one. -/
theorem isIdentifierName_camelChars (name : List Char) :
    isIdentifierName (lowerFirst (pascalChars name)) = true ↔ letters name ≠ [] ∧ Spells name := by
  rw [isIdentifierName_lowerFirst, isIdentifierName_iff, all_pascalChars,
    head?_pascalChars_starts, Spells, List.all_eq_true]
  cases (letters name) with
  | nil => simp
  | cons c rest => simp [startsRaised, and_comm]

end ClientGen.Identifier
