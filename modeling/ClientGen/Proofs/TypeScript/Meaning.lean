import ClientGen.Proofs.Json.Equality
import ClientGen.TypeScript.Type

/-!
What types of generated code mean: the sets of values that they take. The meaning of types declared
elsewhere is left open. Types are read structurally: an object may have members that its type does
not name, unless an index signature says what all members are. A type with an index signature is
well formed only if each property that it names fits under the signature.
-/
namespace ClientGen.TypeScript
open Json

/-- The values of a script that types of data tell apart. Those of JSON, and the value that is
none. -/
inductive Datum where
  | undefined
  | null
  | boolean (b : Bool)
  | number (n : Number)
  | string (s : String)
  | array (items : List Datum)
  | object (members : List (String × Datum))

mutual
/-- The values of the type of one JSON value: numbers are read as doubles, an array is a tuple, and
an object has the members that are written. -/
def LiteralAdmits : Value → Datum → Prop
  | .null, d => d = .null
  | .boolean b, d => d = .boolean b
  | .number n, d => ∃ m, d = .number m ∧ m.nearest = n.nearest
  | .string s, d => d = .string s
  | .array items, d => ∃ data, d = .array data ∧ TupleAdmits items data
  | .object members, d => ∃ data, d = .object data ∧ MembersAdmit members data
/-- The items of a tuple, one for each item that is written. -/
def TupleAdmits : List Value → List Datum → Prop
  | [], data => data = []
  | item :: rest, data => ∃ first more, data = first :: more ∧ LiteralAdmits item first ∧
      TupleAdmits rest more
def MembersAdmit : List (String × Value) → List (String × Datum) → Prop
  | [], _ => True
  | member :: rest, data => MemberAdmits member data ∧ MembersAdmit rest data
/-- Objects that have a member that is written. -/
def MemberAdmits : String × Value → List (String × Datum) → Prop
  | (name, value), data => ∃ d, data.lookup name = some d ∧ LiteralAdmits value d
end

namespace TypeExpr

section Meaning

variable (declared : String → Datum → Prop)

mutual
/-- The values of a type. -/
def Admits : TypeExpr → Datum → Prop
  | .string, d => ∃ s, d = .string s
  | .number, d => ∃ n, d = .number n
  | .boolean, d => ∃ b, d = .boolean b
  | .null, d => d = .null
  | .unknown, _ => True
  | .literal value, d => LiteralAdmits value d
  | .reference name, d => declared name d
  | .array item, d => ∃ items, d = .array items ∧ ∀ each ∈ items, Admits item each
  | .record value, d => ∃ members, d = .object members ∧
      ∀ name each, members.lookup name = some each → Admits value each
  | .object fields others, d => ∃ members, d = .object members ∧ FieldsAdmit fields members ∧
      OthersAdmit others members
  | .union members, d => SomeAdmits members d
def FieldsAdmit : List (TypeField TypeExpr) → List (String × Datum) → Prop
  | [], _ => True
  | field :: rest, members => FieldAdmits field members ∧ FieldsAdmit rest members
/-- Objects that have a property of an object type. An optional one may be missing or undefined. -/
def FieldAdmits : TypeField TypeExpr → List (String × Datum) → Prop
  | ⟨name, isOptional, type⟩, members =>
    (∀ d, members.lookup name = some d → Admits type d ∨ (isOptional = true ∧ d = .undefined)) ∧
      (members.lookup name = none → isOptional = true)
/-- Objects all of whose members an index signature takes. -/
def OthersAdmit : Option TypeExpr → List (String × Datum) → Prop
  | none, _ => True
  | some type, members => ∀ name d, members.lookup name = some d → Admits type d
/-- The values of a member of a union. -/
def SomeAdmits : List TypeExpr → Datum → Prop
  | [], _ => False
  | member :: rest, d => Admits member d ∨ SomeAdmits rest d
end

/-- The values of a property: those of its type, together with undefined where it is optional. -/
def FieldHolds (field : TypeField TypeExpr) (d : Datum) : Prop :=
  Admits declared field.type d ∨ (field.isOptional = true ∧ d = .undefined)

theorem fieldsAdmit_iff (fields : List (TypeField TypeExpr)) (members : List (String × Datum)) :
    FieldsAdmit declared fields members ↔
      ∀ field ∈ fields, (∀ d, members.lookup field.name = some d → FieldHolds declared field d) ∧
        (members.lookup field.name = none → field.isOptional = true) := by
  induction fields with
  | nil => simp [FieldsAdmit]
  | cons field rest ih =>
    obtain ⟨name, isOptional, type⟩ := field
    rw [FieldsAdmit, FieldAdmits, ih, List.forall_mem_cons]
    rfl

theorem someAdmits_iff (members : List TypeExpr) (d : Datum) :
    SomeAdmits declared members d ↔ ∃ member ∈ members, Admits declared member d := by
  induction members with
  | nil => simp [SomeAdmits]
  | cons member rest ih => simp [SomeAdmits, ih]

end Meaning

/-- An index signature with the properties that stand beside it. -/
structure Signature where
  fields : List (TypeField TypeExpr)
  index : TypeExpr

mutual
/-- The index signatures in a type, at any depth. -/
def signatures : TypeExpr → List Signature
  | .array item => item.signatures
  | .record value => value.signatures
  | .object fields others =>
    (others.map (Signature.mk fields)).toList ++
      (fieldsSignatures fields ++ othersSignatures others)
  | .union members => membersSignatures members
  | .string | .number | .boolean | .null | .unknown | .literal _ | .reference _ => []
def fieldsSignatures : List (TypeField TypeExpr) → List Signature
  | [] => []
  | field :: rest => fieldSignatures field ++ fieldsSignatures rest
def fieldSignatures : TypeField TypeExpr → List Signature
  | ⟨_, _, type⟩ => type.signatures
def othersSignatures : Option TypeExpr → List Signature
  | none => []
  | some type => type.signatures
def membersSignatures : List TypeExpr → List Signature
  | [] => []
  | member :: rest => member.signatures ++ membersSignatures rest
end

/-- Every property beside an index signature has only values that the signature takes. -/
def Signature.Fits (declared : String → Datum → Prop) (signature : Signature) : Prop :=
  ∀ field ∈ signature.fields, ∀ d, FieldHolds declared field d → signature.index.Admits declared d

theorem Signature.fits_iff (declared : String → Datum → Prop) (signature : Signature) :
    signature.Fits declared ↔ ∀ field ∈ signature.fields,
      (∀ d, Admits declared field.type d → Admits declared signature.index d) ∧
        (field.isOptional = true → Admits declared signature.index .undefined) := by
  refine forall₂_congr fun field _ => ⟨fun fits => ⟨fun d admits => fits d (.inl admits),
    fun optional => fits .undefined (.inr ⟨optional, rfl⟩)⟩, ?_⟩
  rintro ⟨typed, missing⟩ d (admits | ⟨optional, rfl⟩)
  · exact typed d admits
  · exact missing optional

theorem fieldsSignatures_eq (fields : List (TypeField TypeExpr)) :
    fieldsSignatures fields = fields.flatMap fun field => field.type.signatures := by
  induction fields with
  | nil => rfl
  | cons field rest ih =>
    obtain ⟨name, isOptional, type⟩ := field
    exact congrArg (type.signatures ++ ·) ih

theorem membersSignatures_eq (members : List TypeExpr) :
    membersSignatures members = members.flatMap signatures := by
  induction members with
  | nil => rfl
  | cons member rest ih => exact congrArg (member.signatures ++ ·) ih

end TypeExpr
end ClientGen.TypeScript
