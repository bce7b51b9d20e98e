import ClientGen.Module.Emit
import ClientGen.Operation.Payload
import ClientGen.Proofs.Schema.Editing

/-!
Edits that a payload's reader does not notice. The fields of an operation are looked up like the
keywords of a schema, so a service may list them, and the members of all schemas below them, in any
order and among others, and still gets the same module and the same diagnostics.
-/
namespace ClientGen
open Json

namespace Operation

/-- The fields of an operation whose values are texts. -/
def textFields : List String := ["name", "path", "verb"]

/-- The fields of an operation whose values are schemas. -/
def schemaFields : List String := ["input", "output"]

/-- Descriptions of an operation that differ at most in the order of its fields and in ones that are
not read, and so for the schemas in it. -/
inductive Edited : Value → Value → Prop
  | refl (value : Value) : Edited value value
  | symm (edited : Edited value other) : Edited other value
  | trans (start : Edited value middle) (rest : Edited middle other) : Edited value other
  | reorder (unique : (fields.map Prod.fst).Nodup) (moved : fields.Perm others) :
      Edited (.object fields) (.object others)
  | unread (front back : List (String × Value)) (unread : key ∉ textFields ++ schemaFields) :
      Edited (.object (front ++ (key, value) :: back)) (.object (front ++ back))
  | schema (front back : List (String × Value)) (holds : key ∈ schemaFields)
      (edited : Schema.Edited value other) :
      Edited (.object (front ++ (key, value) :: back)) (.object (front ++ (key, other) :: back))

/-- Payloads whose elements differ at most in what their reader does not notice. -/
inductive EditedPayload : Value → Value → Prop
  | elements (edited : List.Forall₂ Edited elements others) :
      EditedPayload (.array elements) (.array others)

/-- Fields that describe the same operation. -/
structure SameFields (fields others : List (String × Value)) : Prop where
  texts : ∀ key ∈ textFields, fields.lookup key = others.lookup key
  schemas : ∀ key ∈ schemaFields, schemaField fields key = schemaField others key

variable {fields others front back : List (String × Value)}

theorem SameFields.ofFields (same : SameFields fields others) :
    Operation.ofFields fields = Operation.ofFields others := by
  simp only [Operation.ofFields, nameField, verbField, stringField,
    same.texts "name" (by decide), same.texts "path" (by decide), same.texts "verb" (by decide),
    same.schemas "input" (by decide), same.schemas "output" (by decide)]

private theorem sameFields_of_lookup
    (same : ∀ key ∈ textFields ++ schemaFields, fields.lookup key = others.lookup key) :
    SameFields fields others where
  texts key listed := same key (List.mem_append_left _ listed)
  schemas key listed := by
    rw [schemaField, schemaField, same key (List.mem_append_right _ listed)]

theorem sameFields_of_alike (holds : key ∈ schemaFields) (alike : Schema.Alike value other) :
    SameFields (front ++ (key, value) :: back) (front ++ (key, other) :: back) := by
  have apart : ∀ name ∈ textFields, ∀ key ∈ schemaFields, name ≠ key := by decide
  refine ⟨?_, ?_⟩
  · intro name listed
    have different := apart name listed key holds
    rw [lookup_remove different, lookup_remove different]
  · intro name listed
    rw [schemaField, schemaField]
    by_cases here : name = key
    · rw [here, List.lookup_append, List.lookup_append, List.lookup_cons, List.lookup_cons,
        beq_self_eq_true]
      rcases alike with rfl | ⟨members, others, rfl, rfl, same⟩
      · rfl
      · cases front.lookup key with
        | some found => rfl
        | none => exact congrArg Except.ok same
    · rw [lookup_remove here, lookup_remove here]

/-- An edit changes neither the operation nor what is wrong with it. -/
theorem Edited.ofElement_eq (edited : Edited value other) : ofElement value = ofElement other := by
  induction edited with
  | refl value => rfl
  | symm _ ih => exact ih.symm
  | trans _ _ ihStart ihRest => exact ihStart.trans ihRest
  | reorder unique moved =>
    exact (sameFields_of_lookup fun key _ => lookup_eq_of_perm unique moved key).ofFields
  | unread front back unread =>
    refine (sameFields_of_lookup fun key listed => ?_).ofFields
    exact lookup_remove (ne_of_mem_of_not_mem listed unread) _
  | schema front back holds edited => exact (sameFields_of_alike holds edited.alike).ofFields

private theorem ofElements_edited (edited : List.Forall₂ Edited elements changed) (index : Nat) :
    ofElements index elements = ofElements index changed := by
  induction edited generalizing index with
  | nil => rfl
  | cons first rest ih => rw [ofElements, ofElements, first.ofElement_eq, ih]

theorem EditedPayload.ofPayload_eq (edited : EditedPayload payload other) :
    ofPayload payload = ofPayload other := by
  cases edited with
  | elements edited => exact ofElements_edited edited 0

end Operation

namespace Module

/-- Payloads that differ at most in the order of the members of operations and of schemas, at any
depth, and in members that are not read, are taken or refused in the same way. They are compiled and
emitted with the same diagnostics, to the same text. -/
theorem emit_eq_of_edited (edited : Operation.EditedPayload payload other) :
    Operation.ofPayload payload = Operation.ofPayload other ∧
      ∀ ops others, Operation.ofPayload payload = .ok ops →
        Operation.ofPayload other = .ok others →
        (Operation.compileAll ops).diagnostics = (Operation.compileAll others).diagnostics ∧
          ∀ baseUrl seconds, emit (Operation.compileAll ops).result baseUrl seconds =
            emit (Operation.compileAll others).result baseUrl seconds := by
  have same := edited.ofPayload_eq
  refine ⟨same, ?_⟩
  intro ops others accepted otherAccepted
  have sameOps : ops = others := by
    rw [accepted, otherAccepted] at same
    exact Except.ok.inj same
  rw [sameOps]
  exact ⟨rfl, fun _ _ => rfl⟩

section Shuffled
open Schema (Edited)

def wordSchema : List (String × Value) :=
  [("type", .string "string"), ("pattern", .string "[a-z]+")]

/-- The same schema with a title, in another order. -/
def titledWord : List (String × Value) :=
  [("title", .string "Word"), ("pattern", .string "[a-z]+"), ("type", .string "string")]

/-- A schema of objects with a word. -/
def wordInput : Value := .object [("properties", .object [("word", .object wordSchema)]),
  ("required", .array [.string "word"])]

/-- The same schema with a title in it, in another order. -/
def shuffledInput : Value := .object [("required", .array [.string "word"]),
  ("properties", .object [("word", .object titledWord)])]

def findFields (input : Value) : List (String × Value) :=
  [("name", .string "find"), ("path", .string "/find"), ("verb", .string "post"),
    ("input", input), ("output", .object [])]

/-- The same operation as another service may list it. -/
def shuffledFields : List (String × Value) :=
  [("output", .object []), ("summary", .string "Finds a word."), ("name", .string "find"),
    ("path", .string "/find"), ("verb", .string "post"), ("input", shuffledInput)]

private theorem edited_word : Edited (.object wordSchema) (.object titledWord) := by
  have moved : wordSchema.Perm wordSchema.reverse := (List.reverse_perm wordSchema).symm
  have titled : Edited (.object titledWord) (.object wordSchema.reverse) :=
    .unread [] wordSchema.reverse (by decide)
  exact (Edited.reorder (by decide) moved).trans titled.symm

/-- An edit of a property, and then another order. -/
theorem edited_input : Edited wordInput shuffledInput := by
  have inner := Edited.property [] [("required", .array [.string "word"])] [] [] "word"
    edited_word
  exact inner.trans (.reorder (by decide) (.swap _ _ []))

private theorem edited_shuffled : Operation.EditedPayload (.array [.object (findFields wordInput)])
    (.array [.object shuffledFields]) := by
  have inner : Operation.Edited (.object (findFields wordInput))
      (.object (findFields shuffledInput)) :=
    .schema ((findFields wordInput).take 3) [("output", .object [])] (by decide) edited_input
  have order : (findFields shuffledInput).Perm (shuffledFields.eraseIdx 1) :=
    @List.perm_append_comm _ ((findFields shuffledInput).take 4) [("output", .object [])]
  have moved := Operation.Edited.reorder (by decide) order
  have listed : Operation.Edited (.object shuffledFields) (.object (shuffledFields.eraseIdx 1)) :=
    .unread (shuffledFields.take 1) (shuffledFields.drop 2) (by decide)
  exact .elements (.cons (inner.trans (moved.trans listed.symm)) .nil)

/-- The operation of both. -/
def find : Operation where
  name := "find"
  path := "/find"
  verb := .post
  input := .object
    ⟨[("word", .string ⟨none, none, some "[a-z]+", none⟩)], ["word"], .unspecified⟩
  output := .unknown

/-- Both payloads are taken, and describe the same operation. -/
theorem emit_eq_of_edited_shuffled :
    Operation.EditedPayload (.array [.object (findFields wordInput)])
        (.array [.object shuffledFields]) ∧
      Operation.ofPayload (.array [.object (findFields wordInput)]) = .ok [find] ∧
      Operation.ofPayload (.array [.object shuffledFields]) = .ok [find] := by
  have accepted : Operation.ofPayload (.array [.object (findFields wordInput)]) = .ok [find] := rfl
  obtain ⟨same, -⟩ := emit_eq_of_edited edited_shuffled
  exact ⟨edited_shuffled, accepted, same.symm.trans accepted⟩

end Shuffled

end Module

end ClientGen
