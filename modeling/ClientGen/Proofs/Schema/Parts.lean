import ClientGen.Proofs.Schema.Positions
import ClientGen.Proofs.Schema.Requirements

/-!
Parts of schemas. A schema is compiled from its own words and from its parts: the items of an array,
the properties of the object that it is compiled as with the schema of all others, and the members
of a union. A schema that merging drops is no part. Parts are smaller than the whole, so what goes
from all parts to the whole holds of every schema.
-/
namespace ClientGen

namespace ObjectShape

theorem All.imp {P Q : σ → Prop} {shape : ObjectShape σ} (all : shape.All P)
    (step : ∀ schema, P schema → Q schema) : shape.All Q :=
  ⟨fun entry listed => step _ (all.1 entry listed),
    fun schema described => step _ (all.2 schema described)⟩

/-- The schema of additional properties, if there is one. -/
def others? (shape : ObjectShape σ) : Option σ :=
  match shape.additional with
  | .described schema => some schema
  | .allowed _ | .unspecified => none

/-- The descriptions in a shape: of its properties in order, then of all others. -/
def descriptions (shape : ObjectShape σ) : List σ :=
  shape.properties.map Prod.snd ++ shape.others?.toList

theorem others?_eq_some_iff (shape : ObjectShape σ) (schema : σ) :
    shape.others? = some schema ↔ shape.additional = .described schema := by
  unfold others?
  cases shape.additional <;> simp

theorem all_iff (shape : ObjectShape σ) (P : σ → Prop) :
    shape.All P ↔ ∀ schema ∈ shape.descriptions, P schema := by
  simp only [All, descriptions, List.forall_mem_append, List.forall_mem_map, Option.mem_toList,
    others?_eq_some_iff]

theorem descriptions_map (f : σ → τ) (shape : ObjectShape σ) :
    (shape.map (fun _ => f) f).descriptions = shape.descriptions.map f := by
  obtain ⟨properties, required, additional⟩ := shape
  cases additional <;> simp [descriptions, others?, map, Additional.map]

end ObjectShape

namespace Schema

/-- The schemas that a schema is compiled from, in the order in which its texts hold them. -/
def parts : Schema → List Schema
  | .array items _ => items.toList
  | .object shape => shape.descriptions
  | .combination .allOf members =>
    match ObjectShape.mergeAll (members.map object?) with
    | some shape => shape.descriptions
    | none => []
  | .combination .anyOf members | .combination .oneOf members => members
  | .reference _ | .string _ | .enumeration _ | .number _ | .boolean | .null | .nullable
  | .unknown => []

/-- A schema in another one, at any depth. -/
inductive Within (inner : Schema) : Schema → Prop
  | here : Within inner inner
  | deeper {part schema : Schema} (isPart : part ∈ schema.parts) (within : Within inner part) :
      Within inner schema

theorem parts_of_objectShape? {schema : Schema} {shape : ObjectShape Schema}
    (found : schema.objectShape? = some shape) : schema.parts = shape.descriptions := by
  cases schema with
  | object own =>
    cases found
    rfl
  | combination how members =>
    cases how with
    | allOf =>
      have merged : ObjectShape.mergeAll (members.map object?) = some shape := found
      rw [parts, merged]
    | anyOf => cases found
    | oneOf => cases found
  | _ => cases found

theorem parts_union {how : Combination} (united : how ≠ .allOf) (members : List Schema) :
    (combination how members).parts = members := by
  cases how with
  | allOf => exact absurd rfl united
  | anyOf => rfl
  | oneOf => rfl

/-- The forms of schemas as the compiler tells them apart: an object is one after merging, and a
merge without objects is none. -/
theorem forms {P : Schema → Prop}
    (object : ∀ {schema shape}, schema.objectShape? = some shape → P schema)
    (unmerged : ∀ {members}, (combination .allOf members).objectShape? = none →
      P (.combination .allOf members))
    (union : ∀ {how members}, how ≠ .allOf → P (.combination how members))
    (array : ∀ items constraints, P (.array items constraints))
    (enumeration : ∀ values, P (.enumeration values))
    (reference : ∀ target, P (.reference target)) (string : ∀ constraints, P (.string constraints))
    (number : ∀ constraints, P (.number constraints)) (boolean : P .boolean) (null : P .null)
    (nullable : P .nullable) (unknown : P .unknown) (schema : Schema) : P schema := by
  cases found : schema.objectShape? with
  | some shape => exact object found
  | none =>
    cases schema with
    | combination how members =>
      by_cases united : how = .allOf
      · subst united
        exact unmerged found
      · exact union united
    | object shape => cases found
    | array items constraints => exact array items constraints
    | enumeration values => exact enumeration values
    | reference target => exact reference target
    | string constraints => exact string constraints
    | number constraints => exact number constraints
    | boolean => exact boolean
    | null => exact null
    | nullable => exact nullable
    | unknown => exact unknown

theorem parts_unmerged {members : List Schema}
    (nothing : (combination .allOf members).objectShape? = none) :
    (combination .allOf members).parts = [] := by
  have unmerged : ObjectShape.mergeAll (members.map object?) = none := nothing
  rw [parts, unmerged]

section Size

private theorem smaller_in_shape (shape : ObjectShape Schema) :
    shape.All fun part => sizeOf part < sizeOf shape := by
  obtain ⟨properties, required, additional⟩ := shape
  constructor
  · rintro ⟨name, part⟩ listed
    have inList := List.sizeOf_lt_of_mem listed
    simp only [Prod.mk.sizeOf_spec] at inList
    simp only [ObjectShape.mk.sizeOf_spec]
    omega
  · rintro part ⟨rfl⟩
    simp only [ObjectShape.mk.sizeOf_spec, Additional.described.sizeOf_spec]
    omega

private theorem smaller_in_objectShape {schema : Schema} {shape : ObjectShape Schema}
    (found : schema.objectShape? = some shape) :
    shape.All fun part => sizeOf part < sizeOf schema := by
  cases schema with
  | object own =>
    cases found
    refine (smaller_in_shape shape).imp fun part smaller => ?_
    simp only [Schema.object.sizeOf_spec]
    omega
  | combination how members =>
    cases how with
    | allOf =>
      apply ObjectShape.All.mergeAll _ found
      intro shape listed
      obtain ⟨member, inMembers, own⟩ := List.mem_map.mp listed
      cases member with
      | object described =>
        cases own
        refine (smaller_in_shape shape).imp fun part smaller => ?_
        have inList := List.sizeOf_lt_of_mem inMembers
        simp only [Schema.object.sizeOf_spec] at inList
        simp only [Schema.combination.sizeOf_spec]
        omega
      | _ => cases own
    | anyOf => cases found
    | oneOf => cases found
  | _ => cases found

private theorem smaller_of_mem_parts {part schema : Schema} (isPart : part ∈ schema.parts) :
    sizeOf part < sizeOf schema := by
  cases schema using forms with
  | object found =>
    rw [parts_of_objectShape? found] at isPart
    exact (ObjectShape.all_iff _ _).mp (smaller_in_objectShape found) part isPart
  | unmerged nothing =>
    rw [parts_unmerged nothing] at isPart
    cases isPart
  | union united =>
    rw [parts_union united] at isPart
    have inList := List.sizeOf_lt_of_mem isPart
    simp only [Schema.combination.sizeOf_spec]
    omega
  | array items constraints =>
    obtain rfl : items = some part := Option.mem_toList.mp isPart
    simp only [Schema.array.sizeOf_spec, Option.some.sizeOf_spec]
    omega
  | _ => cases isPart

/-- What goes from all parts of a schema to the schema holds of every schema. -/
theorem induction_on_parts {P : Schema → Prop}
    (step : ∀ schema, (∀ part ∈ schema.parts, P part) → P schema) (schema : Schema) : P schema :=
  step schema fun part _ => induction_on_parts step part
termination_by sizeOf schema
decreasing_by exact smaller_of_mem_parts ‹_›

/-- What each schema adds to what its parts give is what all schemas within it add. -/
theorem mem_iff_of_parts {gather own : Schema → List α}
    (step : ∀ schema, gather schema = own schema ++ schema.parts.flatMap gather) (schema : Schema)
    (a : α) : a ∈ gather schema ↔ ∃ inner, Within inner schema ∧ a ∈ own inner := by
  induction schema using induction_on_parts with
  | step schema ih =>
    rw [step, List.mem_append, List.mem_flatMap]
    constructor
    · rintro (added | ⟨part, isPart, gathered⟩)
      · exact ⟨schema, .here, added⟩
      · obtain ⟨inner, within, added⟩ := (ih part isPart).mp gathered
        exact ⟨inner, .deeper isPart within, added⟩
    · rintro ⟨inner, within, added⟩
      -- the first step on the way down leads into a part
      cases within with
      | here => exact .inl added
      | deeper isPart within => exact .inr ⟨_, isPart, (ih _ isPart).mpr ⟨inner, within, added⟩⟩

end Size

section Compiling

/-- The compiled word on additional properties. -/
def othersOf : Additional Compiled → Option Compiled
  | .described others => some others
  | .allowed true => some .unknown
  | .allowed false | .unspecified => none

/-- An object from its compiled parts; a record if it has no properties. -/
def objectOfParts (shape : ObjectShape Compiled) : Compiled :=
  match shape.properties, shape.additional with
  | [], .described value => .record value
  | [], _ => .record .unknown
  | properties, additional => objectFrom shape properties (othersOf additional)

def unionOfParts : List Compiled → Compiled
  | [] => .unknown
  | [only] => only
  | members => ⟨.union (members.map Compiled.validator), .union (members.map Compiled.type)⟩

theorem objectOf_result (shape : ObjectShape (Traced Compiled)) :
    (objectOf shape).result =
      objectOfParts (shape.map (fun _ => Traced.result) Traced.result) := by
  obtain ⟨properties, required, additional⟩ := shape
  cases properties with
  | nil => cases additional <;> rfl
  | cons first rest =>
    rw [objectOf_result_cons]
    cases additional with
    | unspecified => rfl
    | allowed isAllowed => cases isAllowed <;> rfl
    | described others => rfl

private theorem unionOf_result (how : Combination) (hint : String) (members : List Compiled) :
    (unionOf how hint members).result = unionOfParts members := by
  match members with
  | [] => rfl
  | [only] => rfl
  | first :: second :: rest => rfl

/-- What a schema is compiled to, wherever it stands. -/
def compiled (schema : Schema) : Compiled := (schema.compile "").result

/-- A schema that is compiled alike at all positions. -/
def PositionFree (schema : Schema) : Prop :=
  ∀ hint, (schema.compile hint).result = schema.compiled

/-- Positions are named in diagnostics only. -/
theorem position_free (schema : Schema) : schema.PositionFree := by
  intro hint
  have moved := compile_under hint "" schema
  rw [String.append_empty] at moved
  rw [moved]
  rfl

private theorem memberTraces_result (how : Combination) (hint : String) (index : Nat)
    (members : List Schema) :
    (memberTraces how hint index members).map Traced.result = members.map compiled := by
  induction members generalizing index with
  | nil => rfl
  | cons first rest ih => rw [memberTraces, List.map_cons, List.map_cons, ih, position_free]

theorem compiled_array (items : Schema) (constraints : ArrayConstraints) :
    (array (some items) constraints).compiled = arrayOf constraints items.compiled :=
  congrArg (arrayOf constraints) (position_free items _)

theorem compiled_object {schema : Schema} {shape : ObjectShape Schema}
    (found : schema.objectShape? = some shape) :
    schema.compiled = objectOfParts (shape.map (fun _ => compiled) compiled) := by
  obtain ⟨position, same⟩ := compile_of_objectShape? found ""
  have alike : ∀ (part : Schema) hint, (part.compile hint).result = part.compiled := position_free
  have results : (compileShape position shape).map (fun _ => Traced.result) Traced.result =
      shape.map (fun _ => compiled) compiled := by
    obtain ⟨properties, required, additional⟩ := shape
    rw [compileShape_eq_map]
    cases additional <;> simp [ObjectShape.map, Additional.map, alike]
  rw [compiled, same, objectOf_result, results]

theorem compiled_unmerged {members : List Schema}
    (nothing : (combination .allOf members).objectShape? = none) :
    (combination .allOf members).compiled = .unknown := by
  have unmerged : ObjectShape.mergeAll (members.map object?) = none := nothing
  rw [compiled, compile_allOf_result, unmerged]

theorem compiled_union {how : Combination} (united : how ≠ .allOf) (members : List Schema) :
    (combination how members).compiled = unionOfParts (members.map compiled) := by
  rw [compiled, compile_combination "" united, Traced.bind_result, gatherMembers_result,
    memberTraces_result, unionOf_result]

end Compiling

end Schema
end ClientGen
