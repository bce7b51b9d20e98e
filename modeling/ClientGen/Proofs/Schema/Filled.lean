import Mathlib.Logic.Relation
import ClientGen.Proofs.Schema.Editing
import ClientGen.Proofs.Schema.Parts

/-!
Enumerations of schemas that come from payloads. Wherever reading makes an enumeration, on either of
its two ways and at any depth, it has found a value, and merging takes no value away. So compiling
such a schema never falls back on the permissive validator for want of values. A choice or a union
of nothing is never compiled to, whatever the schema is.
-/
namespace ClientGen
open Json

/-- What stands in a tree, at any depth: the tree itself, and what stands in one of its children. -/
def Inside (children : α → List α) : α → α → Prop :=
  Relation.ReflTransGen fun part whole => part ∈ children whole

theorem forall_inside_iff {children : α → List α} {P : α → Prop} {whole : α} :
    (∀ inner, Inside children inner whole → P inner) ↔
      P whole ∧ ∀ part ∈ children whole, ∀ inner, Inside children inner part → P inner := by
  constructor
  · intro all
    exact ⟨all whole .refl, fun part isChild inner inside => all inner (inside.tail isChild)⟩
  · rintro ⟨own, parts⟩ inner inside
    rcases (Relation.ReflTransGen.cases_tail_iff _ _ _).mp inside with
      rfl | ⟨part, inPart, isChild⟩
    · exact own
    · exact parts part isChild inner inPart

namespace Validator

/-- The validators that stand in a validator without another one in between. -/
def children : Validator → List Validator
  | .array item => [item]
  | .object fields => fields.map Prod.snd
  | .record value => [value]
  | .union members => members
  | .checked base _ | .optional base | .nullable base => [base]
  | .catchall base others => [base, others]
  | .string | .number | .boolean | .null | .unknown | .literal _ | .choice _ | .reference _ => []

/-- A validator, neither a choice nor a union of nothing. -/
def OffersSome (validator : Validator) : Prop := validator ≠ .choice [] ∧ validator ≠ .union []

/-- Every choice and every union in a validator offers something. -/
def Offering (validator : Validator) : Prop :=
  ∀ inner, Inside children inner validator → inner.OffersSome

theorem offering_iff {validator : Validator} :
    validator.Offering ↔ validator.OffersSome ∧ ∀ child ∈ validator.children, child.Offering :=
  forall_inside_iff

private theorem offering_of_parts {validator : Validator} (own : validator.OffersSome)
    (each : ∀ child ∈ validator.children, child.Offering) : validator.Offering :=
  offering_iff.mpr ⟨own, each⟩

private theorem offering_over {validator base : Validator} (own : validator.OffersSome)
    (single : validator.children = [base]) (offering : base.Offering) : validator.Offering := by
  refine offering_of_parts own ?_
  rw [single]
  exact List.forall_mem_singleton.mpr offering

private theorem offering_of_leaf {validator : Validator} (own : validator.OffersSome)
    (leaf : validator.children = []) : validator.Offering := by
  refine offering_of_parts own ?_
  rw [leaf]
  exact List.forall_mem_nil _

theorem offering_withChecks (checks : List Check) {base : Validator} (offering : base.Offering) :
    (base.withChecks checks).Offering := by
  induction checks generalizing base with
  | nil => exact offering
  | cons check rest ih => exact ih (offering_over ⟨nofun, nofun⟩ rfl offering)

end Validator

namespace Schema

/-- The schemas that stand in a schema without another one in between. -/
def children : Schema → List Schema
  | .array items _ => items.toList
  | .object shape => shape.descriptions
  | .combination _ members => members
  | .reference _ | .string _ | .enumeration _ | .number _ | .boolean | .null | .nullable
  | .unknown => []

/-- Every enumeration in a schema has a value. -/
def Filled (schema : Schema) : Prop :=
  ∀ inner, Inside children inner schema → inner ≠ .enumeration []

theorem filled_iff {schema : Schema} :
    schema.Filled ↔ schema ≠ .enumeration [] ∧ ∀ child ∈ schema.children, child.Filled :=
  forall_inside_iff

private theorem filled_of_leaf {schema : Schema} (own : schema ≠ .enumeration [])
    (leaf : schema.children = []) : schema.Filled := by
  rw [filled_iff, leaf]
  exact ⟨own, List.forall_mem_nil _⟩

private theorem filled_object {shape : ObjectShape Schema} :
    (object shape).Filled ↔ shape.All Filled := by
  rw [filled_iff, ObjectShape.all_iff]
  exact and_iff_right (by simp)

private theorem filled_combination {how : Combination} {members : List Schema} :
    (combination how members).Filled ↔ ∀ member ∈ members, member.Filled := by
  rw [filled_iff]
  exact and_iff_right (by simp)

private theorem filled_array {items : Option Schema} {constraints : ArrayConstraints} :
    (array items constraints).Filled ↔ ∀ schema ∈ items, schema.Filled := by
  rw [filled_iff]
  simp [children]

/-- The first of two readings that gives a schema. -/
theorem filled_orElse {first : Option Schema} {second : Unit → Option Schema}
    (one : ∀ schema, first = some schema → schema.Filled)
    (other : ∀ schema, second () = some schema → schema.Filled) :
    ∀ schema, first.orElse second = some schema → schema.Filled := by
  cases first with
  | none => exact other
  | some own => exact one

theorem filled_getD {found : Option Schema} (each : ∀ schema, found = some schema → schema.Filled) :
    (found.getD .unknown).Filled := by
  cases found with
  | none => exact filled_of_leaf nofun rfl
  | some schema => exact each schema rfl

section Reading

/-- Every enumeration that a value gives, by itself, in its items or in its members, has a value. -/
structure Reading.Filled (reading : Reading) : Prop where
  schema : reading.schema.Filled
  items : ∀ item ∈ reading.items, item.Filled
  members : ∀ member ∈ reading.members, member.2.Filled

variable {keywords : Keywords} {readings : List (String × Reading)}

theorem listedValues?_ne_nil {values : List Value} (found : listedValues? keywords = some values) :
    values ≠ [] := by
  unfold listedValues? at found
  split at found
  next => 
    cases found
    exact List.cons_ne_nil _ _
  next =>
    obtain ⟨value, -, rfl⟩ := Option.map_eq_some_iff.mp found
    exact List.cons_ne_nil _ _

private theorem filled_listed {schema : Schema}
    (found : (listedValues? keywords).map Schema.enumeration = some schema) : schema.Filled := by
  obtain ⟨values, listed, rfl⟩ := Option.map_eq_some_iff.mp found
  refine filled_of_leaf ?_ rfl
  rintro ⟨rfl⟩
  exact listedValues?_ne_nil listed rfl

variable (each : ∀ entry ∈ readings, entry.2.Filled)
include each

private theorem filled_lookup {key : String} {reading : Reading}
    (found : readings.lookup key = some reading) : reading.Filled :=
  each _ (Ordered.mem_of_lookup found)

private theorem filled_objectShape : (objectShape keywords readings).All Filled := by
  constructor
  · intro entry listed
    unfold objectShape at listed
    cases found : readings.lookup "properties" with
    | none =>
      rw [found] at listed
      cases listed
    | some reading =>
      rw [found] at listed
      exact (filled_lookup each found).members entry listed
  · intro schema described
    have described : additional readings = .described schema := described
    unfold additional at described
    split at described
    next => cases described
    next reading found =>
      split at described
      · cases described
      · cases described
        exact (filled_lookup each found).schema
      · cases described

private theorem filled_ofTypeName {name : String} {schema : Schema}
    (found : ofTypeName? keywords readings name = some schema) : schema.Filled := by
  unfold ofTypeName? at found
  split at found
  next =>
    split at found
    next values listed => exact filled_listed (by rw [listed]; exact found)
    next =>
      cases found
      exact filled_of_leaf nofun rfl
  iterate 4
    split at found
    next =>
      cases found
      exact filled_of_leaf nofun rfl
  split at found
  next =>
    cases found
    rw [filled_array]
    intro item inItems
    obtain ⟨reading, found, rfl⟩ := Option.map_eq_some_iff.mp inItems
    exact (filled_lookup each found).schema
  split at found
  next =>
    cases found
    exact filled_object.mpr (filled_objectShape each)
  next => cases found

private theorem filled_ofType {schema : Schema} (found : ofType? keywords readings = some schema) :
    schema.Filled := by
  have named : ∀ names : List String, ∀ member ∈ names.filterMap (ofTypeName? keywords readings),
      member.Filled := by
    intro names member listed
    obtain ⟨name, -, found⟩ := List.mem_filterMap.mp listed
    exact filled_ofTypeName each found
  unfold ofType? at found
  split at found
  · exact filled_ofTypeName each found
  · next names _ =>
    have members := named (names.filterMap Value.string?)
    split at found
    · cases found
    · next only single =>
      cases found
      exact members _ (by simp [single])
    · cases found
      exact filled_combination.mpr members
  · cases found

private theorem filled_ofCombination {keyword : String} {how : Combination} {schema : Schema}
    (found : ofCombination? readings keyword how = some schema) : schema.Filled := by
  unfold ofCombination? at found
  split at found
  next reading stands =>
    split at found
    · cases found
      exact filled_combination.mpr (filled_lookup each stands).items
    · cases found
  next => cases found

private theorem filled_ofKeywords : (ofKeywords keywords readings).Filled := by
  refine filled_getD <| filled_orElse ?reference <| filled_orElse ?type <|
    filled_orElse ?object <| filled_orElse ?listed <| filled_orElse ?anyOf <|
    filled_orElse ?oneOf <| filled_orElse ?allOf ?nullable
  case reference =>
    intro schema found
    obtain ⟨target, -, rfl⟩ := Option.map_eq_some_iff.mp found
    exact filled_of_leaf nofun rfl
  case type => exact fun _ => filled_ofType each
  case object =>
    intro schema found
    split at found
    · cases found
      exact filled_object.mpr (filled_objectShape each)
    · cases found
  case listed => exact fun _ => filled_listed
  case anyOf => exact fun _ => filled_ofCombination each
  case oneOf => exact fun _ => filled_ofCombination each
  case allOf => exact fun _ => filled_ofCombination each
  case nullable =>
    intro schema found
    split at found
    · cases found
      exact filled_of_leaf nofun rfl
    · cases found

omit each

mutual
private theorem filled_read : (value : Value) → (read value).Filled
  | .object members => by
    have each := filled_readMembers members
    refine ⟨filled_ofKeywords each, List.forall_mem_nil _, List.forall_mem_map.mpr ?_⟩
    exact fun entry listed => (each entry listed).schema
  | .array items => by
    have each := filled_readItems items
    refine ⟨filled_of_leaf nofun rfl, List.forall_mem_map.mpr ?_, List.forall_mem_nil _⟩
    exact fun reading listed => (each reading listed).schema
  | .null | .boolean _ | .number _ | .string _ =>
    ⟨filled_of_leaf nofun rfl, List.forall_mem_nil _, List.forall_mem_nil _⟩
private theorem filled_readItems : (items : List Value) →
    ∀ reading ∈ readItems items, reading.Filled
  | [] => List.forall_mem_nil _
  | item :: rest => List.forall_mem_cons.mpr ⟨filled_read item, filled_readItems rest⟩
private theorem filled_readMembers : (members : List (String × Value)) →
    ∀ entry ∈ readMembers members, entry.2.Filled
  | [] => List.forall_mem_nil _
  | member :: rest => List.forall_mem_cons.mpr ⟨filled_readMember member, filled_readMembers rest⟩
private theorem filled_readMember : (member : String × Value) → (readMember member).2.Filled
  | (_, value) => filled_read value
end

/-- Reading makes no enumeration without a value. -/
theorem filled_ofJson (value : Value) : (ofJson value).Filled := (filled_read value).schema

end Reading

section Merging

private theorem filled_mergeAll {members : List Schema} (each : ∀ member ∈ members, member.Filled)
    {shape : ObjectShape Schema}
    (found : ObjectShape.mergeAll (members.map object?) = some shape) : shape.All Filled := by
  refine ObjectShape.All.mergeAll ?_ found
  intro own listed
  obtain ⟨member, inMembers, isObject⟩ := List.mem_map.mp listed
  cases member with
  | object described =>
    cases isObject
    exact filled_object.mp (each _ inMembers)
  | _ => cases isObject

/-- Merging its objects takes no value from an enumeration of a schema. -/
theorem Filled.parts {schema : Schema} (filled : schema.Filled) :
    ∀ part ∈ schema.parts, part.Filled := by
  cases schema using forms with
  | @object schema shape found =>
    rw [parts_of_objectShape? found, ← ObjectShape.all_iff]
    cases schema with
    | object own =>
      cases found
      exact filled_object.mp filled
    | combination how members =>
      cases how with
      | allOf => exact filled_mergeAll (filled_combination.mp filled) found
      | anyOf => cases found
      | oneOf => cases found
    | _ => cases found
  | unmerged nothing =>
    rw [parts_unmerged nothing]
    exact List.forall_mem_nil _
  | union united =>
    rw [parts_union united]
    exact filled_combination.mp filled
  | array items constraints =>
    intro part isPart
    exact filled_array.mp filled part (Option.mem_toList.mp isPart)
  | _ => exact List.forall_mem_nil _

theorem Filled.within {schema inner : Schema} (filled : schema.Filled)
    (within : Within inner schema) : inner.Filled := by
  induction within with
  | here => exact filled
  | deeper isPart _ ih => exact ih (filled.parts _ isPart)

end Merging

section Compiling
open Traced

/-- A diagnostic other than that of an enumeration without values. -/
def NotEmpty (d : Diagnostic) : Prop := ∀ position, d ≠ .emptyEnumeration position

private theorem reports_items {P : Diagnostic → Prop} (hint : String) {items : Option Schema}
    (each : ∀ item ∈ items, ∀ position, (item.compile position).Reports P) :
    (compileItems hint items).Reports P := by
  cases items with
  | none => exact .pure _
  | some item => exact each item rfl _

private theorem reports_shape {P : Diagnostic → Prop} (hint : String) {shape : ObjectShape Schema}
    (each : shape.All fun part => ∀ position, (part.compile position).Reports P) :
    (compileShape hint shape).All (Reports P) := by
  rw [compileShape_eq_map]
  obtain ⟨properties, required, additional⟩ := shape
  constructor
  · exact List.forall_mem_map.mpr fun entry listed => each.1 entry listed _
  · intro compiled described
    cases additional with
    | described schema =>
      cases described
      exact each.2 schema rfl _
    | unspecified => cases described
    | allowed isAllowed => cases described

private theorem reports_memberTraces {P : Diagnostic → Prop} (how : Combination) (hint : String)
    (index : Nat) {members : List Schema}
    (each : ∀ member ∈ members, ∀ position, (member.compile position).Reports P) :
    ∀ traced ∈ memberTraces how hint index members, traced.Reports P := by
  induction members generalizing index with
  | nil => exact List.forall_mem_nil _
  | cons first rest ih =>
    obtain ⟨own, others⟩ := List.forall_mem_cons.mp each
    exact List.forall_mem_cons.mpr ⟨own _, ih _ others⟩

/-- A schema whose enumerations all have values is compiled without want of values. -/
theorem notEmpty_compile (schema : Schema) (filled : schema.Filled) (hint : String) :
    (schema.compile hint).Reports NotEmpty := by
  induction schema using induction_on_parts generalizing hint with
  | step schema ih =>
    have each : ∀ part ∈ schema.parts, ∀ position, (part.compile position).Reports NotEmpty :=
      fun part isPart => ih part isPart (filled.parts part isPart)
    cases schema with
    | object shape =>
      exact reports_objectOf _ (reports_shape hint ((ObjectShape.all_iff _ _).mpr each))
    | array items constraints =>
      exact .map _ (reports_items hint fun item listed => each item (Option.mem_toList.mpr listed))
    | enumeration values =>
      refine reports_enumeration hint values ?_
      rintro rfl
      exact absurd rfl (filled_iff.mp filled).1
    | combination how members =>
      by_cases united : how = .allOf
      · subst united
        refine reports_mergedOf hint _ nofun nofun ?_
        intro compiled found
        rw [mergeAll_compileShapes] at found
        obtain ⟨shape, merged, rfl⟩ := Option.map_eq_some_iff.mp found
        have parts : (combination .allOf members).parts = shape.descriptions :=
          parts_of_objectShape? merged
        rw [parts] at each
        exact reports_shape _ ((ObjectShape.all_iff _ _).mpr each)
      · rw [parts_union united] at each
        rw [compile_combination hint united]
        exact .bind (reports_gatherMembers _ (reports_memberTraces how hint 0 each))
          (reports_unionOf hint how nofun _)
    | unknown => exact .bind (.report nofun) (.pure _)
    | reference target => exact .pure _
    | string constraints => exact .pure _
    | number constraints => exact .pure _
    | boolean => exact .pure _
    | null => exact .pure _
    | nullable => exact .pure _

private theorem offering_enumeration (hint : String) (values : List Value) :
    (compileEnumeration hint values).result.validator.Offering := by
  match values with
  | [] => exact Validator.offering_of_leaf ⟨nofun, nofun⟩ rfl
  | [value] => exact Validator.offering_of_leaf ⟨nofun, nofun⟩ rfl
  | first :: second :: rest =>
    unfold compileEnumeration
    dsimp only
    split
    · exact Validator.offering_of_leaf ⟨nofun, nofun⟩ rfl
    · refine Validator.offering_of_parts ⟨nofun, nofun⟩ (List.forall_mem_map.mpr fun value _ => ?_)
      exact Validator.offering_of_leaf ⟨nofun, nofun⟩ rfl

private theorem offering_objectFrom (shape : ObjectShape σ) (fields : List (String × Compiled))
    (others : Option Compiled) (each : ∀ field ∈ fields, field.2.validator.Offering)
    (rest : ∀ other, others = some other → other.validator.Offering) :
    (objectFrom shape fields others).validator.Offering := by
  have object : (Validator.object (fields.map (fieldValidator shape))).Offering := by
    refine Validator.offering_of_parts ⟨nofun, nofun⟩ ?_
    refine List.forall_mem_map.mpr (List.forall_mem_map.mpr fun field listed => ?_)
    unfold fieldValidator
    dsimp only
    split
    · exact each field listed
    · exact Validator.offering_over ⟨nofun, nofun⟩ rfl (each field listed)
  cases others with
  | none => exact object
  | some other =>
    refine Validator.offering_of_parts ⟨nofun, nofun⟩ ?_
    exact List.forall_mem_cons.mpr ⟨object, List.forall_mem_singleton.mpr (rest other rfl)⟩

/-- No rule of the compiler writes a choice or a union of nothing. -/
theorem offering_kept : KeptByRules fun compiled => compiled.validator.Offering where
  unknown := Validator.offering_of_leaf ⟨nofun, nofun⟩ rfl
  string _ := Validator.offering_withChecks _ (Validator.offering_of_leaf ⟨nofun, nofun⟩ rfl)
  number _ := Validator.offering_withChecks _ (Validator.offering_of_leaf ⟨nofun, nofun⟩ rfl)
  boolean := Validator.offering_of_leaf ⟨nofun, nofun⟩ rfl
  null := Validator.offering_of_leaf ⟨nofun, nofun⟩ rfl
  nullable := Validator.offering_over ⟨nofun, nofun⟩ rfl
    (Validator.offering_of_leaf ⟨nofun, nofun⟩ rfl)
  enumeration := offering_enumeration
  array _ _ item :=
    Validator.offering_withChecks _ (Validator.offering_over ⟨nofun, nofun⟩ rfl item)
  record _ value := Validator.offering_over ⟨nofun, nofun⟩ rfl value
  object shape fields others _ := offering_objectFrom shape fields others
  union members several each := by
    refine Validator.offering_of_parts ⟨nofun, ?_⟩ (List.forall_mem_map.mpr each)
    intro none
    cases members with
    | nil => simp at several
    | cons first rest => cases none
  reference _ := Validator.offering_of_leaf ⟨nofun, nofun⟩ rfl

end Compiling

/-- A schema that comes from payloads: it was read off a value, stands in such a schema, or is the
object that such schemas are merged to. -/
inductive FromPayload : Schema → Prop
  | read (value : Value) : FromPayload (ofJson value)
  | part {schema inner : Schema} (whole : FromPayload schema)
      (inside : Inside children inner schema) : FromPayload inner
  | merged (hint : String) (each : ∀ member ∈ members, FromPayload member)
      (found : (mergeAllOf hint members).result = some shape) : FromPayload (.object shape)

theorem FromPayload.filled {schema : Schema} (comes : FromPayload schema) : schema.Filled := by
  induction comes with
  | read value => exact filled_ofJson value
  | part _ inside ih => exact fun inner within => ih inner (within.trans inside)
  | merged hint _ found ih => exact filled_object.mpr (filled_mergeAll ih found)

/-- In a schema that comes from payloads every enumeration, at any depth, has a value. Wherever it
is compiled, the validator holds no choice and no union of nothing, and no enumeration is reported
to be empty. -/
theorem payload_enumerations_have_values {schema : Schema} (comes : FromPayload schema) :
    (∀ values, Inside children (.enumeration values) schema → values ≠ []) ∧
      ∀ hint,
        (∀ inner, Inside Validator.children inner (schema.compile hint).result.validator →
          inner ≠ .choice [] ∧ inner ≠ .union []) ∧
        ∀ position, .emptyEnumeration position ∉ (schema.compile hint).diagnostics := by
  refine ⟨?_, fun hint => ⟨compile_keeps offering_kept hint schema, ?_⟩⟩
  · rintro values inside rfl
    exact comes.filled _ inside rfl
  · intro position reported
    exact notEmpty_compile schema comes.filled hint _ reported position rfl

/-- A property of one of two types, one of which has an empty list of values and a single value. -/
def doublyListed : Value :=
  .object [("properties", .object [("a", .object [
    ("type", .array [.string "string", .string "null"]),
    ("enum", .array []), ("const", .string "x")])])]

/-- What such an object is merged to. -/
def listedOnce : ObjectShape Schema :=
  ⟨[("a", .combination .anyOf [.enumeration [.string "x"], .null])], [], .unspecified⟩

/-- The single value is the one of the enumeration, and nothing is missed where it is compiled. -/
theorem payload_enumerations_have_values_once :
    FromPayload (.object listedOnce) ∧
      Inside children (.enumeration [.string "x"]) (.object listedOnce) ∧
      ((∀ values, Inside children (.enumeration values) (.object listedOnce) → values ≠ []) ∧
        ∀ position, .emptyEnumeration position ∉
          ((Schema.object listedOnce).compile "Terms").diagnostics) := by
  have comes : FromPayload (.object listedOnce) :=
    .merged "Terms" (List.forall_mem_singleton.mpr (.read doublyListed)) rfl
  have inUnion : Inside children (.enumeration [.string "x"])
      (.combination .anyOf [.enumeration [.string "x"], .null]) :=
    .single List.mem_cons_self
  have all := payload_enumerations_have_values comes
  exact ⟨comes, inUnion.tail List.mem_cons_self, all.1, (all.2 "Terms").2⟩

end Schema
end ClientGen
