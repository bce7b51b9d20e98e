import ClientGen.Proofs.Schema.Parts
import ClientGen.Proofs.TypeScript.Meaning

/-!
Index signatures of compiled types. The values of a compiled type are those that its schema
describes, part by part. Properties and the schema of all others are compiled apart from each other,
so an index signature takes the properties beside it just where the schemas say so.
-/
namespace ClientGen
open Json TypeScript TypeExpr

namespace ObjectShape

/-- The objects that a shape describes, from the values that its descriptions stand for: every
property is there unless it may be missing, has a value that its description stands for unless it
may be and is undefined, and all members have values that the description of all others stands
for. -/
def Describes (meaning : σ → Datum → Prop) (shape : ObjectShape σ) (d : Datum) : Prop :=
  ∃ members, d = .object members ∧
    (∀ entry ∈ shape.properties,
      (∀ d, members.lookup entry.1 = some d →
        meaning entry.2 d ∨ (shape.requires entry.1 = false ∧ d = .undefined)) ∧
      (members.lookup entry.1 = none → shape.requires entry.1 = false)) ∧
    ∀ others, shape.additional = .described others →
      ∀ name d, members.lookup name = some d → meaning others d

theorem describes_map (f : σ → τ) {meaning : τ → Datum → Prop} {shape : ObjectShape σ} {d : Datum} :
    (shape.map (fun _ => f) f).Describes meaning d ↔
      shape.Describes (fun schema => meaning (f schema)) d := by
  obtain ⟨properties, required, additional⟩ := shape
  refine exists_congr fun members => and_congr_right fun _ => and_congr ?_ ?_
  · exact List.forall_mem_map
  · cases additional <;> simp [map, Additional.map]

private theorem describes_congr {meaning other : σ → Datum → Prop} {shape : ObjectShape σ}
    (same : shape.All fun schema => ∀ d, meaning schema d ↔ other schema d) (d : Datum) :
    shape.Describes meaning d ↔ shape.Describes other d := by
  refine exists_congr fun members => and_congr_right fun _ => and_congr ?_ ?_
  · refine forall₂_congr fun entry listed => and_congr_left fun _ => forall₂_congr fun d _ => ?_
    rw [same.1 entry listed d]
  · refine forall₂_congr fun others described => forall₃_congr fun name d _ => ?_
    exact same.2 others described d

end ObjectShape

namespace Schema

/-- The values that a schema describes, as far as types can tell: checks are not read. All members
of an object are described by the schema of additional properties, and those that are declared by
their own schema as well. -/
inductive Describes (declared : String → Datum → Prop) : Schema → Datum → Prop
  | reference (named : declared (referenceName target) d) : Describes declared (.reference target) d
  | string : Describes declared (.string constraints) (.string s)
  | listed (listed : value ∈ values) (same : LiteralAdmits value d) :
      Describes declared (.enumeration values) d
  | unlisted : Describes declared (.enumeration []) d
  | number : Describes declared (.number constraints) (.number n)
  | boolean : Describes declared .boolean (.boolean b)
  | null : Describes declared .null .null
  | array (each : ∀ schema, items = some schema → ∀ d ∈ data, Describes declared schema d) :
      Describes declared (.array items constraints) (.array data)
  | object (found : schema.objectShape? = some shape)
      (present : ∀ name property d, (name, property) ∈ shape.properties →
        members.lookup name = some d → (shape.requires name = true ∨ d ≠ .undefined) →
        Describes declared property d)
      (missing : ∀ name property, (name, property) ∈ shape.properties →
        members.lookup name = none → shape.requires name = false)
      (rest : ∀ others name d, shape.additional = .described others →
        members.lookup name = some d → Describes declared others d) :
      Describes declared schema (.object members)
  | unmerged (nothing : (combination .allOf members).objectShape? = none) :
      Describes declared (.combination .allOf members) d
  | member (united : how ≠ .allOf) (listed : schema ∈ members)
      (describes : Describes declared schema d) : Describes declared (.combination how members) d
  | memberless (united : how ≠ .allOf) : Describes declared (.combination how []) d
  | nullable : Describes declared .nullable d
  | unknown : Describes declared .unknown d

variable (declared : String → Datum → Prop)

section Rules

private theorem admits_enumeration (hint : String) (values : List Value) (d : Datum) :
    Admits declared (compileEnumeration hint values).result.type d ↔
      values = [] ∨ ∃ value ∈ values, LiteralAdmits value d := by
  have union : ∀ values : List Value,
      Admits declared (.union (values.map .literal)) d ↔
        ∃ value ∈ values, LiteralAdmits value d := by
    intro values
    simp [Admits, someAdmits_iff]
  match values with
  | [] => simp [compileEnumeration, Compiled.unknown, Admits]
  | [value] => simp [compileEnumeration, Admits]
  | first :: second :: rest =>
    have whole := union (first :: second :: rest)
    unfold compileEnumeration
    dsimp only
    split
    next strings => simpa using whole
    next mixed => simpa using whole

private theorem admits_unionOfParts (members : List Compiled) (d : Datum) :
    Admits declared (unionOfParts members).type d ↔
      members = [] ∨ ∃ member ∈ members, Admits declared member.type d := by
  match members with
  | [] => simp [unionOfParts, Compiled.unknown, Admits]
  | [only] => simp [unionOfParts]
  | first :: second :: rest => simp [unionOfParts, Admits, someAdmits_iff]

private theorem admits_objectOfParts (shape : ObjectShape Compiled) (d : Datum) :
    Admits declared (objectOfParts shape).type d ↔
      shape.Describes (fun part => Admits declared part.type) d := by
  obtain ⟨properties, required, additional⟩ := shape
  cases properties with
  | nil =>
    cases additional with
    | unspecified => simp [objectOfParts, Compiled.record, Compiled.unknown, Admits,
      ObjectShape.Describes]
    | allowed isAllowed => simp [objectOfParts, Compiled.record, Compiled.unknown, Admits,
      ObjectShape.Describes]
    | described value => simp [objectOfParts, Compiled.record, Admits, ObjectShape.Describes]
  | cons first rest =>
    have type : (objectOfParts ⟨first :: rest, required, additional⟩).type =
        .object ((first :: rest).map (fieldType ⟨first :: rest, required, additional⟩))
          ((othersOf additional).map Compiled.type) := by
      cases additional <;> rfl
    rw [type, Admits]
    refine exists_congr fun members => and_congr_right fun _ => and_congr ?_ ?_
    · rw [fieldsAdmit_iff, List.forall_mem_map]
      simp only [fieldType, FieldHolds, Bool.not_eq_true']
    · cases additional with
      | unspecified => simp [othersOf, OthersAdmit]
      | allowed isAllowed =>
        cases isAllowed <;> simp [othersOf, OthersAdmit, Compiled.unknown, Admits]
      | described others => simp [othersOf, OthersAdmit]

end Rules

section Inversion

variable {declared : String → Datum → Prop} {d : Datum}

theorem describes_object_iff {schema : Schema} {shape : ObjectShape Schema}
    (found : schema.objectShape? = some shape) :
    schema.Describes declared d ↔ shape.Describes (Describes declared) d := by
  constructor
  · intro describes
    cases describes with
    | object same present missing rest =>
      obtain rfl := Option.some.inj (found.symm.trans same)
      refine ⟨_, rfl, ?_, fun others described name d => rest others name d described⟩
      rintro ⟨name, property⟩ listed
      refine ⟨fun d held => ?_, missing name property listed⟩
      by_cases free : shape.requires name = false ∧ d = .undefined
      · exact .inr free
      · refine .inl (present name property d listed held ?_)
        by_cases required : shape.requires name = true
        · exact .inl required
        · exact .inr fun undefined => free ⟨Bool.eq_false_iff.mpr required, undefined⟩
    | unmerged nothing =>
      rw [nothing] at found
      cases found
    | @member how members schema d united listed describes => 
      cases how with
      | allOf => exact absurd rfl united
      | anyOf => cases found
      | oneOf => cases found
    | @memberless how _ united =>
      cases how with
      | allOf => exact absurd rfl united
      | anyOf => cases found
      | oneOf => cases found
    | _ => cases found
  · rintro ⟨members, rfl, properties, rest⟩
    refine .object found ?_ ?_ fun others name d described => rest others described name d
    · intro name property d listed held given
      rcases (properties (name, property) listed).1 d held with describes | ⟨free, rfl⟩
      · exact describes
      · rcases given with required | defined
        · rw [free] at required
          cases required
        · exact absurd rfl defined
    · exact fun name property listed => (properties (name, property) listed).2

theorem describes_union_iff {how : Combination} (united : how ≠ .allOf) {members : List Schema} :
    (combination how members).Describes declared d ↔
      members = [] ∨ ∃ member ∈ members, member.Describes declared d := by
  constructor
  · intro describes
    cases describes with
    | member _ listed describes => exact .inr ⟨_, listed, describes⟩
    | memberless _ => exact .inl rfl
    | unmerged _ => exact absurd rfl united
    | object found =>
      cases how with
      | allOf => exact absurd rfl united
      | anyOf => cases found
      | oneOf => cases found
  · rintro (rfl | ⟨member, listed, describes⟩)
    · exact .memberless united
    · exact .member united listed describes

theorem describes_enumeration_iff {values : List Value} :
    (enumeration values).Describes declared d ↔
      values = [] ∨ ∃ value ∈ values, LiteralAdmits value d := by
  constructor
  · intro describes
    cases describes with
    | listed listed same => exact .inr ⟨_, listed, same⟩
    | unlisted => exact .inl rfl
    | object found => cases found
  · rintro (rfl | ⟨value, listed, same⟩)
    · exact .unlisted
    · exact .listed listed same

theorem describes_array_iff {items : Option Schema} {constraints : ArrayConstraints} :
    (array items constraints).Describes declared d ↔
      ∃ data, d = .array data ∧
        ∀ schema, items = some schema → ∀ d ∈ data, schema.Describes declared d := by
  constructor
  · intro describes
    cases describes with
    | array each => exact ⟨_, rfl, each⟩
    | object found => cases found
  · rintro ⟨data, rfl, each⟩
    exact .array each

theorem describes_reference_iff {target : String} :
    (reference target).Describes declared d ↔ declared (referenceName target) d := by
  constructor
  · intro describes
    cases describes with
    | reference named => exact named
    | object found => cases found
  · exact Describes.reference

theorem describes_string_iff {constraints : StringConstraints} :
    (string constraints).Describes declared d ↔ ∃ s, d = .string s := by
  constructor
  · intro describes
    cases describes with
    | string => exact ⟨_, rfl⟩
    | object found => cases found
  · rintro ⟨s, rfl⟩
    exact .string

theorem describes_number_iff {constraints : NumberConstraints} :
    (number constraints).Describes declared d ↔ ∃ n, d = .number n := by
  constructor
  · intro describes
    cases describes with
    | number => exact ⟨_, rfl⟩
    | object found => cases found
  · rintro ⟨n, rfl⟩
    exact .number

theorem describes_boolean_iff :
    boolean.Describes declared d ↔ ∃ b, d = .boolean b := by
  constructor
  · intro describes
    cases describes with
    | boolean => exact ⟨_, rfl⟩
    | object found => cases found
  · rintro ⟨b, rfl⟩
    exact .boolean

theorem describes_null_iff :
    null.Describes declared d ↔ d = .null := by
  constructor
  · intro describes
    cases describes with
    | null => exact rfl
    | object found => cases found
  · rintro rfl
    exact .null

end Inversion

/-- The values of a compiled type are those that the schema describes. -/
theorem admits_iff_describes (schema : Schema) (d : Datum) :
    Admits declared schema.compiled.type d ↔ schema.Describes declared d := by
  induction schema using induction_on_parts generalizing d with
  | step schema ih =>
    cases schema using forms with
    | object found =>
      rw [parts_of_objectShape? found] at ih
      rw [compiled_object found, admits_objectOfParts, describes_object_iff found,
        ObjectShape.describes_map]
      exact ObjectShape.describes_congr ((ObjectShape.all_iff _ _).mpr ih) d
    | unmerged nothing =>
      rw [compiled_unmerged nothing]
      exact ⟨fun _ => .unmerged nothing, fun _ => trivial⟩
    | union united =>
      rw [parts_union united] at ih
      rw [compiled_union united, admits_unionOfParts, describes_union_iff united,
        List.map_eq_nil_iff]
      refine or_congr_right ⟨?_, ?_⟩
      · rintro ⟨_, listed, admits⟩
        obtain ⟨member, inMembers, rfl⟩ := List.mem_map.mp listed
        exact ⟨member, inMembers, (ih member inMembers d).mp admits⟩
      · rintro ⟨member, inMembers, describes⟩
        exact ⟨_, List.mem_map_of_mem inMembers, (ih member inMembers d).mpr describes⟩
    | array items constraints =>
      rw [describes_array_iff]
      cases items with
      | none =>
        have any : (array none constraints).compiled.type = .array .unknown := rfl
        simp [any, Admits]
      | some items =>
        have each := ih items List.mem_cons_self
        simp [compiled_array, arrayOf, Admits, each]
    | enumeration values => rw [describes_enumeration_iff, compiled, compile, admits_enumeration]
    | reference target => exact describes_reference_iff.symm
    | string constraints => exact describes_string_iff.symm
    | number constraints => exact describes_number_iff.symm
    | boolean => exact describes_boolean_iff.symm
    | null => exact describes_null_iff.symm
    | nullable => exact ⟨fun _ => .nullable, fun _ => .inl trivial⟩
    | unknown => exact ⟨fun _ => .unknown, fun _ => trivial⟩

section Signatures

/-- The index signature of an object with properties, if others may stand beside them. -/
def shapeSignatures (shape : ObjectShape Compiled) : List Signature :=
  match shape.properties with
  | [] => []
  | fields => ((othersOf shape.additional).map fun others =>
      Signature.mk (fields.map (fieldType shape)) others.type).toList

/-- The index signature that a schema itself brings into its type, apart from its parts. -/
def ownSignatures (schema : Schema) : List Signature :=
  match schema.objectShape? with
  | some shape => shapeSignatures (shape.map (fun _ => compiled) compiled)
  | none => []

private theorem signatures_unionOfParts (members : List Compiled) :
    (unionOfParts members).type.signatures =
      members.flatMap fun member => member.type.signatures := by
  match members with
  | [] => rfl
  | [only] => exact (List.append_nil _).symm
  | first :: second :: rest =>
    exact (membersSignatures_eq _).trans (List.flatMap_map ..)

private theorem signatures_objectOfParts (shape : ObjectShape Compiled) :
    (objectOfParts shape).type.signatures =
      shapeSignatures shape ++ shape.descriptions.flatMap fun part => part.type.signatures := by
  obtain ⟨properties, required, additional⟩ := shape
  cases properties with
  | nil =>
    cases additional with
    | unspecified => rfl
    | allowed isAllowed => rfl
    | described value => exact (List.append_nil _).symm
  | cons first rest =>
    have fields : fieldsSignatures ((first :: rest).map
        (fieldType (⟨first :: rest, required, additional⟩ : ObjectShape Compiled))) =
          (first :: rest).flatMap fun field => field.2.type.signatures :=
      (fieldsSignatures_eq _).trans (List.flatMap_map ..)
    rw [ObjectShape.descriptions, List.flatMap_append, List.flatMap_map, ← fields]
    cases additional with
    | unspecified => rfl
    | allowed isAllowed => cases isAllowed <;> rfl
    | described others =>
      have single : [others].flatMap (fun part => part.type.signatures) = others.type.signatures :=
        List.flatMap_singleton _ _
      change _ = _ ++ (_ ++ [others].flatMap _)
      rw [single]
      rfl

private theorem signatures_enumeration (hint : String) (values : List Value) :
    (compileEnumeration hint values).result.type.signatures = [] := by
  have union : ∀ values : List Value, (TypeExpr.union (values.map .literal)).signatures = [] := by
    intro values
    rw [signatures, membersSignatures_eq, List.flatMap_map]
    exact List.flatMap_eq_nil_iff.mpr fun _ _ => rfl
  match values with
  | [] => rfl
  | [value] => rfl
  | first :: second :: rest =>
    unfold compileEnumeration
    dsimp only
    split
    next strings => exact union _
    next mixed => exact union _

/-- The type of a schema has the index signature of the schema and those of its parts. -/
theorem signatures_step (schema : Schema) :
    schema.compiled.type.signatures = schema.ownSignatures ++
      schema.parts.flatMap fun part => part.compiled.type.signatures := by
  cases schema using forms with
  | object found =>
    rw [compiled_object found, signatures_objectOfParts, ObjectShape.descriptions_map,
      List.flatMap_map, ownSignatures, found, parts_of_objectShape? found]
  | unmerged nothing =>
    rw [compiled_unmerged nothing, parts_unmerged nothing, ownSignatures, nothing]
    rfl
  | @union how members united =>
    have own : (combination how members).ownSignatures = [] := by
      cases how with
      | allOf => exact absurd rfl united
      | anyOf => rfl
      | oneOf => rfl
    rw [compiled_union united, parts_union united, own]
    exact (signatures_unionOfParts _).trans (List.flatMap_map ..)
  | array items constraints =>
    cases items with
    | none => rfl
    | some items =>
      rw [compiled_array, parts, Option.toList_some, List.flatMap_singleton]
      rfl
  | enumeration values => exact signatures_enumeration _ values
  | _ => rfl

theorem mem_shapeSignatures (shape : ObjectShape Compiled) (signature : Signature) :
    signature ∈ shapeSignatures shape ↔ shape.properties ≠ [] ∧ ∃ others,
      othersOf shape.additional = some others ∧
        signature = ⟨shape.properties.map (fieldType shape), others.type⟩ := by
  unfold shapeSignatures
  split
  next empty => simp [empty]
  next fields filled =>
    have declares : shape.properties ≠ [] := filled
    rw [Option.mem_toList, Option.map_eq_some_iff, and_iff_right declares]
    exact exists_congr fun others => and_congr_right fun _ => eq_comm

/-- The index signature of a shape fits if the shape says so. -/
theorem shapeSignatures_fit_iff (shape : ObjectShape Schema) :
    (∀ signature ∈ shapeSignatures (shape.map (fun _ => compiled) compiled),
        signature.Fits declared) ↔
      ∀ others, shape.additional = .described others → ∀ entry ∈ shape.properties,
        (∀ d, entry.2.Describes declared d → others.Describes declared d) ∧
          (shape.requires entry.1 = false → others.Describes declared .undefined) := by
  constructor
  · intro fit others described entry listed
    have brought := (mem_shapeSignatures (shape.map (fun _ => compiled) compiled) _).mpr
      ⟨List.ne_nil_of_mem (List.mem_map_of_mem listed), others.compiled,
        by rw [ObjectShape.map, described]; rfl, rfl⟩
    have fits := (Signature.fits_iff declared _).mp (fit _ brought) _
      (List.mem_map_of_mem (List.mem_map_of_mem listed))
    simpa [fieldType, admits_iff_describes] using fits
  · intro word signature brought
    obtain ⟨-, others, given, rfl⟩ := (mem_shapeSignatures _ _).mp brought
    obtain ⟨properties, required, additional⟩ := shape
    rw [Signature.fits_iff]
    refine List.forall_mem_map.mpr (List.forall_mem_map.mpr fun entry listed => ?_)
    cases additional with
    | unspecified => cases given
    | allowed isAllowed =>
      cases isAllowed with
      | false => cases given
      | true =>
        cases given
        exact ⟨fun _ _ => trivial, fun _ => trivial⟩
    | described schema =>
      cases given
      simpa [fieldType, admits_iff_describes] using word schema rfl entry listed

end Signatures

/-- The values of a compiled type are those that the schema describes. The type is well formed where
it has index signatures, at any depth, if and only if, wherever an object in the schema describes
its other members, the same schema describes all values of each property that is declared, and the
value that is none where such a property may be missing. An index signature for members of any kind
takes whatever stands beside it. -/
theorem index_signatures_fit_iff (declared : String → Datum → Prop) (schema : Schema)
    (hint : String) :
    let type := (schema.compile hint).result.type
    (∀ d, type.Admits declared d ↔ schema.Describes declared d) ∧
      ((∀ signature ∈ type.signatures, signature.Fits declared) ↔
        ∀ inner shape others, Within inner schema → inner.objectShape? = some shape →
          shape.additional = .described others →
            ∀ name property, (name, property) ∈ shape.properties →
              (∀ d, property.Describes declared d → others.Describes declared d) ∧
                (shape.requires name = false → others.Describes declared .undefined)) := by
  intro type
  have same : type = schema.compiled.type := congrArg Compiled.type (position_free schema hint)
  have gathered := mem_iff_of_parts signatures_step schema
  rw [same]
  refine ⟨admits_iff_describes declared schema, ?_, ?_⟩
  · intro fit inner shape others within found described name property listed
    have own : ∀ signature ∈ inner.ownSignatures, signature.Fits declared :=
      fun signature brought => fit signature ((gathered signature).mpr ⟨inner, within, brought⟩)
    rw [ownSignatures, found] at own
    exact (shapeSignatures_fit_iff declared shape).mp own others described (name, property) listed
  · intro described signature listed
    obtain ⟨inner, within, own⟩ := (gathered signature).mp listed
    rw [ownSignatures] at own
    cases found : inner.objectShape? with
    | none =>
      rw [found] at own
      cases own
    | some shape =>
      rw [found] at own
      refine (shapeSignatures_fit_iff declared shape).mpr ?_ signature own
      exact fun others word entry declares =>
        described inner shape others within found word entry.1 entry.2 declares

/-- A property that is always null beside members that are truth values: the signature does not take
it. -/
example :
    let shape : ObjectShape Schema := ⟨[("id", .null)], ["id"], .described .boolean⟩
    (object shape).compiled.type.text = "\x7b id: null; [key: string]: boolean \x7d" := by
  rfl

end Schema
end ClientGen
