import Mathlib.Data.List.Nodup
import ClientGen.Schema.Classify

/-!
Edits that a schema does not notice. A schema is read off an object by looking up keywords, so the
order of the members makes no difference, and neither do members that no keyword names. This holds
at any depth, but only for the objects that describe schemas: properties keep their order, and what
an enumeration lists is taken as it is.
-/
namespace ClientGen
open Json

section Lookup
variable {members others front back : List (String × α)}

/-- Members that stand once are found in any order. -/
theorem lookup_eq_of_perm (unique : (members.map Prod.fst).Nodup) (moved : members.Perm others)
    (key : String) : members.lookup key = others.lookup key := by
  induction moved with
  | nil => rfl
  | cons member moved ih =>
    obtain ⟨-, unique⟩ := List.nodup_cons.mp unique
    rw [List.lookup_cons, List.lookup_cons, ih unique]
  | swap one two rest =>
    obtain ⟨apart, -⟩ := List.nodup_cons.mp unique
    have different : two.1 ≠ one.1 := fun same => apart (same ▸ List.mem_cons_self)
    rw [List.lookup_cons, List.lookup_cons, List.lookup_cons, List.lookup_cons]
    by_cases first : key = two.1
    · have missed : (key == one.1) = false := beq_eq_false_iff_ne.mpr (first ▸ different)
      rw [missed]
    · have missed : (key == two.1) = false := beq_eq_false_iff_ne.mpr first
      rw [missed]
  | trans start rest ihStart ihRest =>
    exact (ihStart unique).trans (ihRest ((start.map Prod.fst).nodup_iff.mp unique))

/-- A member is not found under another key. -/
theorem lookup_remove {key other : String} (apart : other ≠ key) (value : α) :
    (front ++ (key, value) :: back).lookup other = (front ++ back).lookup other := by
  rw [List.lookup_append, List.lookup_append, List.lookup_cons, beq_eq_false_iff_ne.mpr apart]

end Lookup

namespace Schema

/-- The keywords whose values hold no schemas. -/
def plainKeywords : List String :=
  ["$ref", "type", "enum", "const", "nullable", "required", "minLength", "maxLength", "pattern",
    "format", "minimum", "maximum", "exclusiveMinimum", "exclusiveMaximum", "multipleOf",
    "minItems", "maxItems", "uniqueItems"]

/-- The keywords whose value is a list of schemas. -/
def listKeywords : List String := ["anyOf", "oneOf", "allOf"]

def keywords : List String :=
  plainKeywords ++ ["properties", "additionalProperties", "items"] ++ listKeywords

/-- Values that differ at most in the order of the members of the schemas in them and in members
that no keyword names. Every difference is one edit; an object that was read has each name once, so
its members can always change places. -/
inductive Edited : Value → Value → Prop
  | refl (value : Value) : Edited value value
  | symm (edited : Edited value other) : Edited other value
  | trans (start : Edited value middle) (rest : Edited middle other) : Edited value other
  | reorder (unique : (members.map Prod.fst).Nodup) (moved : members.Perm others) :
      Edited (.object members) (.object others)
  | unread (front back : List (String × Value)) (unread : key ∉ keywords) :
      Edited (.object (front ++ (key, value) :: back)) (.object (front ++ back))
  | inside (front back : List (String × Value))
      (holds : key = "items" ∨ key = "additionalProperties") (edited : Edited value other) :
      Edited (.object (front ++ (key, value) :: back)) (.object (front ++ (key, other) :: back))
  | listed (front back : List (String × Value)) (before after : List Value)
      (holds : key ∈ listKeywords) (edited : Edited value other) :
      Edited (.object (front ++ (key, .array (before ++ value :: after)) :: back))
        (.object (front ++ (key, .array (before ++ other :: after)) :: back))
  | property (front back before after : List (String × Value)) (name : String)
      (edited : Edited value other) :
      Edited (.object (front ++ ("properties", .object (before ++ (name, value) :: after)) :: back))
        (.object (front ++ ("properties", .object (before ++ (name, other) :: after)) :: back))

section Reading

theorem readMembers_eq_map (members : List (String × Value)) :
    readMembers members = members.map fun member => (member.1, read member.2) := by
  induction members with
  | nil => rfl
  | cons first rest ih =>
    obtain ⟨name, value⟩ := first
    exact congrArg ((name, read value) :: ·) ih

theorem readItems_eq_map (items : List Value) : readItems items = items.map read := by
  induction items with
  | nil => rfl
  | cons first rest ih => exact congrArg (read first :: ·) ih

private theorem lookup_readMembers (members : List (String × Value)) (key : String) :
    (readMembers members).lookup key = (members.lookup key).map read := by
  induction members with
  | nil => rfl
  | cons first rest ih =>
    obtain ⟨name, value⟩ := first
    change List.lookup key ((name, read value) :: readMembers rest) = _
    rw [List.lookup_cons, List.lookup_cons, ih]
    cases key == name with
    | true => rfl
    | false => rfl

private theorem members_read (members : List (String × Value)) :
    (read (.object members)).members = members.map fun member => (member.1, ofJson member.2) := by
  change (readMembers members).map _ = _
  rw [readMembers_eq_map, List.map_map]
  rfl

theorem items_read (items : List Value) : (read (.array items)).items = items.map ofJson := by
  change (readItems items).map Reading.schema = _
  rw [readItems_eq_map, List.map_map]
  rfl

private theorem contains_eq_isSome (key : String) (members : List (String × α)) :
    Ordered.contains key members = (members.lookup key).isSome := by
  rw [Ordered.contains, Bool.eq_iff_iff, List.any_eq_true, List.lookup_isSome_iff]
  simp only [BEq.comm]

end Reading

/-- What a schema takes from the value of a keyword. -/
inductive Seen where
  | whole (value : Value)
  | one (schema : Schema)
  | many (schemas : List Schema)
  | named (schemas : List (String × Schema))

namespace Seen

/-- The value, if all of it was taken. -/
def value : Seen → Value
  | .whole value => value
  | _ => .null

/-- The schema, if one was taken. -/
def described : Seen → Schema
  | .one schema => schema
  | _ => .unknown

/-- The properties, if these were taken. -/
def fields : Seen → List (String × Schema)
  | .named schemas => schemas
  | _ => []

/-- The word on additional properties. -/
def additional : Seen → Additional Schema
  | .one schema => .described schema
  | .whole (.boolean isAllowed) => .allowed isAllowed
  | _ => .unspecified

/-- The combination of the schemas, if a list of them was taken. -/
def combination (how : Combination) : Seen → Option Schema
  | .many schemas => some (.combination how schemas)
  | _ => none

end Seen

/-- What is taken from the value of a keyword: schemas where it holds them, and else all of it. -/
def seen (key : String) (value : Value) : Seen :=
  if key = "items" then .one (ofJson value)
  else if key = "properties" then .named (read value).members
  else if key = "additionalProperties" then
    match value with
    | .object members => .one (ofJson (.object members))
    | other => .whole other
  else if key ∈ listKeywords then
    match value with
    | .array items => .many (items.map ofJson)
    | other => .whole other
  else .whole value

private theorem seen_plain (key : String) (plain : key ∈ plainKeywords) (value : Value) :
    seen key value = .whole value := by
  have apart : ∀ key ∈ plainKeywords, key ≠ "items" ∧ key ≠ "properties" ∧
      key ≠ "additionalProperties" ∧ key ∉ listKeywords := by
    decide
  obtain ⟨items, properties, additional, list⟩ := apart key plain
  unfold seen
  rw [if_neg items, if_neg properties, if_neg additional, if_neg list]

private theorem seen_list (key : String) (listed : key ∈ listKeywords) (value : Value) :
    seen key value = match value with
      | .array items => .many (items.map ofJson)
      | other => .whole other := by
  have apart : ∀ key ∈ listKeywords, key ≠ "items" ∧ key ≠ "properties" ∧
      key ≠ "additionalProperties" := by
    decide
  obtain ⟨items, properties, additional⟩ := apart key listed
  unfold seen
  rw [if_neg items, if_neg properties, if_neg additional, if_pos listed]

/-- Members from which the same schema is read. -/
def Interchangeable (members others : Keywords) : Prop :=
  ∀ key ∈ keywords, (members.lookup key).map (seen key) = (others.lookup key).map (seen key)

private theorem interchangeable_of_lookup {members others : Keywords}
    (same : ∀ key ∈ keywords, members.lookup key = others.lookup key) :
    Interchangeable members others :=
  fun key listed => congrArg (Option.map (seen key)) (same key listed)

theorem interchangeable_of_seen (front back : Keywords) (same : seen key value = seen key other) :
    Interchangeable (front ++ (key, value) :: back) (front ++ (key, other) :: back) := by
  intro name _
  rw [List.lookup_append, List.lookup_append, List.lookup_cons, List.lookup_cons]
  by_cases here : name = key
  · rw [here, beq_self_eq_true]
    cases front.lookup key with
    | some found => rfl
    | none => exact congrArg some same
  · rw [beq_eq_false_iff_ne.mpr here]

namespace Interchangeable
variable {members others : Keywords} (alike : Interchangeable members others)
include alike

/-- What depends on no more than what is taken from a value is the same. -/
theorem map_lookup (key : String) (listed : key ∈ keywords) {f : Value → β} (g : Seen → β)
    (taken : ∀ value, f value = g (seen key value)) :
    (members.lookup key).map f = (others.lookup key).map f := by
  have factor : f = g ∘ seen key := funext taken
  rw [factor, ← Option.map_map, alike key listed, Option.map_map]

theorem lookup (key : String) (plain : key ∈ plainKeywords) :
    members.lookup key = others.lookup key := by
  have listed : key ∈ keywords := List.mem_append_left _ (List.mem_append_left _ plain)
  have same : (members.lookup key).map id = (others.lookup key).map id :=
    alike.map_lookup key listed Seen.value fun value => by rw [seen_plain key plain]; rfl
  rwa [Option.map_id_fun, id, id] at same

theorem contains (key : String) (listed : key ∈ keywords) :
    Ordered.contains key members = Ordered.contains key others := by
  have same : (members.lookup key).map (fun _ => ()) = (others.lookup key).map fun _ => () :=
    alike.map_lookup key listed (fun _ => ()) fun _ => rfl
  rw [contains_eq_isSome, contains_eq_isSome, ← Option.isSome_map, same, Option.isSome_map]

/-- The same items are described. -/
theorem items : ((readMembers members).lookup "items").map Reading.schema =
    ((readMembers others).lookup "items").map Reading.schema := by
  rw [lookup_readMembers, lookup_readMembers, Option.map_map, Option.map_map]
  exact alike.map_lookup "items" (by decide) Seen.described fun _ => rfl

/-- The same properties are described, in the same order. -/
theorem properties : ((readMembers members).lookup "properties").map Reading.members =
    ((readMembers others).lookup "properties").map Reading.members := by
  rw [lookup_readMembers, lookup_readMembers, Option.map_map, Option.map_map]
  exact alike.map_lookup "properties" (by decide) Seen.fields fun _ => rfl

/-- The word on additional properties is the same. -/
theorem additional : Schema.additional (readMembers members) =
    Schema.additional (readMembers others) := by
  have word (members : Keywords) : Schema.additional (readMembers members) =
      ((members.lookup "additionalProperties").map fun value =>
        (seen "additionalProperties" value).additional).getD .unspecified := by
    rw [Schema.additional, lookup_readMembers]
    cases members.lookup "additionalProperties" with
    | none => rfl
    | some value => cases value <;> rfl
  have same := alike.map_lookup "additionalProperties" (by decide) Seen.additional fun _ => rfl
  rw [word, word, same]

/-- The same schemas are combined. -/
theorem combination (keyword : String) (listed : keyword ∈ listKeywords) (how : Combination) :
    ofCombination? (readMembers members) keyword how =
      ofCombination? (readMembers others) keyword how := by
  have word (members : Keywords) : ofCombination? (readMembers members) keyword how =
      ((members.lookup keyword).map fun value =>
        (seen keyword value).combination how).getD none := by
    rw [ofCombination?, lookup_readMembers]
    cases members.lookup keyword with
    | none => rfl
    | some value =>
      rw [Option.map_some, Option.map_some, seen_list keyword listed]
      cases value with
      | array values => exact congrArg (some ∘ Schema.combination how) (items_read values)
      | _ => rfl
  have same := alike.map_lookup keyword (List.mem_append_right _ listed) (Seen.combination how)
    fun _ => rfl
  rw [word, word, same]

theorem text? (key : String) (plain : key ∈ plainKeywords) :
    Schema.text? members key = Schema.text? others key := by
  rw [Schema.text?, Schema.text?, alike.lookup key plain]

theorem number? (key : String) (plain : key ∈ plainKeywords) :
    Schema.number? members key = Schema.number? others key := by
  rw [Schema.number?, Schema.number?, alike.lookup key plain]

theorem count? (key : String) (plain : key ∈ plainKeywords) :
    Schema.count? members key = Schema.count? others key := by
  rw [Schema.count?, Schema.count?, alike.number? key plain]

theorem isSet (key : String) (plain : key ∈ plainKeywords) :
    Schema.isSet members key = Schema.isSet others key := by
  rw [Schema.isSet, Schema.isSet, alike.lookup key plain]

theorem listedValues? : Schema.listedValues? members = Schema.listedValues? others := by
  rw [Schema.listedValues?, Schema.listedValues?, alike.lookup "enum" (by decide),
    alike.lookup "const" (by decide)]

theorem stringConstraints : Schema.stringConstraints members = Schema.stringConstraints others := by
  rw [Schema.stringConstraints, Schema.stringConstraints, alike.count? "minLength" (by decide),
    alike.count? "maxLength" (by decide), alike.text? "pattern" (by decide),
    alike.text? "format" (by decide)]

theorem bounds (inclusive exclusive : String) (plain : inclusive ∈ plainKeywords)
    (plainExclusive : exclusive ∈ plainKeywords) :
    Schema.bounds members inclusive exclusive = Schema.bounds others inclusive exclusive := by
  rw [Schema.bounds, Schema.bounds, alike.isSet exclusive plainExclusive,
    alike.number? inclusive plain, alike.number? exclusive plainExclusive]

theorem numberConstraints (isInteger : Bool) :
    Schema.numberConstraints members isInteger = Schema.numberConstraints others isInteger := by
  rw [Schema.numberConstraints, Schema.numberConstraints,
    alike.bounds "minimum" "exclusiveMinimum" (by decide) (by decide),
    alike.bounds "maximum" "exclusiveMaximum" (by decide) (by decide),
    alike.number? "multipleOf" (by decide)]

theorem arrayConstraints : Schema.arrayConstraints members = Schema.arrayConstraints others := by
  rw [Schema.arrayConstraints, Schema.arrayConstraints, alike.count? "minItems" (by decide),
    alike.count? "maxItems" (by decide), alike.isSet "uniqueItems" (by decide)]

theorem objectShape : Schema.objectShape members (readMembers members) =
    Schema.objectShape others (readMembers others) := by
  rw [Schema.objectShape, Schema.objectShape, alike.properties, alike.additional, requiredNames,
    requiredNames, alike.lookup "required" (by decide)]

theorem ofTypeName? : Schema.ofTypeName? members (readMembers members) =
    Schema.ofTypeName? others (readMembers others) := by
  funext name
  simp only [Schema.ofTypeName?, alike.listedValues?, alike.stringConstraints,
    alike.numberConstraints, alike.items, alike.arrayConstraints, alike.objectShape]

theorem ofType? : Schema.ofType? members (readMembers members) =
    Schema.ofType? others (readMembers others) := by
  rw [Schema.ofType?, Schema.ofType?, alike.lookup "type" (by decide), alike.ofTypeName?]

/-- Interchangeable members describe the same schema. -/
theorem ofJson_eq : ofJson (.object members) = ofJson (.object others) := by
  change ofKeywords members (readMembers members) = ofKeywords others (readMembers others)
  rw [ofKeywords, ofKeywords, alike.text? "$ref" (by decide), alike.ofType?,
    alike.contains "properties" (by decide), alike.contains "additionalProperties" (by decide),
    alike.objectShape, alike.listedValues?, alike.combination "anyOf" (by decide),
    alike.combination "oneOf" (by decide), alike.combination "allOf" (by decide),
    alike.isSet "nullable" (by decide)]

end Interchangeable

/-- Values that are the same, or objects that describe the same schema. -/
def Alike (value other : Value) : Prop :=
  value = other ∨ ∃ members others, value = .object members ∧ other = .object others ∧
    ofJson value = ofJson other

namespace Alike

theorem ofJson_eq (alike : Alike value other) : ofJson value = ofJson other := by
  rcases alike with rfl | ⟨members, others, -, -, same⟩
  · rfl
  · exact same

theorem symm (alike : Alike value other) : Alike other value := by
  rcases alike with rfl | ⟨members, others, one, two, same⟩
  · exact .inl rfl
  · exact .inr ⟨others, members, two, one, same.symm⟩

theorem trans (start : Alike value middle) (rest : Alike middle other) : Alike value other := by
  rcases start with rfl | ⟨members, between, one, two, same⟩
  · exact rest
  · rcases rest with rfl | ⟨_, others, -, two, again⟩
    · exact .inr ⟨members, between, one, two, same⟩
    · exact .inr ⟨members, others, one, two, same.trans again⟩

private theorem of_interchangeable (alike : Interchangeable members others) :
    Alike (.object members) (.object others) :=
  .inr ⟨members, others, rfl, rfl, alike.ofJson_eq⟩

theorem seen_eq (alike : Alike value other)
    (holds : key = "items" ∨ key = "additionalProperties") : seen key value = seen key other := by
  rcases alike with rfl | ⟨members, others, rfl, rfl, same⟩
  · rfl
  · rcases holds with rfl | rfl
    · exact congrArg Seen.one same
    · exact congrArg Seen.one same

end Alike

/-- An edit changes no schema. -/
theorem Edited.alike (edited : Edited value other) : Alike value other := by
  -- The same schema is not enough to go on: additional properties ask for an object.
  induction edited with
  | refl value => exact .inl rfl
  | symm _ ih => exact ih.symm
  | trans _ _ ihStart ihRest => exact ihStart.trans ihRest
  | reorder unique moved =>
    exact .of_interchangeable (interchangeable_of_lookup fun key _ =>
      lookup_eq_of_perm unique moved key)
  | unread front back unread =>
    refine .of_interchangeable (interchangeable_of_lookup fun key listed => ?_)
    exact lookup_remove (ne_of_mem_of_not_mem listed unread) _
  | inside front back holds _ ih =>
    exact .of_interchangeable (interchangeable_of_seen front back (ih.seen_eq holds))
  | listed front back before after holds _ ih =>
    refine .of_interchangeable (interchangeable_of_seen front back ?_)
    rw [seen_list _ holds, seen_list _ holds]
    simp only [List.map_append, List.map_cons, ih.ofJson_eq]
  | property front back before after name _ ih =>
    refine .of_interchangeable (interchangeable_of_seen front back (congrArg Seen.named ?_))
    simp only [members_read, List.map_append, List.map_cons, ih.ofJson_eq]

end Schema

end ClientGen
