import ClientGen.Proofs.Schema.Merging

/-!
Induction over compilation. A property of compiled schemas that every rule of the compiler keeps
holds of each compiled schema, however deeply its parts are nested and whatever merging has done to
its objects in between.
-/
namespace ClientGen.Schema
open Json TypeScript

/-- An object with at least one property, from its compiled parts. -/
def objectFrom (shape : ObjectShape σ) (fields : List (String × Compiled))
    (others : Option Compiled) : Compiled :=
  let object := Validator.object (fields.map (fieldValidator shape))
  ⟨match others with
    | some others => .catchall object others.validator
    | none => object,
    .object (fields.map (fieldType shape)) (others.map Compiled.type)⟩

/-- A property of compiled schemas that the rules of the compiler keep, one field for each rule but
the one of references. -/
structure KeptByParts (P : Compiled → Prop) : Prop where
  unknown : P .unknown
  string : ∀ constraints, P (compileString constraints)
  number : ∀ constraints, P (compileNumber constraints)
  boolean : P ⟨.boolean, .boolean⟩
  null : P ⟨.null, .null⟩
  nullable : P ⟨.nullable .unknown, .union [.unknown, .null]⟩
  enumeration : ∀ hint values, P (compileEnumeration hint values).result
  array : ∀ constraints item, P item → P (arrayOf constraints item)
  record : ∀ value, P value → P (.record value)
  object : ∀ (shape : ObjectShape (Traced Compiled)) fields others, fields ≠ [] →
    (∀ field ∈ fields, P field.2) → (∀ other, others = some other → P other) →
    P (objectFrom shape fields others)
  union : ∀ members : List Compiled, 2 ≤ members.length → (∀ member ∈ members, P member) →
    P ⟨.union (members.map Compiled.validator), .union (members.map Compiled.type)⟩

/-- A property of compiled schemas that all rules of the compiler keep. -/
structure KeptByRules (P : Compiled → Prop) : Prop extends KeptByParts P where
  reference : ∀ target, P (compileReference target)

/-- Every compiled part of a shape has a property. -/
def ShapeHas (P : Compiled → Prop) (shape : ObjectShape (Traced Compiled)) : Prop :=
  shape.All fun compiled => P compiled.result

@[simp] theorem gatherFields_result (entries : List (String × Traced Compiled)) :
    (gatherFields entries).result = entries.map fun entry => (entry.1, entry.2.result) := by
  induction entries with
  | nil => rfl
  | cons entry rest ih =>
    obtain ⟨name, compiled⟩ := entry
    simp [gatherFields, ih]

/-- The compiled parts of an object that has a property. -/
theorem objectOf_result_cons (first : String × Traced Compiled)
    (rest : List (String × Traced Compiled)) (required : List String)
    (additional : Additional (Traced Compiled)) :
    (objectOf ⟨first :: rest, required, additional⟩).result =
      objectFrom ⟨first :: rest, required, additional⟩
        ((first :: rest).map fun entry => (entry.1, entry.2.result))
        (gatherOthers additional).result := by
  cases gathered : (gatherOthers additional).result with
  | none =>
    simp only [objectOf, objectFrom, Traced.bind_result, gatherFields_result, gathered,
      Traced.pure_result]
  | some others =>
    simp only [objectOf, objectFrom, Traced.bind_result, gatherFields_result, gathered,
      Traced.pure_result]

mutual
/-- The targets of the references in a schema, at any depth. -/
def targets : Schema → List String
  | .reference target => [target]
  | .array items _ => itemsTargets items
  | .object shape => shapeTargets shape
  | .combination _ members => membersTargets members
  | .string _ | .enumeration _ | .number _ | .boolean | .null | .nullable | .unknown => []
def itemsTargets : Option Schema → List String
  | none => []
  | some items => targets items
def shapeTargets : ObjectShape Schema → List String
  | ⟨properties, _, additional⟩ => propertiesTargets properties ++ additionalTargets additional
def propertiesTargets : List (String × Schema) → List String
  | [] => []
  | property :: rest => propertyTargets property ++ propertiesTargets rest
def propertyTargets : String × Schema → List String
  | (_, schema) => targets schema
def additionalTargets : Additional Schema → List String
  | .unspecified | .allowed _ => []
  | .described schema => targets schema
def membersTargets : List Schema → List String
  | [] => []
  | member :: rest => targets member ++ membersTargets rest
end

variable {P : Compiled → Prop}

private theorem gatherOthers_keeps (rules : KeptByParts P)
    (additional : Additional (Traced Compiled))
    (parts : ∀ described, additional = .described described → P described.result)
    (other : Compiled) (found : (gatherOthers additional).result = some other) : P other := by
  cases additional with
  | unspecified => simp [gatherOthers] at found
  | allowed isAllowed =>
    cases isAllowed with
    | false => simp [gatherOthers] at found
    | true =>
      simp only [gatherOthers, Traced.pure_result, Option.some.injEq] at found
      exact found ▸ rules.unknown
  | described compiled =>
    simp only [gatherOthers, Traced.map_result, Option.some.injEq] at found
    exact found ▸ parts compiled rfl

/-- Objects and the records that stand for objects without properties. -/
theorem objectOf_keeps (rules : KeptByParts P) (shape : ObjectShape (Traced Compiled))
    (parts : ShapeHas P shape) : P (objectOf shape).result := by
  obtain ⟨properties, required, additional⟩ := shape
  cases properties with
  | nil =>
    cases additional with
    | unspecified => exact rules.record _ rules.unknown
    | allowed isAllowed => exact rules.record _ rules.unknown
    | described compiled => exact rules.record _ (parts.2 compiled rfl)
  | cons first rest =>
    rw [objectOf_result_cons]
    refine rules.object _ _ _ (by simp) ?_ (gatherOthers_keeps rules additional parts.2)
    intro field member
    obtain ⟨entry, listed, rfl⟩ := List.mem_map.mp member
    exact parts.1 entry listed

private theorem unionOf_keeps (rules : KeptByParts P) (how : Combination) (hint : String)
    (members : List Compiled) (parts : ∀ member ∈ members, P member) :
    P (unionOf how hint members).result := by
  match members with
  | [] => exact rules.unknown
  | [only] => exact parts only (by simp)
  | first :: second :: rest => exact rules.union _ (by simp) parts

private theorem mergedOf_keeps (rules : KeptByParts P) (hint : String)
    (shapes : List (Option (ObjectShape (Traced Compiled))))
    (each : ∀ shape, some shape ∈ shapes → ShapeHas P shape) : P (mergedOf hint shapes).result := by
  rw [mergedOf, Traced.bind_result]
  split
  next shape found => exact objectOf_keeps rules shape (ObjectShape.All.mergeAll each found)
  next => exact rules.unknown

/-- The members of a union, each compiled at its position. -/
def memberTraces (how : Combination) (hint : String) (index : Nat) :
    List Schema → List (Traced Compiled)
  | [] => []
  | member :: rest => member.compile (hint ++ how.name ++ toString index) ::
      memberTraces how hint (index + 1) rest

def gatherMembers : List (Traced Compiled) → Traced (List Compiled)
  | [] => return []
  | member :: rest => do
    let first ← member
    let others ← gatherMembers rest
    return first :: others

theorem compileMembers_eq (how : Combination) (hint : String) (index : Nat)
    (members : List Schema) :
    compileMembers how hint index members =
      gatherMembers (memberTraces how hint index members) := by
  induction members generalizing index with
  | nil => rfl
  | cons member rest ih => rw [compileMembers, ih]; rfl

/-- A combination that is not merged is compiled from its members as a union. -/
theorem compile_united {how : Combination} (hint : String) (united : how ≠ .allOf)
    (members : List Schema) : (combination how members).compile hint =
      compileMembers how hint 0 members >>= unionOf how hint := by
  rw [compile]
  exact united

theorem compile_combination {how : Combination} {members : List Schema} (hint : String)
    (united : how ≠ .allOf) : (combination how members).compile hint =
      gatherMembers (memberTraces how hint 0 members) >>= unionOf how hint := by
  rw [compile_united hint united, compileMembers_eq]

@[simp] theorem gatherMembers_result (members : List (Traced Compiled)) :
    (gatherMembers members).result = members.map Traced.result := by
  induction members with
  | nil => rfl
  | cons member rest ih => simp [gatherMembers, ih]

/-- A property of compilations, diagnostics included, that each rule of the compiler keeps. -/
structure KeptByCompiling (P : Traced Compiled → Prop) : Prop where
  string : ∀ constraints, P (return compileString constraints)
  number : ∀ constraints, P (return compileNumber constraints)
  boolean : P (return ⟨.boolean, .boolean⟩)
  null : P (return ⟨.null, .null⟩)
  nullable : P (return ⟨.nullable .unknown, .union [.unknown, .null]⟩)
  unknown : ∀ hint, P (Schema.unknown.compile hint)
  enumeration : ∀ hint values, P (compileEnumeration hint values)
  anyItem : P (return .unknown)
  array : ∀ constraints item, P item → P (arrayOf constraints <$> item)
  object : ∀ shape, ObjectShape.All P shape → P (objectOf shape)
  merge : ∀ hint shapes, (∀ shape, some shape ∈ shapes → ObjectShape.All P shape) →
    P (mergedOf hint shapes)
  union : ∀ how hint members, (∀ member ∈ members, P member) →
    P (gatherMembers members >>= unionOf how hint)

section Compile

variable {Q : Traced Compiled → Prop}

/-- A property of each of some references. -/
private def Refer (Q : Traced Compiled → Prop) (targets : List String) : Prop :=
  ∀ target ∈ targets, Q (return compileReference target)

private theorem Refer.append {one two : List String} (all : Refer Q (one ++ two)) :
    Refer Q one ∧ Refer Q two :=
  List.forall_mem_append.mp all

mutual
/-- What every rule of the compiler but that of references keeps holds of each compilation, if it
holds of the references in the schema. -/
theorem compile_keeps_traced (rules : KeptByCompiling Q) (hint : String) : (schema : Schema) →
    (∀ target ∈ schema.targets, Q (return compileReference target)) → Q (schema.compile hint)
  | .reference target, refer => refer target List.mem_cons_self
  | .string constraints, _ => rules.string constraints
  | .enumeration values, _ => rules.enumeration hint values
  | .number constraints, _ => rules.number constraints
  | .boolean, _ => rules.boolean
  | .null, _ => rules.null
  | .array items constraints, refer =>
    rules.array constraints _ (compileItems_keeps rules hint items refer)
  | .object shape, refer => rules.object _ (compileShape_keeps rules hint shape refer)
  | .combination .allOf members, refer =>
    rules.merge hint _ (compileShapes_keep rules (hint ++ "AllOf") members refer)
  | .combination .anyOf members, refer | .combination .oneOf members, refer => by
    rw [compile_combination hint (by decide)]
    exact rules.union _ hint _ (memberTraces_keep rules _ hint 0 members refer)
  | .nullable, _ => rules.nullable
  | .unknown, _ => rules.unknown hint
private theorem compileItems_keeps (rules : KeptByCompiling Q) (hint : String) :
    (items : Option Schema) → Refer Q (itemsTargets items) → Q (compileItems hint items)
  | none, _ => rules.anyItem
  | some items, refer => compile_keeps_traced rules (hint ++ "Item") items refer
private theorem compileShape_keeps (rules : KeptByCompiling Q) (hint : String) :
    (shape : ObjectShape Schema) → Refer Q (shapeTargets shape) → (compileShape hint shape).All Q
  | ⟨properties, _, additional⟩, refer =>
    ⟨compileProperties_keep rules hint properties refer.append.1,
      compileAdditional_keeps rules hint additional refer.append.2⟩
private theorem compileProperties_keep (rules : KeptByCompiling Q) (hint : String) :
    (properties : List (String × Schema)) → Refer Q (propertiesTargets properties) →
      ∀ entry ∈ compileProperties hint properties, Q entry.2
  | [], _ => List.forall_mem_nil _
  | property :: rest, refer => List.forall_mem_cons.mpr
    ⟨compileProperty_keeps rules hint property refer.append.1,
      compileProperties_keep rules hint rest refer.append.2⟩
private theorem compileProperty_keeps (rules : KeptByCompiling Q) (hint : String) :
    (property : String × Schema) → Refer Q (propertyTargets property) →
      Q (compileProperty hint property).2
  | (name, schema), refer =>
    compile_keeps_traced rules (hint ++ Identifier.pascal name) schema refer
private theorem compileAdditional_keeps (rules : KeptByCompiling Q) (hint : String) :
    (additional : Additional Schema) → Refer Q (additionalTargets additional) → ∀ described,
      compileAdditional hint additional = .described described → Q described
  | .unspecified, _ => fun _ found => by cases found
  | .allowed _, _ => fun _ found => by cases found
  | .described schema, refer => fun _ found => by
    cases found
    exact compile_keeps_traced rules (hint ++ "Value") schema refer
private theorem memberTraces_keep (rules : KeptByCompiling Q) (how : Combination) (hint : String)
    (index : Nat) : (members : List Schema) → Refer Q (membersTargets members) →
      ∀ member ∈ memberTraces how hint index members, Q member
  | [], _ => List.forall_mem_nil _
  | first :: rest, refer => List.forall_mem_cons.mpr
    ⟨compile_keeps_traced rules (hint ++ how.name ++ toString index) first refer.append.1,
      memberTraces_keep rules how hint (index + 1) rest refer.append.2⟩
private theorem compileShapes_keep (rules : KeptByCompiling Q) (hint : String) :
    (members : List Schema) → Refer Q (membersTargets members) →
      ∀ shape, some shape ∈ compileShapes hint members → shape.All Q
  | [], _ => fun _ member => by cases member
  | first :: rest, refer => fun shape member => by
    rcases List.mem_cons.mp member with found | member
    · exact compileObject?_keeps rules hint first refer.append.1 shape found.symm
    · exact compileShapes_keep rules hint rest refer.append.2 shape member
private theorem compileObject?_keeps (rules : KeptByCompiling Q) (hint : String) :
    (schema : Schema) → Refer Q schema.targets →
      ∀ shape, compileObject? hint schema = some shape → shape.All Q
  | .object shape, refer => fun _ found => by
    cases found
    exact compileShape_keeps rules hint shape refer
  | .reference _, _ | .string _, _ | .enumeration _, _ | .number _, _ | .boolean, _ | .null, _
  | .array _ _, _ | .combination _ _, _ | .nullable, _ | .unknown, _ => fun _ found => by
    cases found
end

end Compile

/-- Rules for compiled schemas are rules for compilations that look at results only. -/
theorem KeptByParts.compiling (rules : KeptByParts P) :
    KeptByCompiling fun compiled => P compiled.result where
  string := rules.string
  number := rules.number
  boolean := rules.boolean
  null := rules.null
  nullable := rules.nullable
  unknown _ := rules.unknown
  enumeration := rules.enumeration
  anyItem := rules.unknown
  array constraints _ := rules.array constraints _
  object := objectOf_keeps rules
  merge := mergedOf_keeps rules
  union how hint members each := by
    rw [Traced.bind_result, gatherMembers_result]
    exact unionOf_keeps rules how hint _ (List.forall_mem_map.mpr each)

/-- What every rule of the compiler but that of references keeps holds of each compiled schema, if
it holds of the references in the schema. -/
theorem compile_keeps_parts (rules : KeptByParts P) (hint : String) (schema : Schema)
    (refer : ∀ target ∈ schema.targets, P (compileReference target)) :
    P (schema.compile hint).result :=
  compile_keeps_traced rules.compiling hint schema refer

/-- What every rule of the compiler keeps holds of each compiled schema. -/
theorem compile_keeps (rules : KeptByRules P) (hint : String) (schema : Schema) :
    P (schema.compile hint).result :=
  compile_keeps_parts rules.toKeptByParts hint schema fun target _ => rules.reference target

end ClientGen.Schema
