import ClientGen.Proofs.Schema.References
import ClientGen.Proofs.TypeScript.Syntax

/-!
Validators as syntax. The text of a validator is the text of an expression of calls on the schema
library.
-/
namespace ClientGen
open TypeScript

namespace Check

def code (base : Expression) : Check → Expression
  | .min count => base.method "min" [.value (.number (.natural count))]
  | .max count => base.method "max" [.value (.number (.natural count))]
  | .regex pattern => base.method "regex" [.construct (.name "RegExp") [.text pattern]]
  | .email => base.method "email" []
  | .url => base.method "url" []
  | .uuid => base.method "uuid" []
  | .datetime => base.method "datetime" [.object [.property "offset" (.value (.boolean true))]]
  | .int => base.method "int" []
  | .gte bound => base.method "gte" [.value (.number bound)]
  | .lte bound => base.method "lte" [.value (.number bound)]
  | .gt bound => base.method "gt" [.value (.number bound)]
  | .lt bound => base.method "lt" [.value (.number bound)]
  | .multipleOf step => base.method "multipleOf" [.value (.number step)]
  | .unique => base.method "refine" [
      .arrow ["items"] (.comparison true
        (.member (.construct (.name "Set") [(Expression.name "items").method "map" [
          .arrow ["item"] ((Expression.name "JSON").method "stringify" [.name "item"])]]) "size")
        (.member (.name "items") "length")),
      .object [.property "message" (.text "Array items must be unique")]]

set_option maxRecDepth 1000 in
theorem chars_code (depth : Nat) (base : Expression) (check : Check) :
    (check.code base).chars depth = base.chars depth ++ check.chars := by
  cases check
  all_goals rw [code, Expression.chars_method depth base _ _ (by decide)]
  case regex pattern =>
    simp only [expressionsChars, Expression.chars, listed_singleton, List.append_assoc,
      List.cons_append]
    rfl
  case unique =>
    delta Check.chars
    dsimp only
    rw [String.toList_append]
    repeat rw [String.toList_ofList]
    simp (disch := decide) only [Expression.method, Expression.chars, expressionsChars,
      entriesChars, entryChars, parametersChars, propertyAccessChars_plain, propertyKeyChars_plain,
      List.map_cons, List.map_nil, listed_singleton, listed_cons_cons]
    repeat rw [String.toList_ofList]
    rfl
  all_goals
    simp only [expressionsChars, listed_nil, listed_singleton]
    rfl

/-- A check reads nothing of its own but some globals. -/
theorem free_code (base : Expression) (check : Check) :
    ∃ names ⊆ ["RegExp", "Set", "JSON"], (check.code base).free = base.free ++ names := by
  cases check
  case regex => exact ⟨["RegExp"], by decide, rfl⟩
  case unique => exact ⟨["Set", "JSON"], by decide, rfl⟩
  all_goals exact ⟨[], by decide, rfl⟩

end Check

namespace Validator

def library (function : String) (arguments : List Expression) : Expression :=
  (Expression.name "z").method function arguments

mutual
def code : Validator → Expression
  | .string => library "string" []
  | .number => library "number" []
  | .boolean => library "boolean" []
  | .null => library "null" []
  | .unknown => library "unknown" []
  | .literal value => library "literal" [.value value]
  | .choice values => library "enum" [.list (values.map .value)]
  | .reference name => library "lazy" [.arrow [] (.name (validatorName name))]
  | .array item => library "array" [item.code]
  | .object fields => library "object" [.object (fieldsCode fields)]
  | .record value => library "record" [library "string" [], value.code]
  | .union members => library "union" [.list (membersCode members)]
  | .checked base check => check.code base.code
  | .optional base => base.code.method "optional" []
  | .nullable base => base.code.method "nullable" []
  | .catchall base others => base.code.method "catchall" [others.code]
def fieldsCode : List (String × Validator) → List (Entry Expression)
  | [] => []
  | field :: rest => fieldCode field :: fieldsCode rest
def fieldCode : String × Validator → Entry Expression
  | (name, value) => .property name value.code
def membersCode : List Validator → List Expression
  | [] => []
  | member :: rest => member.code :: membersCode rest
end

theorem chars_library (depth : Nat) (function : String) (arguments : List Expression)
    (plain : Identifier.isPlainChars function.toList = true) :
    (library function arguments).chars depth =
      'z' :: '.' :: (function.toList ++
        '(' :: listed (expressionsChars depth arguments) ++ [')']) := by
  rw [library, Expression.chars_method depth _ _ _ plain, Expression.chars]
  rfl

private theorem expressionsChars_values (depth : Nat) (values : List Json.Value) :
    expressionsChars depth (values.map .value) = values.map Json.Value.chars := by
  induction values with
  | nil => rfl
  | cons first rest ih => exact congrArg (first.chars :: ·) ih

mutual
/-- The text of a validator is the text of its expression. -/
theorem chars_code (depth : Nat) : (validator : Validator) →
    validator.code.chars depth = validator.chars
  | .string | .number | .boolean | .null | .unknown => rfl
  | .literal value => by
    rw [code, chars_library depth _ _ (by decide)]
    simp only [expressionsChars, Expression.chars, listed_singleton]
    rfl
  | .choice values => by
    rw [code, chars_library depth _ _ (by decide)]
    simp only [expressionsChars, Expression.chars, expressionsChars_values, listed_singleton,
      List.append_assoc, List.cons_append]
    rfl
  | .reference name => by
    rw [code, chars_library depth _ _ (by decide)]
    simp only [expressionsChars, Expression.chars, listed_singleton]
    rfl
  | .array item => by
    rw [code, chars_library depth _ _ (by decide)]
    simp only [expressionsChars, chars_code depth item, listed_singleton]
    rfl
  | .object fields => by
    rw [code, chars_library depth _ _ (by decide)]
    simp only [expressionsChars, Expression.chars, entriesChars_code depth fields,
      listed_singleton, List.append_assoc, List.cons_append]
    rfl
  | .record value => by
    rw [code, chars_library depth _ _ (by decide)]
    simp only [expressionsChars, chars_code depth value, listed_singleton, listed_cons_cons]
    rfl
  | .union members => by
    rw [code, chars_library depth _ _ (by decide)]
    simp only [expressionsChars, Expression.chars, expressionsChars_code depth members,
      listed_singleton, List.append_assoc, List.cons_append]
    rfl
  | .checked base check => by
    rw [code, Check.chars_code, chars_code depth base]
    rfl
  | .optional base => by
    rw [code, Expression.chars_method depth _ _ _ (by decide), chars_code depth base]
    rfl
  | .nullable base => by
    rw [code, Expression.chars_method depth _ _ _ (by decide), chars_code depth base]
    rfl
  | .catchall base others => by
    rw [code, Expression.chars_method depth _ _ _ (by decide), chars_code depth base]
    have printed : (base.catchall others).chars =
        base.chars ++ ".catchall(".toList ++ others.chars ++ [')'] := rfl
    simp only [expressionsChars, chars_code depth others, listed_singleton, printed,
      List.append_assoc]
    rfl
private theorem entriesChars_code (depth : Nat) : (fields : List (String × Validator)) →
    entriesChars depth (fieldsCode fields) = fieldsChars fields
  | [] => rfl
  | field :: rest => by
    rw [fieldsCode, entriesChars, entryChars_code depth field, entriesChars_code depth rest]
    rfl
private theorem entryChars_code (depth : Nat) : (field : String × Validator) →
    entryChars depth (fieldCode field) = fieldChars field
  | (name, value) => by
    rw [fieldCode, entryChars, chars_code depth value]
    rfl
private theorem expressionsChars_code (depth : Nat) : (members : List Validator) →
    expressionsChars depth (membersCode members) = membersChars members
  | [] => rfl
  | member :: rest => by
    rw [membersCode, expressionsChars, chars_code depth member, expressionsChars_code depth rest]
    rfl
end

/-- The names that validators read besides other validators: the schema library and globals. -/
def globals : List String := ["z", "RegExp", "Set", "JSON"]

/-- Free names are global ones or names of the validators of some references. -/
def ReadsOnly (references free : List String) : Prop :=
  free ⊆ globals ++ references.map validatorName

namespace ReadsOnly

variable {references others free more : List String}

theorem nil : ReadsOnly references [] := List.nil_subset _

private theorem of_globals (among : free ⊆ globals) : ReadsOnly references free :=
  List.subset_append_of_subset_left _ among

theorem mono (reads : ReadsOnly references free) (among : references ⊆ others) :
    ReadsOnly others free :=
  List.Subset.trans reads (List.append_subset.mpr ⟨List.subset_append_left _ _,
    List.subset_append_of_subset_right _ (List.map_subset _ among)⟩)

theorem append (reads : ReadsOnly references free) (also : ReadsOnly others more) :
    ReadsOnly (references ++ others) (free ++ more) :=
  List.append_subset.mpr ⟨reads.mono (List.subset_append_left _ _),
    also.mono (List.subset_append_right _ _)⟩

/-- A call on the library reads the library and what its arguments read. -/
theorem library {arguments : List Expression} (function : String)
    (reads : ReadsOnly references (expressionsFree arguments)) :
    ReadsOnly references (library function arguments).free := by
  have schemas : ReadsOnly [] ["z"] := of_globals (by decide)
  exact schemas.append reads

end ReadsOnly

theorem free_values (values : List Json.Value) : expressionsFree (values.map .value) = [] := by
  induction values with
  | nil => rfl
  | cons first rest ih => exact ih

mutual
/-- A validator reads the schema library, globals and the validators that it refers to. -/
theorem readsOnly_code :
    (validator : Validator) → ReadsOnly validator.references validator.code.free
  | .string | .number | .boolean | .null | .unknown | .literal _ => .library _ .nil
  | .choice values => by
    have none : expressionsFree [.list (values.map .value)] = [] := by
      rw [expressionsFree_singleton, Expression.free, free_values]
    exact .library _ (none ▸ .nil)
  | .reference _ => .library _ (List.subset_append_right _ _)
  | .array item => .library _ (by
    rw [expressionsFree_singleton]
    exact readsOnly_code item)
  | .object fields => .library _ (by
    rw [expressionsFree_singleton]
    exact readsOnly_fieldsCode fields)
  | .record value => .library _ (by
    have names : ReadsOnly [] (Validator.library "string" []).free := .library _ .nil
    refine names.append ?_
    rw [expressionsFree_singleton]
    exact readsOnly_code value)
  | .union members => .library _ (by
    rw [expressionsFree_singleton]
    exact readsOnly_membersCode members)
  | .checked base check => by
    obtain ⟨names, among, free⟩ := Check.free_code base.code check
    rw [code, free]
    exact List.append_subset.mpr ⟨readsOnly_code base,
      ReadsOnly.of_globals (List.Subset.trans among (by decide))⟩
  | .optional base | .nullable base => by
    rw [code, Expression.free_method, expressionsFree, List.append_nil]
    exact readsOnly_code base
  | .catchall base others => by
    rw [code, Expression.free_method, expressionsFree_singleton]
    exact (readsOnly_code base).append (readsOnly_code others)
private theorem readsOnly_fieldsCode : (fields : List (String × Validator)) →
    ReadsOnly (fieldsReferences fields) (entriesFree (fieldsCode fields))
  | [] => .nil
  | field :: rest => (readsOnly_fieldCode field).append (readsOnly_fieldsCode rest)
private theorem readsOnly_fieldCode : (field : String × Validator) →
    ReadsOnly (fieldReferences field) (entryFree (fieldCode field))
  | (_, value) => readsOnly_code value
private theorem readsOnly_membersCode : (members : List Validator) →
    ReadsOnly (membersReferences members) (expressionsFree (membersCode members))
  | [] => .nil
  | member :: rest => (readsOnly_code member).append (readsOnly_membersCode rest)
end

end Validator
end ClientGen
