import ClientGen.Proofs.Schema.Rules
import ClientGen.Proofs.TypeScript.Code

/-!
No text of a schema breaks out of the code that is written for it. Patterns, property names, values
of enumerations and bounds come from outside; they stand in string literals, in printed values or
as plain identifiers, and all that is built around them closes its own brackets. So a schema without
references gives closed code, for its validator and for its type.
-/
namespace ClientGen
open TypeScript

/-- Fixed code, read character by character. -/
private theorem scan_fixed (chars : List Char) (read : scan place chars = some next) :
    scan place (String.ofList chars).toList = some next := by
  rw [String.toList_ofList]
  exact read

private theorem closed_call {front code : List Char} (opening : scan (.code awaited) front =
    some (.code (')' :: awaited))) (argument : Closed code) :
    scan (.code awaited) (front ++ code ++ [')']) = some (.code awaited) :=
  scan_within opening (argument _) rfl

private theorem closed_check (check : Check) : Closed check.chars := by
  intro awaited
  cases check with
  | min count => exact closed_call (scan_fixed _ rfl) (closed_number .data (.natural count))
  | max count => exact closed_call (scan_fixed _ rfl) (closed_number .data (.natural count))
  | regex pattern =>
    exact scan_within (scan_fixed _ rfl) (closed_stringLiteral pattern.toList _) (scan_fixed _ rfl)
  | email => exact scan_fixed _ rfl
  | url => exact scan_fixed _ rfl
  | uuid => exact scan_fixed _ rfl
  | datetime => exact scan_fixed _ rfl
  | int => exact scan_fixed _ rfl
  | gte bound => exact closed_call (scan_fixed _ rfl) (closed_number .data bound)
  | lte bound => exact closed_call (scan_fixed _ rfl) (closed_number .data bound)
  | gt bound => exact closed_call (scan_fixed _ rfl) (closed_number .data bound)
  | lt bound => exact closed_call (scan_fixed _ rfl) (closed_number .data bound)
  | multipleOf step => exact closed_call (scan_fixed _ rfl) (closed_number .data step)
  | unique =>
    change scan _ (String.toList (_ ++ _)) = _
    simp only [String.toList_append]
    exact scan_trans (scan_fixed _ rfl) (scan_fixed _ rfl)

theorem closed_withChecks (checks : List Check) {base : Validator} (closed : Closed base.chars) :
    Closed (base.withChecks checks).chars := by
  intro awaited
  rw [Validator.chars_withChecks]
  refine scan_trans (closed awaited) (scan_flatten ?_)
  exact List.forall_mem_map.mpr fun check _ => closed_check check awaited

private theorem closed_typeUnion (members : List TypeExpr)
    (each : ∀ member ∈ members, Closed member.chars) : Closed (TypeExpr.union members).chars := by
  have texts : ∀ code ∈ membersChars members, Closed code := by
    rw [membersChars_eq_map]
    exact List.forall_mem_map.mpr each
  intro awaited
  exact scan_intercalate (scan_fixed _ rfl) fun code listed => texts code listed awaited

/-- Closed texts in a list of arguments. -/
private theorem closed_listed {texts : List (List Char)} {front back : List Char}
    (opening : scan (.code awaited) front = some (.code inside))
    (each : ∀ code ∈ texts, Closed code)
    (closing : scan (.code inside) back = some (.code awaited)) :
    scan (.code awaited) (front ++ List.intercalate ", ".toList texts ++ back) =
      some (.code awaited) :=
  scan_within opening
    (scan_intercalate (scan_fixed _ rfl) fun code listed => each code listed inside) closing

private theorem closed_validatorUnion (members : List Validator)
    (each : ∀ member ∈ members, Closed member.chars) : Closed (Validator.union members).chars := by
  have texts : ∀ code ∈ Validator.membersChars members, Closed code := by
    rw [Validator.membersChars_eq_map]
    exact List.forall_mem_map.mpr each
  exact fun _ => closed_listed (scan_fixed _ rfl) texts (scan_fixed _ rfl)

theorem closed_choice (values : List Json.Value) : Closed (Validator.choice values).chars := by
  have texts : ∀ code ∈ values.map Json.Value.chars, Closed code :=
    List.forall_mem_map.mpr fun value _ => closed_value value
  exact fun _ => closed_listed (scan_fixed _ rfl) texts (scan_fixed _ rfl)

namespace Compiled

/-- Both texts of a compiled schema are closed. -/
def Closed (compiled : Compiled) : Prop :=
  TypeScript.Closed compiled.validator.chars ∧ TypeScript.Closed compiled.type.chars

theorem closed_unknown : unknown.Closed := ⟨fun _ => scan_fixed _ rfl, fun _ => scan_fixed _ rfl⟩

private theorem closed_literal (value : Json.Value) :
    Closed ⟨.literal value, .literal value⟩ :=
  ⟨fun _ => closed_call (scan_fixed _ rfl) (closed_value value), closed_value value⟩

theorem closed_arrayOf (constraints : ArrayConstraints) (item : Compiled) (closed : item.Closed) :
    (Schema.arrayOf constraints item).Closed := by
  constructor
  · apply closed_withChecks
    exact fun _ => closed_call (scan_fixed _ rfl) closed.1
  · exact fun _ => scan_within (scan_fixed _ rfl) (closed.2 _) rfl

private theorem closed_record (value : Compiled) (closed : value.Closed) : (record value).Closed :=
  ⟨fun _ => closed_call (scan_fixed _ rfl) closed.1,
    fun _ => scan_within (scan_fixed _ rfl) (closed.2 _) rfl⟩

private theorem closed_union (members : List Compiled) (each : ∀ member ∈ members, member.Closed) :
    Closed ⟨.union (members.map validator), .union (members.map type)⟩ := by
  constructor
  · apply closed_validatorUnion
    exact List.forall_mem_map.mpr fun member listed => (each member listed).1
  · apply closed_typeUnion
    exact List.forall_mem_map.mpr fun member listed => (each member listed).2

private theorem closed_compileEnumeration (hint : String) (values : List Json.Value) :
    (Schema.compileEnumeration hint values).result.Closed := by
  match values with
  | [] => exact closed_unknown
  | [value] => exact closed_literal value
  | first :: second :: rest =>
    have type : TypeScript.Closed
        (TypeExpr.union ((first :: second :: rest).map .literal)).chars :=
      closed_typeUnion _ (List.forall_mem_map.mpr fun value _ => (closed_literal value).2)
    have union : TypeScript.Closed
        (Validator.union ((first :: second :: rest).map .literal)).chars :=
      closed_validatorUnion _ (List.forall_mem_map.mpr fun value _ => (closed_literal value).1)
    unfold Schema.compileEnumeration
    dsimp only
    split
    · exact ⟨closed_choice _, type⟩
    · exact ⟨union, type⟩

private theorem closed_field (shape : ObjectShape σ) (field : String × Compiled)
    (closed : field.2.Closed) :
    TypeScript.Closed (Validator.fieldChars (Schema.fieldValidator shape field)) ∧
      TypeScript.Closed (fieldChars (Schema.fieldType shape field)) := by
  have key := closed_propertyKey field.1.toList
  have value : TypeScript.Closed (if shape.requires field.1 then field.2.validator
      else .optional field.2.validator).chars := by
    split
    · exact closed.1
    · exact closed_append closed.1 fun _ => scan_fixed _ rfl
  have mark : TypeScript.Closed (if !shape.requires field.1 then "?: " else ": ").toList := by
    split
    · exact fun _ => scan_fixed _ rfl
    · exact fun _ => scan_fixed _ rfl
  exact ⟨closed_append (closed_append key fun _ => scan_fixed _ rfl) value,
    closed_append (closed_append key mark) closed.2⟩

/-- Inside the braces of an object type semicolons end no statement. -/
private theorem closed_members (texts : List (List Char))
    (each : ∀ code ∈ texts, TypeScript.Closed code) :
    TypeScript.Closed ("\x7b ".toList ++ List.intercalate "; ".toList texts ++ " \x7d".toList) := by
  intro awaited
  have inside : scan (.code ('\x7d' :: awaited)) (List.intercalate "; ".toList texts) =
      some (.code ('\x7d' :: awaited)) :=
    scan_intercalate (scan_fixed _ rfl) fun code listed => each code listed _
  exact scan_within (scan_fixed _ rfl) inside (scan_fixed _ rfl)

private theorem closed_objectFrom (shape : ObjectShape σ) (fields : List (String × Compiled))
    (others : Option Compiled) (each : ∀ field ∈ fields, field.2.Closed)
    (rest : ∀ other, others = some other → other.Closed) :
    (Schema.objectFrom shape fields others).Closed := by
  have validators : ∀ code ∈ Validator.fieldsChars (fields.map (Schema.fieldValidator shape)),
      TypeScript.Closed code := by
    rw [Validator.fieldsChars_eq_map, List.forall_mem_map, List.forall_mem_map]
    exact fun field listed => (closed_field shape field (each field listed)).1
  have types : ∀ code ∈ fieldsChars (fields.map (Schema.fieldType shape)),
      TypeScript.Closed code := by
    rw [fieldsChars_eq_map, List.forall_mem_map, List.forall_mem_map]
    exact fun field listed => (closed_field shape field (each field listed)).2
  have object : TypeScript.Closed
      (Validator.object (fields.map (Schema.fieldValidator shape))).chars :=
    fun _ => closed_listed (scan_fixed _ rfl) validators (scan_fixed _ rfl)
  cases others with
  | none =>
    refine ⟨object, closed_members _ ?_⟩
    exact List.forall_mem_append.mpr ⟨types, List.forall_mem_nil _⟩
  | some other =>
    have closed := rest other rfl
    have index : TypeScript.Closed ("[key: string]: ".toList ++ other.type.chars) :=
      closed_append (fun _ => scan_fixed _ rfl) closed.2
    refine ⟨?_, closed_members _ ?_⟩
    · intro awaited
      exact closed_call (scan_trans (object awaited) (scan_fixed _ rfl)) closed.1
    · exact List.forall_mem_append.mpr ⟨types, List.forall_mem_singleton.mpr index⟩

end Compiled

namespace Schema

/-- The rules of the compiler keep code closed. -/
theorem closed_parts : KeptByParts Compiled.Closed where
  unknown := Compiled.closed_unknown
  string _ := ⟨closed_withChecks _ fun _ => scan_fixed _ rfl, fun _ => scan_fixed _ rfl⟩
  number _ := ⟨closed_withChecks _ fun _ => scan_fixed _ rfl, fun _ => scan_fixed _ rfl⟩
  boolean := ⟨fun _ => scan_fixed _ rfl, fun _ => scan_fixed _ rfl⟩
  null := ⟨fun _ => scan_fixed _ rfl, fun _ => scan_fixed _ rfl⟩
  nullable := ⟨closed_append (fun _ => scan_fixed _ rfl) (fun _ => scan_fixed _ rfl),
    closed_typeUnion _ (List.forall_mem_cons.mpr ⟨fun _ => scan_fixed _ rfl,
      List.forall_mem_singleton.mpr fun _ => scan_fixed _ rfl⟩)⟩
  enumeration := Compiled.closed_compileEnumeration
  array := Compiled.closed_arrayOf
  record := Compiled.closed_record
  object shape fields others _ each rest := Compiled.closed_objectFrom shape fields others each rest
  union members _ each := Compiled.closed_union members each

/-- Code of a schema without references cannot be broken out of. Whatever its patterns, property
names, values and bounds are, a reader comes through its validator and its type in any brackets,
with every string literal ended, every bracket closed by its own and no semicolon, template or
comment in between. So the code around reads as without it, and the statement that declares it ends
where it was meant to. -/
theorem compile_unbreakable (schema : Schema) (hint : String) (free : schema.targets = []) :
    let compiled := (schema.compile hint).result
    ∀ text ∈ [compiled.validator.text.toList, compiled.type.text.toList],
      Closed text ∧
      (∀ awaited rest, statements (.code awaited) (text ++ rest) =
        (statements (.code awaited) rest).map (List.modifyHead (text ++ ·))) ∧
      ∀ front rest, scan .start front = some .start →
        statements .start (front ++ text ++ ';' :: rest) =
          (statements .start rest).map ((front ++ text) :: ·) := by
  have unreferred : ∀ target ∈ schema.targets, (compileReference target).Closed := by
    rw [free]
    exact List.forall_mem_nil _
  obtain ⟨validator, type⟩ := compile_keeps_parts closed_parts hint schema unreferred
  intro compiled text listed
  have closed : Closed text := by
    simp only [Validator.text, TypeExpr.text, String.toList_ofList] at listed
    rcases List.mem_cons.mp listed with rfl | listed
    · exact validator
    · exact List.mem_singleton.mp listed ▸ type
  exact ⟨closed, fun awaited => statements_scan (closed awaited), closed.statements_declaration⟩

/-- An object whose property name, pattern and values try to end their literals and brackets. -/
def hostile : Schema :=
  .object ⟨[
    ("\"\x7d); alert(1); //", .string ⟨none, none, some "\")) /* \\", none⟩),
    ("mode", .enumeration [.string "\x60\\", .array [.object [("]\n\"", .null)]]])],
    [], .unspecified⟩

/-- The declaration of the hostile object is one statement. -/
theorem compile_unbreakable_hostile :
    hostile.targets = [] ∧
      statements .start ("export const InputSchema = ".toList ++
        (hostile.compile "Input").result.validator.text.toList ++ [';']) =
      some ["export const InputSchema = ".toList ++
        (hostile.compile "Input").result.validator.text.toList, []] := by
  obtain ⟨-, -, declared⟩ := compile_unbreakable hostile "Input" rfl _ List.mem_cons_self
  exact ⟨rfl, declared _ [] (scan_fixed _ rfl)⟩

end Schema

end ClientGen
