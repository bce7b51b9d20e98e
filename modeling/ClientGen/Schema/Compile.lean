import ClientGen.Diagnostic
import ClientGen.Identifier
import ClientGen.Schema.Merge
import ClientGen.TypeScript.Type
import ClientGen.Validator.Basic

/-!
Compiling schemas. Each schema gives a validator and a static type, built side by side; a shape
without a rule of its own gives a validator that accepts anything. Compilation cannot fail. The
hint names the position of a schema in diagnostics and grows on the way down.
-/
namespace ClientGen
open TypeScript Json

/-- A validator with the type of the values that it lets pass. -/
structure Compiled where
  validator : Validator
  type : TypeExpr
  deriving Inhabited

namespace Compiled

/-- Any value. -/
def unknown : Compiled := ⟨.unknown, .unknown⟩

def record (value : Compiled) : Compiled := ⟨.record value.validator, .record value.type⟩

end Compiled

namespace Schema

/-- Whether a character separates the segments of a reference. -/
def isBreak (c : Char) : Bool := c == '/' || c == '#'

/-- The last non-empty segment of a reference, or nothing if there is none. -/
def lastSegment (target : List Char) : List Char :=
  ((target.reverse.dropWhile isBreak).takeWhile (!isBreak ·)).reverse

/-- The identifier of a referenced schema: its last segment in Pascal form. -/
def referenceName (target : String) : String :=
  match lastSegment target.toList with
  | [] => "Ref"
  | segment => String.ofList (Identifier.pascalChars segment)

/-- A reference, resolved when it is used. -/
def compileReference (target : String) : Compiled :=
  ⟨.reference (referenceName target), .reference (referenceName target)⟩

def formatCheck? : StringFormat → Option Check
  | .email => some .email
  | .url => some .url
  | .uuid => some .uuid
  | .dateTime => some .datetime
  | .other _ => none

def compileString (s : StringConstraints) : Compiled :=
  let checks := (s.minLength.map Check.min).toList ++ (s.maxLength.map Check.max).toList ++
    (s.pattern.map Check.regex).toList ++ (s.format.bind formatCheck?).toList
  ⟨Validator.string.withChecks checks, .string⟩

def compileNumber (n : NumberConstraints) : Compiled :=
  let checks := (if n.isInteger then [Check.int] else []) ++ (n.minimum.map Check.gte).toList ++
    (n.maximum.map Check.lte).toList ++ (n.exclusiveMinimum.map Check.gt).toList ++
    (n.exclusiveMaximum.map Check.lt).toList ++ (n.multipleOf.map Check.multipleOf).toList
  ⟨Validator.number.withChecks checks, .number⟩

/-- A closed set of values: one value, several strings, or values of several kinds. -/
def compileEnumeration (hint : String) (values : List Value) : Traced Compiled :=
  match values with
  | [] => do
    Traced.report (.emptyEnumeration hint)
    return .unknown
  | [value] => return ⟨.literal value, .literal value⟩
  | _ =>
    let type := TypeExpr.union (values.map .literal)
    if values.all Value.isString then return ⟨.choice values, type⟩
    else return ⟨.union (values.map .literal), type⟩

def arrayOf (constraints : ArrayConstraints) (item : Compiled) : Compiled :=
  let checks := (constraints.minItems.map Check.min).toList ++
    (constraints.maxItems.map Check.max).toList ++
    (if constraints.uniqueItems then [Check.unique] else [])
  ⟨(Validator.array item.validator).withChecks checks, .array item.type⟩

/-- The properties of an object, compiled in order. -/
def gatherFields : List (String × Traced Compiled) → Traced (List (String × Compiled))
  | [] => return []
  | (name, compiled) :: rest => do
    let first ← compiled
    let others ← gatherFields rest
    return (name, first) :: others

/-- What an object may hold besides its properties, compiled: none when nothing else is kept. -/
def gatherOthers : Additional (Traced Compiled) → Traced (Option Compiled)
  | .described compiled => some <$> compiled
  | .allowed true => return some .unknown
  | .allowed false => return none
  | .unspecified => return none

def fieldValidator (shape : ObjectShape σ) (field : String × Compiled) : String × Validator :=
  (field.1, if shape.requires field.1 then field.2.validator else .optional field.2.validator)

def fieldType (shape : ObjectShape σ) (field : String × Compiled) : TypeField TypeExpr :=
  ⟨field.1, !shape.requires field.1, field.2.type⟩

/-- An object of compiled properties. Without properties it is a record, since an object without
any would drop every member. -/
def objectOf (shape : ObjectShape (Traced Compiled)) : Traced Compiled :=
  match shape.properties with
  | [] =>
    match shape.additional with
    | .described compiled => Compiled.record <$> compiled
    | _ => return .record .unknown
  | properties => do
    let fields ← gatherFields properties
    let others ← gatherOthers shape.additional
    let object := Validator.object (fields.map (fieldValidator shape))
    let validator :=
      match others with
      | some others => .catchall object others.validator
      | none => object
    return ⟨validator, .object (fields.map (fieldType shape)) (others.map Compiled.type)⟩

def unionOf (how : Combination) (hint : String) : List Compiled → Traced Compiled
  | [] => do
    Traced.report (.emptyUnion how hint)
    return .unknown
  | [only] => return only
  | members => return ⟨.union (members.map Compiled.validator), .union (members.map Compiled.type)⟩

def mergeReporting (hint : String) (shapes : List (Option (ObjectShape σ))) :
    Traced (Option (ObjectShape σ)) :=
  ⟨ObjectShape.mergeAll shapes,
    (ObjectShape.missingFrom 0 shapes).map (Diagnostic.skippedMember hint)⟩

/-- The objects among the members of a merge as one object. -/
def mergeAllOf (hint : String) (members : List Schema) : Traced (Option (ObjectShape Schema)) :=
  mergeReporting hint (members.map object?)

/-- The merge of compiled shapes, compiled. Only the properties that survive are reported on. -/
def mergedOf (hint : String) (shapes : List (Option (ObjectShape (Traced Compiled)))) :
    Traced Compiled := do
  match ← mergeReporting hint shapes with
  | some shape => objectOf shape
  | none =>
    Traced.report (.nothingToMerge hint)
    return .unknown

mutual
def compile (hint : String) : Schema → Traced Compiled
  | .reference target => return compileReference target
  | .string constraints => return compileString constraints
  | .enumeration values => compileEnumeration hint values
  | .number constraints => return compileNumber constraints
  | .boolean => return ⟨.boolean, .boolean⟩
  | .null => return ⟨.null, .null⟩
  | .array items constraints => arrayOf constraints <$> compileItems hint items
  | .object shape => objectOf (compileShape hint shape)
  | .combination .allOf members => mergedOf hint (compileShapes (hint ++ "AllOf") members)
  | .combination how members => do unionOf how hint (← compileMembers how hint 0 members)
  | .nullable => return ⟨.nullable .unknown, .union [.unknown, .null]⟩
  | .unknown => do
    Traced.report (.unknownShape hint)
    return .unknown
/-- Compile the items of an array; items without a schema may be anything. -/
def compileItems (hint : String) : Option Schema → Traced Compiled
  | none => return .unknown
  | some items => compile (hint ++ "Item") items
/-- Compile what a shape describes, each part at its position. -/
def compileShape (hint : String) : ObjectShape Schema → ObjectShape (Traced Compiled)
  | ⟨properties, required, additional⟩ =>
    ⟨compileProperties hint properties, required, compileAdditional hint additional⟩
def compileProperties (hint : String) : List (String × Schema) → List (String × Traced Compiled)
  | [] => []
  | property :: rest => compileProperty hint property :: compileProperties hint rest
def compileProperty (hint : String) : String × Schema → String × Traced Compiled
  | (name, schema) => (name, compile (hint ++ Identifier.pascal name) schema)
def compileAdditional (hint : String) : Additional Schema → Additional (Traced Compiled)
  | .unspecified => .unspecified
  | .allowed isAllowed => .allowed isAllowed
  | .described schema => .described (compile (hint ++ "Value") schema)
/-- Compile the members of a union, numbered from `index`. -/
def compileMembers (how : Combination) (hint : String) (index : Nat) :
    List Schema → Traced (List Compiled)
  | [] => return []
  | member :: rest => do
    let first ← compile (hint ++ how.name ++ toString index) member
    let others ← compileMembers how hint (index + 1) rest
    return first :: others
def compileShapes (hint : String) : List Schema → List (Option (ObjectShape (Traced Compiled)))
  | [] => []
  | member :: rest => compileObject? hint member :: compileShapes hint rest
def compileObject? (hint : String) : Schema → Option (ObjectShape (Traced Compiled))
  | .object shape => some (compileShape hint shape)
  | _ => none
end

end Schema

end ClientGen
