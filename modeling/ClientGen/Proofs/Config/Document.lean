import ClientGen.Config.Json
import ClientGen.Proofs.Json.Reading

/-!
Configurations read from JSON objects as they may be written. What is read of a field depends on the
text of its value alone, so a document gives what its members give when they are taken one by one.
-/
namespace ClientGen.Config
open Json

section Shapes

/-- What readers of settings tell apart: the word for nothing, strings, objects, and the rest. -/
inductive Shape : List Char → Prop
  | null : Shape "null".toList
  | string (pieces : List Piece) : Shape (quoted pieces)
  | object (inside : Blanks) (members : List Member)
      (each : ∀ member ∈ members, ValueText member.value) :
      Shape (enclosed .object inside (members.map Member.padded))
  | other (starts : startsValue c = true) (apart : c ∉ ['n', '"', '\x7b']) : Shape (c :: more)

private theorem shape_of_digit {c : Char} (digit : c.isDigit = true) (more : List Char) :
    Shape (c :: more) := by
  refine .other (Bool.or_eq_true_iff.mpr (.inl digit)) ?_
  intro listed
  simp only [List.mem_cons, List.not_mem_nil, or_false] at listed
  rcases listed with rfl | rfl | rfl <;> cases digit

private theorem shape_of_value (value : ValueText chars) : Shape chars := by
  cases value with
  | scalar scalar =>
    cases scalar with
    | word known =>
      simp only [List.mem_cons, List.not_mem_nil, or_false] at known
      rcases known with rfl | rfl | rfl
      · exact .null
      · exact .other (c := 't') rfl (by decide)
      · exact .other (c := 'f') rfl (by decide)
    | unsigned number =>
      obtain ⟨c, more, rfl, digit⟩ := number.head
      exact shape_of_digit digit more
    | negative number => exact .other (c := '-') rfl (by decide)
    | string pieces => exact .string pieces
  | list inside items each => exact .other (c := '[') rfl (by decide)
  | object inside members each => exact .object inside members each

end Shapes

section Readers

private theorem refuse_error (expected : String) (c : Cursor) :
    ∃ fault, (refuse expected c : Except Fault α) = .error fault := by
  unfold refuse
  cases reading (readFound c) with
  | error fault => exact ⟨fault, rfl⟩
  | ok found => exact ⟨_, rfl⟩

private theorem settles_refuse (expected : String) (c : Cursor) (rest : List Char) :
    Leaves rest (none : Option α) (refuse expected c : Except Fault (α × Cursor)) := by
  obtain ⟨fault, refused⟩ := refuse_error (α := α × Cursor) expected c
  rw [refused]
  exact .fault _

variable {expected : String}

private theorem settles_quoted (pieces : List Piece) :
    Settles (readText expected) (quoted pieces) ((meaning pieces).map String.ofList) := by
  intro front rest position ends
  obtain ⟨between, skipped⟩ :=
    skipSpace_to front (c := '"') rfl (pieces.flatMap Piece.chars ++ '"' :: rest) position
  rw [quoted_append, readText, skipped]
  exact (readString_pieces pieces rest (between.after '"')).mapError Config.Fault.json

private theorem settles_unquoted {c : Char} (starts : startsValue c = true) (apart : c ≠ '"')
    (more : List Char) : Settles (readText expected) (c :: more) none := by
  intro front rest position ends
  obtain ⟨between, skipped⟩ :=
    skipSpace_to front (isSpace_of_startsValue starts) (more ++ rest) position
  have other : (Cursor.mk (c :: (more ++ rest)) between).peek? ≠ some '"' :=
    fun same => apart (Option.some.inj same)
  rw [List.cons_append, readText, skipped, if_neg other]
  exact settles_refuse expected _ rest

private theorem settles_null : Settles (readOptionalText expected) "null".toList (some none) := by
  intro front rest position ends
  obtain ⟨between, skipped⟩ :=
    skipSpace_to front (c := 'n') rfl ('u' :: 'l' :: 'l' :: rest) position
  obtain ⟨after, read⟩ := readWord_append ['u', 'l', 'l'] rest (between.after 'n')
  have opened : readOptionalText expected ⟨front.chars ++ ("null".toList ++ rest), position⟩ =
      reading (readWord ['u', 'l', 'l'] ⟨'u' :: 'l' :: 'l' :: rest, between.after 'n'⟩) >>=
        fun c => .ok (none, c) := by
    change readOptionalText expected ⟨front.chars ++ 'n' :: 'u' :: 'l' :: 'l' :: rest, position⟩ = _
    rw [readOptionalText, skipped]
    rfl
  rw [opened]
  change Leaves rest _ (reading (readWord ['u', 'l', 'l'] ⟨['u', 'l', 'l'] ++ rest, _⟩) >>= _)
  rw [read]
  exact .read _ _

private theorem settles_optional {c : Char} {more : List Char} {found : Option String}
    (starts : startsValue c = true) (apart : c ≠ 'n')
    (settles : Settles (readText expected) (c :: more) found) :
    Settles (readOptionalText expected) (c :: more) (found.map some) := by
  intro front rest position ends
  obtain ⟨between, skipped⟩ :=
    skipSpace_to front (isSpace_of_startsValue starts) (more ++ rest) position
  have other : (Cursor.mk (c :: (more ++ rest)) between).peek? ≠ some 'n' :=
    fun same => apart (Option.some.inj same)
  have read := (settles .none rest between ends).bind (fun text => some (some text))
    (fun read => .ok (some read.1, read.2)) fun _ after _ => .read _ after
  rw [List.cons_append, readOptionalText, skipped, if_neg other, Option.map_eq_bind]
  exact read

/-- Every value is a text to all readers of texts or to none. -/
theorem settles_text (expected : String) (value : ValueText chars) :
    Settles (readText expected) chars (alone (readText expected) chars) := by
  cases shape_of_value value with
  | null => exact (settles_unquoted (c := 'n') rfl (by decide) _).alone
  | string pieces => exact (settles_quoted pieces).alone
  | object inside members each => exact (settles_unquoted (c := '\x7b') rfl (by decide) _).alone
  | other starts apart =>
    rename_i c more
    exact (settles_unquoted starts (fun same => apart (by simp [same])) more).alone

private theorem settles_optionalText (expected : String) (value : ValueText chars) :
    Settles (readOptionalText expected) chars (alone (readOptionalText expected) chars) := by
  have text := settles_text expected value
  cases shape_of_value value with
  | null => exact settles_null.alone
  | string pieces => exact (settles_optional (c := '"') rfl (by decide) text).alone
  | object inside members each =>
    exact (settles_optional (c := '\x7b') rfl (by decide) text).alone
  | other starts apart =>
    exact (settles_optional starts (fun same => apart (by simp [same])) text).alone

/-- Put the text of a header among the others. -/
def takeHeader (headers : List (String × String)) (name : String) (chars : List Char) :
    Option (List (String × String)) :=
  (alone (readText "a string") chars).map fun value => Ordered.insert name value headers

private theorem takes_header {member : Member} (value : ValueText member.value) :
    Takes readHeader takeHeader member := by
  intro headers name rest position ends
  obtain ⟨between, colon⟩ :=
    readColon_to member.after (member.front.chars ++ (member.value ++ rest)) position
  have read := (settles_text "a string" value member.front rest between ends).bind
    (fun value => some (Ordered.insert name value headers))
    (fun read => .ok (Ordered.insert name read.1 headers, read.2)) fun _ after _ => .read _ after
  rw [readHeader, colon, takeHeader, Option.map_eq_bind]
  exact read

private theorem settles_headers (value : ValueText chars) :
    Settles readHeaders chars (alone readHeaders chars) := by
  have refused {c : Char} (starts : startsValue c = true) (apart : c ≠ '\x7b')
      (more : List Char) : Settles readHeaders (c :: more) none := by
    intro front rest position ends
    obtain ⟨between, skipped⟩ :=
      skipSpace_to front (isSpace_of_startsValue starts) (more ++ rest) position
    have other : (Cursor.mk (c :: (more ++ rest)) between).peek? ≠ some '\x7b' :=
      fun same => apart (Option.some.inj same)
    rw [List.cons_append, readHeaders, skipped, if_neg other]
    exact settles_refuse _ _ rest
  cases shape_of_value value with
  | null => exact (refused (c := 'n') rfl (by decide) _).alone
  | string pieces => exact (refused (c := '"') rfl (by decide) _).alone
  | object inside members each =>
    have folded : Settles readHeaders (enclosed .object inside (members.map Member.padded))
        (members.foldlM (Member.take takeHeader) []) := by
      intro front rest position ends
      obtain ⟨between, skipped⟩ := skipSpace_to front (c := '\x7b') rfl
        (inside.chars ++ (separated (members.map Member.padded) ++ '\x7d' :: rest)) position
      rw [enclosed_append, Frame.opening, Frame.closing, readHeaders, skipped]
      exact foldMembers_enclosed members (fun member listed => takes_header (each member listed))
        inside rest [] (between.after '\x7b')
    exact folded.alone
  | other starts apart => exact (refused starts (fun same => apart (by simp [same])) _).alone

def given (field : Field) (chars : List Char) : Option field.Value := alone (readField field) chars

/-- Every value gives a field something, or nothing that it can be. -/
theorem settles_field (field : Field) (value : ValueText chars) :
    Settles (readField field) chars (given field chars) := by
  cases field with
  | introspectionUrl => exact settles_optionalText _ value
  | baseUrl => exact settles_optionalText _ value
  | introspectionFile => exact settles_optionalText _ value
  | outputDir => exact settles_text _ value
  | outputFile => exact settles_text _ value
  | headers => exact settles_headers value

end Readers

section Documents

/-- Give a field a value, if there is one and the field has none yet. -/
def Draft.give (draft : Draft) (field : Field) (value : Option field.Value) : Option Draft :=
  if (draft field).isSome then none else value.map (draft.put field)

/-- Take a member into a draft by its name and the text of its value. A name that no field has says
nothing. -/
def takeMember (draft : Draft) (name : String) (chars : List Char) : Option Draft :=
  match Field.ofName? name with
  | none => some draft
  | some field => draft.give field (given field chars)

private theorem takes_member {member : Member} (value : ValueText member.value) :
    Takes readMember takeMember member := by
  intro draft name rest position ends
  obtain ⟨between, colon⟩ :=
    readColon_to member.after (member.front.chars ++ (member.value ++ rest)) position
  unfold readMember takeMember
  cases Field.ofName? name with
  | none =>
    obtain ⟨after, skipped⟩ := skipValue_value value member.front ends between
    dsimp only
    rw [colon]
    change Leaves rest _ (reading (skipValue _) >>= _)
    rw [skipped]
    exact .read _ _
  | some field =>
    dsimp only
    unfold Draft.give
    split
    next => exact .fault _
    next =>
      have read := (settles_field field value member.front rest between ends).bind
        (fun value => some (draft.put field value))
        (fun read => .ok (draft.put field read.1, read.2)) fun _ after _ => .read _ after
      rw [colon, Option.map_eq_bind]
      exact read

/-- An object as it may be written, with nothing but blanks around it. -/
structure Document where
  lead : Blanks
  inside : Blanks
  members : List Member
  trail : Blanks
  valid : ∀ member ∈ members, ValueText member.value

namespace Document

def chars (document : Document) : List Char :=
  document.lead.chars ++ (enclosed .object document.inside (document.members.map Member.padded) ++
    document.trail.chars)

def text (document : Document) : String := String.ofList document.chars

/-- The draft that the members of a document give. -/
def draft? (document : Document) : Option Draft :=
  document.members.foldlM (Member.take takeMember) .empty

private theorem readDocument_chars (document : Document) (position : Position) :
    Leaves document.trail.chars document.draft? (readDocument ⟨document.chars, position⟩) := by
  obtain ⟨between, skipped⟩ := skipSpace_to document.lead (c := '\x7b') rfl
    (document.inside.chars ++ (separated (document.members.map Member.padded) ++
      '\x7d' :: document.trail.chars)) position
  rw [chars, enclosed_append, Frame.opening, Frame.closing, readDocument, skipped]
  exact foldMembers_enclosed document.members
    (fun member listed => takes_member (document.valid member listed)) document.inside
    document.trail.chars .empty (between.after '\x7b')

/-- A document gives the configuration of its draft. -/
theorem toOption_ofJsonText (document : Document) :
    (ofJsonText document.text).toOption =
      document.draft?.bind fun draft => draft.complete.toOption := by
  have leaves := document.readDocument_chars ⟨1, 0⟩
  have opened : ofJsonText document.text = readDocument ⟨document.chars, ⟨1, 0⟩⟩ >>= fun read => do
      let config ← read.1.complete.mapError (.jsonField · read.2.position)
      reading (readEnd read.2)
      return config := by
    rw [ofJsonText, Cursor.ofText, text, String.toList_ofList]
  rw [opened]
  generalize readDocument ⟨document.chars, ⟨1, 0⟩⟩ = outcome at leaves
  generalize document.draft? = found at leaves
  cases leaves with
  | fault fault => rfl
  | read draft after =>
    have ended : readEnd ⟨document.trail.chars, after⟩ = .ok () := by
      have solid : ∀ c ∈ ([] : List Char).head?, Cursor.isSpace c = false := by
        rintro c ⟨⟩
      obtain ⟨last, skipped⟩ := skipSpace_blanks document.trail [] solid after
      rw [List.append_nil] at skipped
      rw [readEnd, skipped]
      rfl
    change Except.toOption (draft.complete.mapError _ >>= fun config => do
      reading (readEnd ⟨document.trail.chars, after⟩)
      return config) = draft.complete.toOption
    rw [ended]
    cases draft.complete with
    | error fault => rfl
    | ok config => rfl

end Document

end Documents

end ClientGen.Config
