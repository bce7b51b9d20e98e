import Mathlib.Logic.Relation
import ClientGen.Proofs.Config.Document

/-!
Configurations that say the same in other words. Members of a document may change places, the name
of a field may take its other spelling, and members that name no field may come and go; what the
document gives stays the same, since a draft can be filled in any order. A field that is given twice
is refused in every order.
-/
namespace ClientGen.Config
open Json

/-- A name is one of the two spellings of a field. -/
def Field.Spells (field : Field) (name : String) : Prop :=
  name = field.name ∨ name = field.snakeName

instance (field : Field) (name : String) : Decidable (field.Spells name) :=
  inferInstanceAs (Decidable (_ ∨ _))

section Names

theorem ofName?_eq_some {name : String} {field : Field} :
    Field.ofName? name = some field ↔ field.Spells name := by
  constructor
  · intro found
    have named := List.find?_some found
    simp only [Bool.or_eq_true, beq_iff_eq] at named
    exact named.imp Eq.symm Eq.symm
  · rintro (rfl | rfl) <;> cases field <;> decide

private theorem ofName?_eq_none {name : String} :
    Field.ofName? name = none ↔ ∀ field : Field, ¬field.Spells name := by
  rw [Option.eq_none_iff_forall_ne_some]
  exact forall_congr' fun field => not_congr ofName?_eq_some

end Names

section Drafts

private theorem Draft.put_comm (draft : Draft) {field other : Field} (different : field ≠ other)
    (value : field.Value) (otherValue : other.Value) :
    (draft.put field value).put other otherValue =
      (draft.put other otherValue).put field value := by
  funext third
  by_cases one : third = field
  · subst one
    rw [put_of_ne _ _ different, put_self, put_self]
  · by_cases two : third = other
    · subst two
      rw [put_self, put_of_ne _ _ one, put_self]
    · rw [put_of_ne _ _ two, put_of_ne _ _ one, put_of_ne _ _ one, put_of_ne _ _ two]

theorem Draft.give_twice (draft : Draft) (field : Field) (value again : Option field.Value) :
    (draft.give field value).bind (·.give field again) = none := by
  unfold give
  split
  next => rfl
  next => cases value <;> simp

/-- Two fields can be given their values in any order. If they are one field, neither way
succeeds. -/
theorem Draft.give_comm (draft : Draft) (field other : Field) (value : Option field.Value)
    (otherValue : Option other.Value) :
    (draft.give field value).bind (·.give other otherValue) =
      (draft.give other otherValue).bind (·.give field value) := by
  by_cases same : field = other
  · subst same
    rw [give_twice, give_twice]
  · unfold give
    cases own : draft field <;> cases others : draft other <;> cases value <;>
      cases otherValue <;> simp [own, others, same, Ne.symm same, put_comm draft same]

theorem takeMember_comm (draft : Draft) (name other : String) (chars otherChars : List Char) :
    (takeMember draft name chars).bind (takeMember · other otherChars) =
      (takeMember draft other otherChars).bind (takeMember · name chars) := by
  unfold takeMember
  cases Field.ofName? name with
  | none => simp
  | some field =>
    cases Field.ofName? other with
    | none => simp
    | some second => exact draft.give_comm field second _ _

private theorem take_comm (draft : Draft) (member other : Member) :
    (member.take takeMember draft).bind (other.take takeMember) =
      (other.take takeMember draft).bind (member.take takeMember) := by
  unfold Member.take
  cases member.name? with
  | none => cases other.name? <;> simp
  | some name =>
    cases other.name? with
    | none => simp
    | some otherName => exact takeMember_comm draft name otherName member.value other.value

end Drafts

section Edits

/-- Where two steps of a fold can always change places, so can its entries. -/
theorem foldlM_perm {step : σ → α → Option σ}
    (comm : ∀ state a b, (step state a).bind (step · b) = (step state b).bind (step · a))
    {entries others : List α} (perm : entries.Perm others) (state : σ) :
    entries.foldlM step state = others.foldlM step state := by
  induction perm generalizing state with
  | nil => rfl
  | cons a _ ih =>
    rw [List.foldlM_cons, List.foldlM_cons]
    exact congrArg _ (funext ih)
  | swap a b rest =>
    simp only [List.foldlM_cons, Option.bind_eq_bind, ← Option.bind_assoc, comm state b a]
  | trans _ _ one two => exact (one state).trans (two state)

/-- A member with the name of a field, in either spelling. -/
def Gives (member : Member) (field : Field) : Prop :=
  ∃ name, member.name? = some name ∧ field.Spells name

/-- A member with a name that no field has. -/
def GivesNothing (member : Member) : Prop :=
  ∃ name, member.name? = some name ∧ ∀ field : Field, ¬field.Spells name

/-- One change to the members of a document. -/
inductive Edit : List Member → List Member → Prop
  | reorder (perm : members.Perm others) : Edit members others
  | respell (front back : List Member) (own : Gives member field)
      (others : Gives other field) (same : member.value = other.value) :
      Edit (front ++ member :: back) (front ++ other :: back)
  | extra (front back : List Member) (nothing : GivesNothing member) :
      Edit (front ++ back) (front ++ member :: back)

private theorem take_of_gives {member : Member} {field : Field} (gives : Gives member field)
    (draft : Draft) :
    member.take takeMember draft = draft.give field (given field member.value) := by
  obtain ⟨name, named, spells⟩ := gives
  rw [Member.take, named, Option.bind_some, takeMember, ofName?_eq_some.mpr spells]

private theorem take_of_givesNothing {member : Member} (nothing : GivesNothing member)
    (draft : Draft) : member.take takeMember draft = some draft := by
  obtain ⟨name, named, unknown⟩ := nothing
  rw [Member.take, named, Option.bind_some, takeMember, ofName?_eq_none.mpr unknown]

/-- Edits leave the draft as it is. -/
theorem foldlM_edit (edited : Edit members others) (draft : Draft) :
    members.foldlM (Member.take takeMember) draft =
      others.foldlM (Member.take takeMember) draft := by
  cases edited with
  | reorder perm => exact foldlM_perm take_comm perm draft
  | respell front back own others same =>
    simp only [List.foldlM_append, List.foldlM_cons, take_of_gives own, take_of_gives others, same]
  | extra front back nothing =>
    simp only [List.foldlM_append, List.foldlM_cons, take_of_givesNothing nothing]
    rfl

private theorem foldlM_edits (edited : Relation.EqvGen Edit members others) (draft : Draft) :
    members.foldlM (Member.take takeMember) draft =
      others.foldlM (Member.take takeMember) draft := by
  induction edited with
  | rel _ _ step => exact foldlM_edit step draft
  | refl _ => rfl
  | symm _ _ _ ih => exact ih.symm
  | trans _ _ _ _ _ one two => exact one.trans two

theorem toOption_eq_some {outcome : Except ε α} {a : α} :
    outcome.toOption = some a ↔ outcome = .ok a := by
  cases outcome <;> simp [Except.toOption]

/-- Documents that arise from one another by edits give the same configuration or none. -/
theorem ofJsonText_edits {first second : Document}
    (edited : Relation.EqvGen Edit first.members second.members) (config : Config) :
    ofJsonText first.text = .ok config ↔ ofJsonText second.text = .ok config := by
  have same : (ofJsonText first.text).toOption = (ofJsonText second.text).toOption := by
    rw [Document.toOption_ofJsonText, Document.toOption_ofJsonText, Document.draft?,
      Document.draft?, foldlM_edits edited]
  rw [← toOption_eq_some, ← toOption_eq_some, same]

/-- A document that gives a field twice, wherever and in whatever spellings, is refused. -/
theorem ofJsonText_repeated {document : Document}
    (members : document.members = front ++ member :: (middle ++ other :: back))
    (own : Gives member field) (again : Gives other field) (config : Config) :
    ofJsonText document.text ≠ .ok config := by
  have gathered : document.members.Perm (member :: other :: (front ++ (middle ++ back))) := by
    rw [members]
    refine List.perm_middle.trans (.cons member ?_)
    exact (List.perm_middle.append_left front).trans List.perm_middle
  have refused : document.draft? = none := by
    have twice := Draft.empty.give_twice field (given field member.value) (given field other.value)
    rw [Document.draft?, foldlM_perm take_comm gathered]
    simp only [List.foldlM_cons, take_of_gives own, take_of_gives again, Option.bind_eq_bind,
      ← Option.bind_assoc, twice, Option.bind_none]
  intro accepted
  rw [← toOption_eq_some, document.toOption_ofJsonText, refused] at accepted
  cases accepted

end Edits

end ClientGen.Config
