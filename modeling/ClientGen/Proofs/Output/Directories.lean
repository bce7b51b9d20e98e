import ClientGen.Proofs.Files.Alike
import ClientGen.Proofs.Plan
import ClientGen.Output

/-!
Making directories again. A directory can be made or accepted only where its parent leads to one, so
what kept directories from being made still keeps them from being made afterwards, although some of
them may have been made in between.
-/
namespace ClientGen.Output
open Files Plan

variable {host other : Host} {p : FilePath} {outer : List FilePath}

/-- Make a directory, or accept the one that is there. -/
def makeOne (p : FilePath) : Plan (Except Fault Unit) := do
  makeDirectories.acceptExisting p (← request (.makeDirectory p))

private theorem run_makeOne (host : Host) (p : FilePath) :
    host.run (makeOne p) =
      match host.files.makeDirectory p with
      | .ok files => (.ok (), { host with files })
      | .error fault =>
        if host.files.isDirectory p then (.ok (), host) else (.error fault, host) := by
  have answer : host.run (makeOne p) = (host.change (host.files.makeDirectory p)).2.run
      (makeDirectories.acceptExisting p (host.change (host.files.makeDirectory p)).1) := rfl
  rw [answer]
  cases host.files.makeDirectory p with
  | ok files => rfl
  | error fault =>
    have accepted : host.run (makeDirectories.acceptExisting p (.error fault)) =
        host.run (if host.files.isDirectory p then .done (.ok ()) else .done (.error fault)) := rfl
    dsimp only [Host.change]
    rw [accepted]
    split
    · rfl
    · rfl

private theorem run_makeDirectories (host : Host) (named : p.text ≠ "") :
    host.run (makeDirectories (p :: outer)) =
      match host.files.makeDirectory p with
      | .error .missing =>
        match host.run (makeDirectories outer) with
        | (.ok (), opened) => opened.run (makeOne p)
        | (.error fault, opened) => (.error fault, opened)
      | _ => host.run (makeOne p) := by
  rw [makeDirectories, if_neg named, makeOne, Host.run_bind, Host.run_bind]
  have answer : host.run (request (.makeDirectory p)) =
    host.change (host.files.makeDirectory p) := rfl
  rw [answer]
  cases host.files.makeDirectory p with
  | ok files => rfl
  | error fault =>
    cases fault with
    | missing =>
      dsimp only [Host.change]
      rw [Host.run_bind]
      cases host.run (makeDirectories outer) with
      | mk outcome opened =>
        cases outcome with
        | ok => rfl
        | error fault => rfl
    | _ => rfl

/-- What was made or accepted is a directory. -/
theorem isDirectory_makeOne (made : (host.run (makeOne p)).1 = .ok ()) :
    (host.run (makeOne p)).2.files.isDirectory p = true := by
  rw [run_makeOne] at made ⊢
  split at made
  next files step => exact FileSystem.isDirectory_of_makeDirectory step
  next fault step =>
    by_cases stands : host.files.isDirectory p = true
    · rw [if_pos stands]
      exact stands
    · rw [if_neg stands] at made
      cases made

/-- None can be made or accepted, if none can be made and none stands. -/
theorem makeOne_of_closed (closed : host.files.makeDirectory p = .error fault)
    (absent : host.files.isDirectory p = false) : host.run (makeOne p) = (.error fault, host) := by
  rw [run_makeOne, closed]
  exact if_neg (Bool.eq_false_iff.mp absent)

private theorem closed_of_makeOne (failed : (host.run (makeOne p)).1 = .error fault) :
    host.files.makeDirectory p = .error fault ∧ host.files.isDirectory p = false := by
  rw [run_makeOne] at failed
  split at failed
  next => cases failed
  next other step =>
    by_cases stands : host.files.isDirectory p = true
    · rw [if_pos stands] at failed
      cases failed
    · rw [if_neg stands] at failed
      cases failed
      exact ⟨step, Bool.eq_false_iff.mpr stands⟩

/-- A path at which no directory is missing: the empty one, or one that leads to a directory. -/
def Stands (files : FileSystem) (p : FilePath) : Prop := p.text = "" ∨ files.isDirectory p = true

theorem Stands.of_alike {files after : FileSystem} (stands : Stands files p)
    (alike : files.Alike after) : Stands after p :=
  stands.imp id alike.isDirectory

/-- Where nothing is missing, nothing is made. -/
theorem makeDirectories_of_stands (stands : Stands host.files p) :
    host.run (makeDirectories (p :: outer)) = (.ok (), host) := by
  by_cases named : p.text = ""
  · rw [makeDirectories, if_pos named]
    rfl
  · have directory := stands.resolve_left named
    rw [run_makeDirectories host named, FileSystem.makeDirectory_of_isDirectory directory]
    dsimp only
    rw [run_makeOne, FileSystem.makeDirectory_of_isDirectory directory]
    exact if_pos directory

/-- Where making directories went well, none is missing. -/
theorem stands_of_makeDirectories (made : (host.run (makeDirectories (p :: outer))).1 = .ok ()) :
    Stands (host.run (makeDirectories (p :: outer))).2.files p := by
  by_cases named : p.text = ""
  · exact .inl named
  · refine .inr ?_
    rw [run_makeDirectories host named] at made ⊢
    split at made
    next =>
      split at made
      next => exact isDirectory_makeOne made
      next => cases made
    next => exact isDirectory_makeOne made

/-- Directories that were made need not be made again. -/
theorem makeDirectories_again {ready : Host}
    (made : host.run (makeDirectories (p :: outer)) = (.ok (), ready))
    (alike : ready.files.Alike other.files) :
    other.run (makeDirectories (p :: outer)) = (.ok (), other) := by
  have stands := stands_of_makeDirectories (congrArg Prod.fst made)
  rw [made] at stands
  exact makeDirectories_of_stands (stands.of_alike alike)

/-- Where a path leads to a directory or one can be made, none is missing above it. -/
theorem makeDirectories_outer (found : ∀ above ∈ outer.head?, p.parent? = some above)
    (filled : outer ≠ []) (named : p.text ≠ "")
    (made : (host.run (makeDirectories (p :: outer))).1 = .ok ()) :
    (host.run (makeDirectories outer)).1 = .ok () := by
  rw [run_makeDirectories host named] at made
  split at made
  next =>
    split at made
    next opened done => rw [done]
    next => cases made
  next =>
    cases outer with
    | nil => exact absurd rfl filled
    | cons above rest =>
      have reached : host.files.isDirectory p = true ∨
          ∃ after, host.files.makeDirectory p = .ok after := by
        rw [run_makeOne] at made
        split at made
        next files step => exact .inr ⟨files, step⟩
        next fault step =>
          by_cases stands : host.files.isDirectory p = true
          · exact .inl stands
          · rw [if_neg stands] at made
            cases made
      have stands : Stands host.files above := by
        by_cases empty : above.text = ""
        · exact .inl empty
        · exact .inr (FileSystem.isDirectory_parent (found above rfl) empty reached)
      rw [makeDirectories_of_stands stands]

/-- No directory is made at a path at which none can be made and none stands, even if none is
missing above it. -/
theorem makeDirectories_of_closed (named : p.text ≠ "")
    (closed : host.files.makeDirectory p = .error fault)
    (absent : host.files.isDirectory p = false)
    (above : fault = .missing → (host.run (makeDirectories outer)).2 = host) :
    (host.run (makeDirectories (p :: outer))).1 ≠ .ok () := by
  intro made
  rw [run_makeDirectories host named, closed] at made
  split at made
  next missing =>
    cases missing
    split at made
    next opened before =>
      have same := above rfl
      rw [before] at same
      subst same
      rw [makeOne_of_closed closed absent] at made
      cases made
    next => cases made
  next =>
    rw [makeOne_of_closed closed absent] at made
    cases made

/-- If directories can be made from the files that making them has left, they could be made
before. -/
theorem makeDirectories_before (paths : List FilePath)
    (chain : paths.IsChain fun inner outer => inner.parent? = some outer)
    (left : other.files = (host.run (makeDirectories paths)).2.files)
    (made : (other.run (makeDirectories paths)).1 = .ok ()) :
    (host.run (makeDirectories paths)).1 = .ok () := by
  induction paths generalizing host other with
  | nil => cases made
  | cons p outer ih =>
    by_cases named : p.text = ""
    · rw [makeDirectories, if_pos named]
      rfl
    obtain ⟨found, chain⟩ := List.isChain_cons.mp chain
    rw [run_makeDirectories host named] at left ⊢
    split at left
    next missing =>
      split at left
      next opened before =>
        cases outcome : (opened.run (makeOne p)).1 with
        | ok => rfl
        | error fault =>
          -- Nothing is missing above, so the later run changes nothing there and ends here, too.
          obtain ⟨closed, absent⟩ := closed_of_makeOne outcome
          rw [makeOne_of_closed closed absent] at left
          refine absurd made (makeDirectories_of_closed named (left ▸ closed) (left ▸ absent) ?_)
          intro
          cases outer with
          | nil => cases before
          | cons above rest =>
            have alike : opened.files.Alike other.files := left ▸ .refl opened.files
            rw [makeDirectories_again before alike]
      next fault opened before =>
        by_cases filled : outer = []
        · subst filled
          cases before
          rw [run_makeDirectories other named, left, missing] at made
          cases made
        · -- The later run is at the end of this path only if it gets past the outer ones.
          have below := makeDirectories_outer found filled named made
          have once := ih chain (by rw [before, left]) below
          rw [before] at once
          cases once
    next proper =>
      cases outcome : (host.run (makeOne p)).1 with
      | ok => rfl
      | error fault =>
        obtain ⟨closed, absent⟩ := closed_of_makeOne outcome
        rw [makeOne_of_closed closed absent] at left
        refine absurd made (makeDirectories_of_closed named (left ▸ closed) (left ▸ absent) ?_)
        rintro rfl
        exact absurd closed proper

end ClientGen.Output
