import Mathlib.Data.List.Chain
import ClientGen.Proofs.Files.Finding
import ClientGen.Proofs.Files.Staging

/-!
Directories that paths lead to. A path leads to no directory, and none can be made there, unless its
parent leads to one; where a path leads to a directory, none can be made.
-/
namespace ClientGen.Files

namespace FilePath

private theorem trimBackward_suffix (chars : List Char) : trimBackward chars <:+ chars := by
  induction chars using trimBackward.induct with
  | case1 c rest ih =>
    rw [trimBackward]
    exact ih.trans (List.suffix_cons _ _)
  | case2 rest ih =>
    rw [trimBackward]
    exact ih.trans (List.suffix_cons _ _)
  | case3 chars slash dot =>
    have kept : trimBackward chars = chars := by
      rw [trimBackward]
      · exact slash
      · exact dot
    simp [kept]

private theorem trim_front (chars : List Char) : trim chars <+: chars := by
  have ending := trimBackward_suffix chars.reverse
  rwa [← List.reverse_prefix, List.reverse_reverse] at ending

/-- A trimmed path ends in a slash only if it is the root. -/
theorem trimBackward_of_slash (chars : List Char) (slash : (trimBackward chars).head? = some '/') :
    trimBackward chars = ['/'] := by
  induction chars using trimBackward.induct with
  | case1 c rest ih =>
    rw [trimBackward] at slash ⊢
    exact ih slash
  | case2 rest ih =>
    rw [trimBackward] at slash ⊢
    exact ih slash
  | case3 chars notSlash dot =>
    rw [trimBackward] at slash ⊢
    · cases chars with
      | nil => cases slash
      | cons c rest =>
        obtain rfl : c = '/' := by simpa using slash
        cases rest with
        | nil => rfl
        | cons d rest => exact absurd rfl (notSlash d rest)
    all_goals assumption

theorem afterSlash_trim_ne_nil (filled : trim chars ≠ []) (notRoot : trim chars ≠ ['/']) :
    afterSlash (trim chars) ≠ [] := by
  intro empty
  cases backward : trimBackward chars.reverse with
  | nil => exact filled (by rw [trim, backward]; rfl)
  | cons c rest =>
    rw [afterSlash, trim, List.reverse_reverse, List.reverse_eq_nil_iff, backward,
      List.takeWhile_cons] at empty
    by_cases slash : c = '/'
    · have root := trimBackward_of_slash chars.reverse (by rw [backward, slash]; rfl)
      exact notRoot (by rw [trim, root]; rfl)
    · simp [slash] at empty

/-- The parent of a path is a text in front of it, and has fewer names. -/
theorem parent?_names {p outer : FilePath} (found : p.parent? = some outer) :
    outer.text.toList <+: p.text.toList ∧ ∃ more, more ≠ [] ∧ p.names = outer.names ++ more := by
  unfold parent? at found
  dsimp only at found
  split at found
  next => cases found
  next proper =>
    rw [not_or] at proper
    obtain rfl := Option.some.inj found
    have last := afterSlash_trim_ne_nil proper.1 proper.2
    obtain ⟨count, names⟩ := namesChars_trim p.text.toList
    obtain ⟨outerCount, outerNames⟩ := namesChars_trim (throughSlash (trim p.text.toList))
    rw [namesChars_afterSlash _ last, outerNames] at names
    constructor
    · rw [String.toList_ofList]
      have through : throughSlash (trim p.text.toList) <+: trim p.text.toList :=
        ⟨_, throughSlash_append_afterSlash _⟩
      exact (trim_front _).trans (through.trans (trim_front _))
    · refine ⟨(List.replicate outerCount ['.'] ++ afterSlash (trim p.text.toList) ::
        List.replicate count ['.']).map String.ofList, by simp, ?_⟩
      rw [names_eq, names_eq, names, String.toList_ofList, ← List.map_append]
      simp

/-- Each of a path's ancestors is the parent of the one before. -/
theorem isChain_ancestorsFrom (fuel : Nat) (p : FilePath) :
    (ancestorsFrom fuel p).IsChain (fun inner outer => inner.parent? = some outer) ∧
      (ancestorsFrom fuel p).head? = some p := by
  induction fuel generalizing p with
  | zero => exact ⟨.singleton p, rfl⟩
  | succ fuel ih =>
    rw [ancestorsFrom]
    cases found : p.parent? with
    | none => exact ⟨.singleton p, rfl⟩
    | some outer =>
      obtain ⟨chain, first⟩ := ih outer
      refine ⟨List.isChain_cons.mpr ⟨?_, chain⟩, rfl⟩
      intro next listed
      rw [first] at listed
      cases listed
      exact found

theorem isChain_ancestors (p : FilePath) :
    p.ancestors.IsChain (fun inner outer => inner.parent? = some outer) ∧
      ∃ rest, p.ancestors = p :: rest := by
  obtain ⟨chain, first⟩ := isChain_ancestorsFrom (p.names.length + 1) p
  exact ⟨chain, List.head?_eq_some_iff.mp first⟩

end FilePath

namespace FileSystem

variable {fs after : FileSystem} {p : FilePath}

private theorem checkText_front {outer : FilePath} (front : outer.text.toList <+: p.text.toList)
    (filled : outer.text ≠ "") (text : checkText p = .ok ()) : checkText outer = .ok () := by
  obtain ⟨back, whole⟩ := front
  have texts : p.text = outer.text ++ String.ofList back := by
    rw [← String.toList_inj, String.toList_append, String.toList_ofList, whole]
  unfold checkText at text ⊢
  split at text
  next => cases text
  next clean =>
    split at text
    next => cases text
    next =>
      split at text
      next => cases text
      next short =>
        rw [texts, String.utf8ByteSize_append] at short
        have free : ¬outer.text.toList.contains '\x00' = true := by
          rw [← whole] at clean
          simp_all
        rw [if_neg free, if_neg filled, if_neg (by omega)]

private theorem start_front {outer : FilePath} (fs : FileSystem)
    (front : outer.text.toList <+: p.text.toList) (filled : outer.text ≠ "") :
    fs.start outer = fs.start p := by
  obtain ⟨back, whole⟩ := front
  have same : outer.isAbsolute = p.isAbsolute := by
    rw [FilePath.isAbsolute, FilePath.isAbsolute, ← whole]
    cases chars : outer.text.toList with
    | nil => exact absurd (by simpa using chars) filled
    | cons c rest => rfl
  rw [start, start, same]

theorem checkDirectory_eq_ok_iff :
    fs.checkDirectory location = .ok () ↔ (fs.at? location).any Entry.isDirectory = true := by
  unfold checkDirectory
  cases fs.at? location with
  | none => simp
  | some entry => simp

/-- A path leads to a directory if its names do, and its text is one of a path. -/
theorem isDirectory_iff : fs.isDirectory p = true ↔ checkText p = .ok () ∧
    ∃ location, fs.walk (fs.start p) p.names = .ok location ∧
      fs.checkDirectory location = .ok () := by
  have ending : ∀ location, fs.walk location ["."] =
      fs.checkDirectory location >>= fun _ => .ok location := fun _ => rfl
  rw [isDirectory, find?, locate]
  cases checkText p with
  | error fault => simp [bind, Except.bind]
  | ok =>
    dsimp only [bind, Except.bind]
    rw [walk_append]
    cases walked : fs.walk (fs.start p) p.names with
    | error fault => simp [bind, Except.bind]
    | ok location =>
      cases p.endsInSlash with
      | false => simp [bind, Except.bind, walk, checkDirectory_eq_ok_iff]
      | true =>
        simp only [bind, Except.bind, if_pos, ending]
        cases checked : fs.checkDirectory location with
        | ok => simpa [checked] using checkDirectory_eq_ok_iff.mp checked
        | error fault => simp [checked]

/-- A directory cannot be made where one stands. -/
theorem makeDirectory_of_isDirectory (stands : fs.isDirectory p = true) :
    fs.makeDirectory p = .error .exists := by
  obtain ⟨text, location, walked, -⟩ := isDirectory_iff.mp stands
  rw [makeDirectory, locateLast, text]
  dsimp only [bind, Except.bind]
  cases last : p.names.getLast? with
  | none => rfl
  | some name =>
    obtain ⟨front, names⟩ := List.getLast?_eq_some_iff.mp last
    rw [names, walk_append] at walked
    obtain ⟨outer, found, step⟩ := ok_of_bind walked
    obtain ⟨⟨⟩, checked, moved⟩ := ok_of_bind step
    rw [names, List.dropLast_concat, found]
    dsimp only
    rw [checked]
    by_cases dot : name = "."
    · simp [dot, pure, Except.pure]
    · by_cases dots : name = ".."
      · simp [dots, pure, Except.pure]
      · rw [if_neg dot, if_neg dots] at moved
        split at moved
        next => cases moved
        next short =>
          split at moved
          next => cases moved
          next present =>
            rw [Bool.not_eq_true, Option.isNone_eq_false_iff] at present
            simp [dot, dots, short, present, pure, Except.pure]

theorem SameDirectories.of_makeDirectory (made : fs.makeDirectory p = .ok after) :
    SameDirectories fs after := by
  obtain ⟨name, outer, -, absent, rfl⟩ := place_of_makeDirectory made
  intro location entry stands directory
  have apart : location ≠ name :: outer := by
    rintro rfl
    rw [absent] at stands
    cases stands
  rw [at?_put_of_ne _ _ apart]
  exact stands

private theorem locateLast_of_makeDirectory (made : fs.makeDirectory p = .ok after) :
    ∃ name outer, fs.locateLast p = .ok (outer, some name) := by
  obtain ⟨⟨outer, last⟩, located, changed⟩ := ok_of_bind made
  cases last with
  | none => cases changed
  | some name => exact ⟨name, outer, located⟩

/-- What was made is a directory. -/
theorem isDirectory_of_makeDirectory (made : fs.makeDirectory p = .ok after) :
    after.isDirectory p = true := by
  have same := SameDirectories.of_makeDirectory made
  obtain ⟨name, outer, located⟩ := locateLast_of_makeDirectory made
  obtain ⟨placeName, placeOuter, place, -, rfl⟩ := place_of_makeDirectory made
  rw [place_of_locateLast located] at place
  rw [← place] at same ⊢
  have stands := at?_put_self fs name outer .directory
  refine isDirectory_iff.mpr ⟨(walk_of_locateLast located).1, name :: outer, ?_, ?_⟩
  · exact same.walk_names rfl located stands
  · rw [checkDirectory_eq_ok_iff, stands]
    rfl

/-- Where the names of a path lead to a directory, so do the names in front of them. -/
theorem isDirectory_of_walk {outer : FilePath} (front : outer.text.toList <+: p.text.toList)
    (filled : outer.text ≠ "") (text : checkText p = .ok ())
    (walked : fs.walk (fs.start p) (outer.names ++ more) = .ok location)
    (directory : fs.checkDirectory location = .ok ()) : fs.isDirectory outer = true := by
  rw [walk_append] at walked
  obtain ⟨middle, found, later⟩ := ok_of_bind walked
  refine isDirectory_iff.mpr ⟨checkText_front front filled text, middle, ?_, ?_⟩
  · rw [start_front fs front filled]
    exact found
  · exact checkDirectory_of_walk later directory

/-- A path leads to a directory, or can be made one, only if its parent leads to one. -/
theorem isDirectory_parent {outer : FilePath} (found : p.parent? = some outer)
    (filled : outer.text ≠ "")
    (reached : fs.isDirectory p = true ∨ ∃ after, fs.makeDirectory p = .ok after) :
    fs.isDirectory outer = true := by
  obtain ⟨front, more, added, names⟩ := FilePath.parent?_names found
  rcases reached with stands | ⟨after, made⟩
  · obtain ⟨text, location, walked, directory⟩ := isDirectory_iff.mp stands
    rw [names] at walked
    exact isDirectory_of_walk front filled text walked directory
  · obtain ⟨name, place, located⟩ := locateLast_of_makeDirectory made
    obtain ⟨text, ⟨others, split, walked⟩, directory, -⟩ := walk_of_locateLast located
    obtain ⟨between, last, rfl⟩ : ∃ between last, more = between ++ [last] :=
      ⟨more.dropLast, more.getLast added, (List.dropLast_concat_getLast added).symm⟩
    rw [names, ← List.append_assoc] at split
    rw [← (List.append_inj' split rfl).1] at walked
    exact isDirectory_of_walk front filled text walked directory

end FileSystem

end ClientGen.Files
