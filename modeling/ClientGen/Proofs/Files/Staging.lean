import ClientGen.Output
import ClientGen.Proofs.Files.Place
import ClientGen.Proofs.Text.Split

/-!
The staging file of a target. It stands beside the target, or inside a target that is a directory
and has no name of its own; never at the place of the target.
-/
namespace ClientGen.Files
open Text

namespace FilePath

/-- The names that slashes separate in a text. -/
def namesChars (chars : List Char) : List (List Char) :=
  (split (· == '/') chars).filter (!·.isEmpty)

theorem namesChars_append (front back : List Char) :
    namesChars (front ++ '/' :: back) = namesChars front ++ namesChars back := by
  rw [namesChars, split_append _ front back rfl, List.filter_append]
  rfl

theorem namesChars_name (free : '/' ∉ name) (filled : name ≠ []) : namesChars name = [name] := by
  have plain : ∀ c ∈ name, (c == '/') = false := by
    intro c member
    rw [beq_eq_false_iff_ne]
    rintro rfl
    exact free member
  rw [namesChars, split_free _ name plain, List.filter_cons_of_pos (by simpa using filled)]
  rfl

theorem names_eq (p : FilePath) : p.names = (namesChars p.text.toList).map String.ofList := rfl

/-- What trimming takes off the end of a path are lone dots. -/
theorem namesChars_trimBackward (chars : List Char) :
    ∃ count, namesChars chars.reverse =
      namesChars (trimBackward chars).reverse ++ List.replicate count ['.'] := by
  induction chars using trimBackward.induct with
  | case1 c rest ih =>
    obtain ⟨count, names⟩ := ih
    have shorter : ('/' :: c :: rest).reverse = (c :: rest).reverse ++ '/' :: [] := by
      rw [List.reverse_cons]
    have none : namesChars [] = [] := rfl
    refine ⟨count, ?_⟩
    rw [trimBackward, shorter, namesChars_append, none, List.append_nil, names]
  | case2 rest ih =>
    obtain ⟨count, names⟩ := ih
    have shorter : ('.' :: '/' :: rest).reverse = rest.reverse ++ '/' :: ['.'] := by simp
    have other : ('/' :: rest).reverse = rest.reverse ++ '/' :: [] := by simp
    have dot : namesChars ['.'] = [['.']] := rfl
    have none : namesChars [] = [] := rfl
    rw [other, namesChars_append, none, List.append_nil] at names
    refine ⟨count + 1, ?_⟩
    rw [trimBackward, shorter, namesChars_append, names, dot, List.append_assoc,
      List.replicate_succ']
  | case3 chars slash dot =>
    refine ⟨0, ?_⟩
    rw [trimBackward, List.replicate_zero, List.append_nil]
    · exact slash
    · exact dot

theorem namesChars_trim (chars : List Char) :
    ∃ count, namesChars chars = namesChars (trim chars) ++ List.replicate count ['.'] := by
  have names := namesChars_trimBackward chars.reverse
  rwa [List.reverse_reverse] at names

private theorem follow_dots (location : Location) (count : Nat) :
    follow location (List.replicate count ".") = location := by
  induction count with
  | zero => rfl
  | succ count ih => exact ih

/-- Trimming a path keeps the place that it leads to. -/
theorem follow_trim (location : Location) (chars : List Char) :
    follow location ((namesChars (trim chars)).map String.ofList) =
      follow location ((namesChars chars).map String.ofList) := by
  obtain ⟨count, names⟩ := namesChars_trim chars
  have dot : String.ofList ['.'] = "." := rfl
  rw [names, List.map_append, List.map_replicate, dot, follow_append, follow_dots]

private theorem slash_not_mem_afterSlash (chars : List Char) : '/' ∉ afterSlash chars := by
  intro slash
  have kept : (chars.reverse.takeWhile (· != '/')).all (· != '/') = true := List.all_takeWhile
  have other := List.all_eq_true.mp kept '/' (List.mem_reverse.mp slash)
  cases other

theorem throughSlash_append_afterSlash (chars : List Char) :
    throughSlash chars ++ afterSlash chars = chars := by
  rw [throughSlash, afterSlash, ← List.reverse_append, List.takeWhile_append_dropWhile,
    List.reverse_reverse]

/-- The last name of a text stands behind the names that come before it. -/
theorem namesChars_afterSlash (chars : List Char) (filled : afterSlash chars ≠ []) :
    namesChars chars = namesChars (throughSlash chars) ++ [afterSlash chars] := by
  have free := slash_not_mem_afterSlash chars
  have whole := throughSlash_append_afterSlash chars
  have none : namesChars [] = [] := rfl
  rw [← namesChars_name free filled]
  cases before : chars.reverse.dropWhile (· != '/') with
  | nil =>
    rw [throughSlash, before, List.reverse_nil, List.nil_append] at whole
    rw [throughSlash, before, List.reverse_nil, none, List.nil_append, whole]
  | cons c rest =>
    have slash : c = '/' := by
      have head := List.head?_dropWhile_not (· != '/') chars.reverse
      rw [before] at head
      simpa using head
    rw [throughSlash, before, slash, List.reverse_cons] at whole ⊢
    rw [namesChars_append, none, List.append_nil, ← namesChars_append]
    rw [List.append_assoc, List.singleton_append] at whole
    rw [whole]

end FilePath

namespace FileSystem

/-- A path with a last name has a place of this name. -/
theorem place_of_fileName? (fs : FileSystem) (found : p.fileName? = some name) :
    '/' ∉ name.toList ∧ ∃ outer, fs.place p = name :: outer := by
  unfold FilePath.fileName? at found
  dsimp only at found
  split at found
  next => cases found
  next proper =>
    rw [not_or, not_or] at proper
    have trimmed := FilePath.follow_trim (fs.start p) p.text.toList
    rw [FilePath.namesChars_afterSlash _ proper.1, List.map_append, follow_append] at trimmed
    rw [← Option.some.inj found, place, FilePath.names_eq, ← trimmed]
    refine ⟨?_, _, follow_name _ _ ?_ ?_⟩
    · rw [String.toList_ofList]
      exact FilePath.slash_not_mem_afterSlash _
    · intro dot
      have chars := congrArg String.toList dot
      rw [String.toList_ofList] at chars
      exact proper.2.1 chars
    · intro dots
      have chars := congrArg String.toList dots
      rw [String.toList_ofList] at chars
      exact proper.2.2 chars

/-- A name put below a path adds this name to the place of the path. -/
theorem place_join (fs : FileSystem) (base : FilePath) (name : String) (free : '/' ∉ name.toList)
    (filled : name.toList ≠ []) (dot : name ≠ ".") (dots : name ≠ "..") :
    fs.place (base.join ⟨name⟩) = name :: fs.place base := by
  have relative : (FilePath.mk name).isAbsolute = false := by
    rw [FilePath.isAbsolute, beq_eq_false_iff_ne]
    intro starts
    exact free (List.mem_of_head? starts)
  have below : ∀ p : FilePath, fs.start p = fs.start base → p.names = base.names ++ [name] →
      fs.place p = name :: fs.place base := by
    intro p start names
    rw [place, start, names, follow_append, follow_name _ _ dot dots, place]
  have last : (FilePath.namesChars name.toList).map String.ofList = [name] := by
    rw [FilePath.namesChars_name free filled, List.map_singleton, String.ofList_toList]
  rw [FilePath.join, relative]
  by_cases empty : base.text = ""
  · rw [if_neg (by decide), if_pos (.inl empty), empty]
    apply below
    · have absolute : base.isAbsolute = false := by
        rw [FilePath.isAbsolute, empty]
        rfl
      rw [start, start, absolute, String.empty_append, relative]
    · rw [FilePath.names_eq, FilePath.names_eq, empty, String.empty_append, last]
      rfl
  · have filledBase : base.text.toList ≠ [] := by simpa using empty
    have absolute : ∀ back, (FilePath.mk (base.text ++ back)).isAbsolute = base.isAbsolute := by
      intro back
      rw [FilePath.isAbsolute, FilePath.isAbsolute, String.toList_append]
      cases chars : base.text.toList with
      | nil => exact absurd chars filledBase
      | cons c rest => rfl
    by_cases ends : base.text.toList.getLast? = some '/'
    · rw [if_neg (by decide), if_pos (.inr ends)]
      obtain ⟨front, chars⟩ := List.getLast?_eq_some_iff.mp ends
      apply below
      · rw [start, start, absolute]
      · have none : FilePath.namesChars [] = [] := rfl
        rw [FilePath.names_eq, FilePath.names_eq, String.toList_append, chars, List.append_assoc,
          List.singleton_append, FilePath.namesChars_append, FilePath.namesChars_append, none,
          List.append_nil, List.map_append, last]
    · rw [if_neg (by decide), if_neg (not_or.mpr ⟨empty, ends⟩)]
      apply below
      · rw [start, start, String.append_assoc, absolute]
      · have slash : "/".toList = ['/'] := rfl
        rw [FilePath.names_eq, FilePath.names_eq, String.toList_append, String.toList_append, slash,
          List.append_assoc, List.singleton_append, FilePath.namesChars_append, List.map_append,
          last]

theorem place_staging_ne (fs : FileSystem) (target : FilePath) :
    fs.place (Output.staging target) ≠ fs.place target := by
  intro same
  rw [Output.staging, FilePath.withFileName] at same
  cases named : target.fileName? with
  | none =>
    have inside := place_join fs target "..routegen-tmp" (by decide) (by decide) (by decide)
      (by decide)
    rw [named] at same
    exact List.cons_ne_self _ _ (inside.symm.trans same)
  | some name =>
    obtain ⟨free, outer, place⟩ := place_of_fileName? fs named
    have hidden : ("." ++ name ++ ".routegen-tmp").toList =
        '.' :: name.toList ++ ".routegen-tmp".toList := by
      rw [String.toList_append, String.toList_append]
      rfl
    have beside := place_join fs (target.parent?.getD target) ("." ++ name ++ ".routegen-tmp")
      (by rw [hidden]; simp [free]) (by rw [hidden]; simp) ?_ ?_
    · rw [named, Option.isSome_some, if_pos rfl, Option.getD_some, beside, place] at same
      have longer := congrArg (fun text => text.toList.length) (List.cons.inj same).1
      simp only [hidden, List.length_append, List.length_cons] at longer
      omega
    · intro dot
      have long := congrArg (fun text => text.toList.length) dot
      simp [hidden] at long
    · intro dots
      have long := congrArg (fun text => text.toList.length) dots
      simp [hidden] at long

end FileSystem

end ClientGen.Files
