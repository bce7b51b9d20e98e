import ClientGen.Text.Case

/-!
What the case tables rule out. The lower case of a character never starts with a capital ASCII
letter, and where it differs from the character, no upper case starts with the same character. What
an upper case starts with is its own upper case. Sets of code points are compared as bit masks, one
number for each table.
-/
namespace ClientGen.Text

/-- The code points of a run. -/
def Shift.sources (run : Shift) : List Nat :=
  (List.range ((run.last - run.first) / run.step + 1)).map fun index => run.first + index * run.step

/-- The characters that a run moves its code points to. -/
def Shift.images (run : Shift) : List Char :=
  run.sources.map fun (code : Nat) => Char.ofNat (Int.ofNat code + run.delta).toNat

theorem Shift.mem_sources_of_move? (run : Shift) (moved : run.move? code = some target) :
    code ∈ run.sources ∧ target = (Int.ofNat code + run.delta).toNat := by
  rw [Shift.move?] at moved
  split at moved
  next holds =>
    obtain ⟨low, high, aligned⟩ := holds
    have member : code ∈ run.sources := by
      refine List.mem_map.mpr ⟨(code - run.first) / run.step, ?_, ?_⟩
      · rw [List.mem_range]
        exact Nat.lt_succ_of_le (Nat.div_le_div_right (by omega))
      · have whole := Nat.div_add_mod (code - run.first) run.step
        rw [aligned, Nat.mul_comm] at whole
        omega
    exact ⟨member, (Option.some.inj moved).symm⟩
  next => cases moved

private theorem Shift.move?_of_mem_sources (run : Shift) (ordered : run.first ≤ run.last)
    (member : code ∈ run.sources) : run.move? code ≠ none := by
  obtain ⟨index, inRange, rfl⟩ := List.mem_map.mp member
  rw [List.mem_range, Nat.lt_succ_iff] at inRange
  have below : index * run.step ≤ run.last - run.first :=
    Nat.le_trans (Nat.mul_le_mul_right _ inRange) (Nat.div_mul_le_self _ _)
  have aligned : (run.first + index * run.step - run.first) % run.step = 0 := by
    rw [Nat.add_sub_cancel_left, Nat.mul_mod_left]
  rw [Shift.move?, if_pos ⟨by omega, by omega, aligned⟩]
  exact Option.some_ne_none _

section Mapping
variable (runs : List Shift) (expansions : List (Nat × List Nat))

/-- The code points that a case mapping names. -/
def mappedCodes : List Nat := runs.flatMap Shift.sources ++ expansions.map Prod.fst

/-- The characters in what a case mapping gives for the code points that it names. -/
def imageChars : List Char :=
  runs.flatMap Shift.images ++ expansions.flatMap fun entry => entry.2.map Char.ofNat

/-- The first characters of what a case mapping gives for the code points that it names. -/
def imageHeads : List Char :=
  runs.flatMap Shift.images ++ expansions.filterMap fun entry => entry.2.head?.map Char.ofNat

variable {runs expansions}

/-- What a case mapping gives for a character, from what the tables say: it keeps a character that
it does not name, moves one that a run holds, and writes several characters for one that is
listed. -/
theorem mapCase_follows {R : Char → List Char → Prop}
    (ordered : ∀ run ∈ runs, run.first ≤ run.last)
    (kept : ∀ c, c.toNat ∉ mappedCodes runs expansions → R c [c])
    (moved : ∀ run ∈ runs, ∀ code ∈ run.sources,
      R (Char.ofNat code) [Char.ofNat (Int.ofNat code + run.delta).toNat])
    (expanded : ∀ entry ∈ expansions, R (Char.ofNat entry.1) (entry.2.map Char.ofNat)) (c : Char) :
    R c (mapCase runs expansions c) := by
  unfold mapCase
  split
  next codes listed =>
    obtain ⟨before, after, whole, first⟩ := List.lookup_eq_some_iff.mp listed
    have follows := expanded (c.toNat, codes) (by simp [whole])
    rwa [Char.ofNat_toNat] at follows
  next unlisted =>
    split
    next code found =>
      obtain ⟨run, member, target⟩ := List.exists_of_findSome?_eq_some found
      obtain ⟨source, rfl⟩ := run.mem_sources_of_move? target
      have follows := moved run member c.toNat source
      rwa [Char.ofNat_toNat] at follows
    next missing =>
      apply kept
      intro named
      rcases List.mem_append.mp named with inRun | inTable
      · obtain ⟨run, member, source⟩ := List.mem_flatMap.mp inRun
        have unmoved := List.findSome?_eq_none_iff.mp missing run member
        exact run.move?_of_mem_sources (ordered run member) source unmoved
      · obtain ⟨entry, member, same⟩ := List.mem_map.mp inTable
        have other := List.lookup_eq_none_iff.mp unlisted entry member
        simp [same] at other

private theorem mapCase_cases (expansions : List (Nat × List Nat))
    (ordered : ∀ run ∈ runs, run.first ≤ run.last) (c : Char) :
    (mapCase runs expansions c = [c] ∧ c.toNat ∉ mappedCodes runs expansions) ∨
      (∃ image ∈ runs.flatMap Shift.images, mapCase runs expansions c = [image]) ∨
        ∃ entry ∈ expansions, mapCase runs expansions c = entry.2.map Char.ofNat := by
  apply mapCase_follows (R := fun c changed =>
    (changed = [c] ∧ c.toNat ∉ mappedCodes runs expansions) ∨
      (∃ image ∈ runs.flatMap Shift.images, changed = [image]) ∨
        ∃ entry ∈ expansions, changed = entry.2.map Char.ofNat) ordered
  · exact fun c unnamed => .inl ⟨rfl, unnamed⟩
  · intro run member code source
    have image : Char.ofNat (Int.ofNat code + run.delta).toNat ∈ run.images :=
      List.mem_map.mpr ⟨code, source, rfl⟩
    exact .inr (.inl ⟨_, List.mem_flatMap.mpr ⟨run, member, image⟩, rfl⟩)
  · exact fun entry listed => .inr (.inr ⟨entry, listed, rfl⟩)

theorem mem_imageChars (ordered : ∀ run ∈ runs, run.first ≤ run.last)
    (member : d ∈ mapCase runs expansions c) : d = c ∨ d ∈ imageChars runs expansions := by
  rcases mapCase_cases expansions ordered c with ⟨kept, unnamed⟩ | ⟨image, inRun, moved⟩ |
    ⟨entry, listed, expanded⟩
  · rw [kept, List.mem_singleton] at member
    exact .inl member
  · rw [moved, List.mem_singleton] at member
    exact .inr (List.mem_append_left _ (member ▸ inRun))
  · rw [expanded] at member
    exact .inr (List.mem_append_right _ (List.mem_flatMap.mpr ⟨entry, listed, member⟩))

theorem mem_imageHeads (ordered : ∀ run ∈ runs, run.first ≤ run.last)
    (head : (mapCase runs expansions c).head? = some d) :
    (d = c ∧ mapCase runs expansions c = [c] ∧ c.toNat ∉ mappedCodes runs expansions) ∨
      d ∈ imageHeads runs expansions := by
  rcases mapCase_cases expansions ordered c with ⟨kept, unnamed⟩ | ⟨image, inRun, moved⟩ |
    ⟨entry, listed, expanded⟩
  · rw [kept] at head
    exact .inl ⟨(Option.some.inj head).symm, kept, unnamed⟩
  · rw [moved] at head
    exact .inr (List.mem_append_left _ (Option.some.inj head ▸ inRun))
  · rw [expanded, List.head?_map] at head
    exact .inr (List.mem_append_right _ (List.mem_filterMap.mpr ⟨entry, listed, head⟩))

theorem mapCase_ne_nil (ordered : ∀ run ∈ runs, run.first ≤ run.last)
    (filled : ∀ entry ∈ expansions, entry.2 ≠ []) (c : Char) : mapCase runs expansions c ≠ [] := by
  rcases mapCase_cases expansions ordered c with ⟨kept, unnamed⟩ | ⟨image, inRun, moved⟩ |
    ⟨entry, listed, expanded⟩
  · simp [kept]
  · simp [moved]
  · simpa [expanded] using filled entry listed

/-- A character that a case mapping does not name is kept. -/
theorem mapCase_of_unnamed (unnamed : c.toNat ∉ mappedCodes runs expansions) :
    mapCase runs expansions c = [c] := by
  rw [mappedCodes, List.mem_append, not_or] at unnamed
  obtain ⟨still, unlisted⟩ := unnamed
  have missing : expansions.lookup c.toNat = none := by
    refine List.lookup_eq_none_iff.mpr fun entry member => bne_iff_ne.mpr ?_
    exact fun same => unlisted (List.mem_map.mpr ⟨entry, member, same.symm⟩)
  have unmoved : runs.findSome? (·.move? c.toNat) = none := by
    refine List.findSome?_eq_none_iff.mpr fun run member => ?_
    cases moved : run.move? c.toNat with
    | none => rfl
    | some target =>
      have source := (run.mem_sources_of_move? moved).1
      exact absurd (List.mem_flatMap.mpr ⟨run, member, source⟩) still
  rw [mapCase, missing]
  dsimp only
  rw [unmoved]

end Mapping

/-- A set of code points as the number whose bits are set at them. -/
def mask (codes : List Nat) : Nat := codes.foldr (fun code bits => 1 <<< code ||| bits) 0

private theorem testBit_mask (codes : List Nat) (code : Nat) :
    (mask codes).testBit code = true ↔ code ∈ codes := by
  induction codes with
  | nil => simp [mask]
  | cons first rest ih =>
    have bits : mask (first :: rest) = 1 <<< first ||| mask rest := rfl
    rw [bits, Nat.testBit_or, Bool.or_eq_true, ih, Nat.one_shiftLeft, Nat.testBit_two_pow,
      decide_eq_true_eq, List.mem_cons, eq_comm]

private theorem not_mem_of_masks (apart : mask one &&& mask two = 0) (inOne : code ∈ one) :
    code ∉ two := by
  intro inTwo
  have both : (mask one &&& mask two).testBit code = true := by
    rw [Nat.testBit_and, (testBit_mask one code).mpr inOne, (testBit_mask two code).mpr inTwo]
    rfl
  rw [apart, Nat.zero_testBit] at both
  cases both

theorem mem_of_masks (covered : mask one &&& mask two = mask one) (inOne : code ∈ one) :
    code ∈ two := by
  have both := (testBit_mask one code).mpr inOne
  rw [← covered, Nat.testBit_and, Bool.and_eq_true] at both
  exact (testBit_mask two code).mp both.2

section Tables

theorem upper_ordered : ∀ run ∈ upperShifts, run.first ≤ run.last := by decide +kernel

theorem lower_ordered : ∀ run ∈ lowerShifts, run.first ≤ run.last := by decide +kernel

theorem upperCase_ne_nil (c : Char) : upperCase c ≠ [] :=
  mapCase_ne_nil upper_ordered (by decide +kernel) c

theorem lowerCase_ne_nil (c : Char) : lowerCase c ≠ [] :=
  mapCase_ne_nil lower_ordered (by decide +kernel) c

/-- The code points of the separators of names and of the ends of lines. No case mapping brings one
of them in. -/
def caselessCodes : List Nat := [0x0A, 0x0D, 0x2D, 0x2F, 0x3A, 0x5F, 0x2028, 0x2029]

private theorem caseless_not_mem_expansions :
    (∀ entry ∈ upperExpansions, ∀ code ∈ entry.2, (Char.ofNat code).toNat ∉ caselessCodes) ∧
      ∀ entry ∈ lowerExpansions, ∀ code ∈ entry.2, (Char.ofNat code).toNat ∉ caselessCodes := by
  decide +kernel

/-- The code points of the first characters of changed lower cases. -/
private def lowerHeadCodes : List Nat := (imageHeads lowerShifts lowerExpansions).map Char.toNat

/-- The code points of the first characters of changed upper cases. -/
private def upperHeadCodes : List Nat := (imageHeads upperShifts upperExpansions).map Char.toNat

/-- The code points of the capital ASCII letters. -/
private def capitalCodes : List Nat := List.range' 65 26

private theorem mem_capitalCodes {c : Char} (capital : c.isUpper = true) :
    c.toNat ∈ capitalCodes := by
  have bounds : c.val ≥ 'A'.val ∧ c.val ≤ 'Z'.val := of_decide_eq_true capital
  have low : 65 ≤ c.toNat := bounds.1
  have high : c.toNat ≤ 90 := bounds.2
  rw [capitalCodes, List.mem_range'_1]
  omega

/-- How the tables lie to each other, from one computation of each of their masks. -/
private theorem table_masks :
    mask lowerHeadCodes &&& mask upperHeadCodes = 0 ∧
      mask lowerHeadCodes &&& mask (mappedCodes upperShifts upperExpansions) =
        mask lowerHeadCodes ∧
      mask capitalCodes &&& mask (mappedCodes lowerShifts lowerExpansions) = mask capitalCodes ∧
      mask capitalCodes &&& mask lowerHeadCodes = 0 ∧
      mask caselessCodes &&& mask upperHeadCodes = 0 ∧
      mask caselessCodes &&& mask lowerHeadCodes = 0 ∧
      mask upperHeadCodes &&& mask (mappedCodes upperShifts upperExpansions) = 0 ∧
      mask capitalCodes &&& mask (mappedCodes upperShifts upperExpansions) = 0 := by
  decide +kernel

/-- A character that starts both an upper case and a lower case is one that has no lower case. -/
theorem lowerCase_eq_of_head? (upper : (upperCase c).head? = some d)
    (lower : (lowerCase e).head? = some d) : lowerCase e = [e] := by
  obtain ⟨apart, hasUpper, -⟩ := table_masks
  rcases mem_imageHeads lower_ordered lower with ⟨-, kept, -⟩ | changed
  · exact kept
  · have inLower : d.toNat ∈ lowerHeadCodes := List.mem_map_of_mem changed
    rcases mem_imageHeads upper_ordered upper with ⟨rfl, -, unnamed⟩ | raised
    · exact absurd (mem_of_masks hasUpper inLower) unnamed
    · have inUpper : d.toNat ∈ upperHeadCodes := List.mem_map_of_mem raised
      exact absurd inUpper (not_mem_of_masks apart inLower)

theorem not_isUpper_of_head?_lowerCase (lower : (lowerCase c).head? = some d) :
    d.isUpper = false := by
  obtain ⟨-, -, haveLower, notLower, -⟩ := table_masks
  cases capital : d.isUpper with
  | false => rfl
  | true =>
    have range := mem_capitalCodes capital
    rcases mem_imageHeads lower_ordered lower with ⟨rfl, -, unnamed⟩ | changed
    · exact absurd (mem_of_masks haveLower range) unnamed
    · have inLower : d.toNat ∈ lowerHeadCodes := List.mem_map_of_mem changed
      exact absurd inLower (not_mem_of_masks notLower range)

/-- A capital ASCII letter is its own upper case. -/
theorem upperCase_of_isUpper {c : Char} (capital : c.isUpper = true) : upperCase c = [c] := by
  obtain ⟨-, -, -, -, -, -, -, unnamed⟩ := table_masks
  exact mapCase_of_unnamed (not_mem_of_masks unnamed (mem_capitalCodes capital))

/-- So is what an upper case starts with. -/
theorem upperCase_of_head? (raised : (upperCase c).head? = some d) : upperCase d = [d] := by
  obtain ⟨-, -, -, -, -, -, unnamed, -⟩ := table_masks
  rcases mem_imageHeads upper_ordered raised with ⟨rfl, kept, -⟩ | image
  · exact kept
  · have inHeads : d.toNat ∈ upperHeadCodes := List.mem_map_of_mem image
    exact mapCase_of_unnamed (not_mem_of_masks unnamed inHeads)

private theorem not_mem_imageChars {runs : List Shift} {expansions : List (Nat × List Nat)}
    (apart : mask caselessCodes &&& mask ((imageHeads runs expansions).map Char.toNat) = 0)
    (free : ∀ entry ∈ expansions, ∀ code ∈ entry.2, (Char.ofNat code).toNat ∉ caselessCodes)
    (caseless : d.toNat ∈ caselessCodes) : d ∉ imageChars runs expansions := by
  intro image
  rcases List.mem_append.mp image with moved | expanded
  · have head : d ∈ imageHeads runs expansions := List.mem_append_left _ moved
    exact not_mem_of_masks apart caseless (List.mem_map_of_mem head)
  · obtain ⟨entry, listed, member⟩ := List.mem_flatMap.mp expanded
    obtain ⟨code, inEntry, rfl⟩ := List.mem_map.mp member
    exact free entry listed code inEntry caseless

theorem eq_of_mem_upperCase (caseless : d.toNat ∈ caselessCodes) (member : d ∈ upperCase c) :
    d = c := by
  obtain ⟨-, -, -, -, apart, -⟩ := table_masks
  rw [upperHeadCodes] at apart
  rcases mem_imageChars upper_ordered member with same | image
  · exact same
  · exact absurd image (not_mem_imageChars apart caseless_not_mem_expansions.1 caseless)

theorem eq_of_mem_lowerCase (caseless : d.toNat ∈ caselessCodes) (member : d ∈ lowerCase c) :
    d = c := by
  obtain ⟨-, -, -, -, -, apart, -⟩ := table_masks
  rw [lowerHeadCodes] at apart
  rcases mem_imageChars lower_ordered member with same | image
  · exact same
  · exact absurd image (not_mem_imageChars apart caseless_not_mem_expansions.2 caseless)

theorem slash_of_mem_lowerCase (member : '/' ∈ lowerCase c) : c = '/' :=
  (eq_of_mem_lowerCase (by decide) member).symm

end Tables

end ClientGen.Text
