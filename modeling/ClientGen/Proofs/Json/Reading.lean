import ClientGen.Proofs.Json.Passing

/-!
Reading what is written. A reader settles on a text if what it finds there does not depend on where
the text stands nor on what follows: it gives the same result each time and stops at the end of the
text, or it fails each time. Strings are settled on by what their pieces mean.
-/
namespace ClientGen.Json

/-- How reading ends: with what is found, at the start of `rest`, or with a fault if nothing is. -/
inductive Leaves (rest : List Char) : Option α → Except ε (α × Cursor) → Prop
  | read (found : α) (after : Position) : Leaves rest (some found) (.ok (found, ⟨rest, after⟩))
  | fault (fault : ε) : Leaves rest none (.error fault)

/-- Reading a text behind blanks gives what is found in it, wherever it stands. -/
def Settles (reader : Cursor → Except ε (α × Cursor)) (chars : List Char) (found : Option α) :
    Prop :=
  ∀ (front : Blanks) rest position, Ends rest →
    Leaves rest found (reader ⟨front.chars ++ (chars ++ rest), position⟩)

theorem Leaves.found_eq {outcome : Except ε (α × Cursor)} (leaves : Leaves rest found outcome) :
    found = outcome.toOption.map Prod.fst := by
  cases leaves with
  | read found after => rfl
  | fault own => rfl

/-- What a reader finds in a text that stands alone. -/
def alone (reader : Cursor → Except ε (α × Cursor)) (chars : List Char) : Option α :=
  (reader ⟨chars, ⟨1, 0⟩⟩).toOption.map Prod.fst

theorem Settles.alone {reader : Cursor → Except ε (α × Cursor)} {chars : List Char}
    (settles : Settles reader chars found) : Settles reader chars (alone reader chars) := by
  have leaves := settles .none [] ⟨1, 0⟩ ends_nil
  have same : found = Json.alone reader chars := by
    rw [leaves.found_eq, Json.alone, List.append_nil]
    rfl
  exact same ▸ settles

theorem Leaves.bind {outcome : Except ε (α × Cursor)} (leaves : Leaves middle found outcome)
    (f : α → Option β) (next : α × Cursor → Except ε (β × Cursor))
    (later : ∀ a after, found = some a → Leaves rest (f a) (next (a, ⟨middle, after⟩))) :
    Leaves rest (found.bind f) (outcome >>= next) := by
  cases leaves with
  | read found after => exact later _ _ rfl
  | fault own => exact .fault _

theorem Leaves.mapError {outcome : Except ε (α × Cursor)} (leaves : Leaves rest found outcome)
    (f : ε → δ) : Leaves rest found (outcome.mapError f) := by
  cases leaves with
  | read found after => exact .read found after
  | fault own => exact .fault _

section Strings

/-- Half of a pair without the other one cannot be read. -/
theorem readUnicodeEscape_trailing {x y z w : Char}
    (digits : Text.numberIn? 16 [x, y, z, w] = some code) (trailing : isTrailing code = true)
    (rest : List Char) (position : Position) :
    ∃ fault, readUnicodeEscape ⟨x :: y :: z :: w :: rest, position⟩ = .error fault := by
  obtain ⟨after, number⟩ := readHex_digits digits rest position
  rw [readUnicodeEscape, number]
  dsimp only [bind, Except.bind]
  simp only [isTrailing, Bool.and_eq_true, decide_eq_true_eq] at trailing
  rw [if_pos trailing]
  exact ⟨_, rfl⟩

/-- A first half of a pair is read with what follows it. -/
theorem readUnicodeEscape_leading {x y z w : Char}
    (digits : Text.numberIn? 16 [x, y, z, w] = some code) (leading : isLeading code = true)
    (rest : List Char) (position : Position) : ∃ after,
    readUnicodeEscape ⟨x :: y :: z :: w :: rest, position⟩ = (do
      let c ← expectInEscape '\\' ⟨rest, after⟩ >>= expectInEscape 'u'
      let (low, c) ← readHex c
      if low < 0xDC00 ∨ 0xDFFF < low then c.here .loneSurrogate
      else .ok (Char.ofNat ((code - 0xD800) * 0x400 + (low - 0xDC00) + 0x10000), c)) := by
  obtain ⟨after, number⟩ := readHex_digits digits rest position
  simp only [isLeading, Bool.and_eq_true, decide_eq_true_eq] at leading
  refine ⟨after, ?_⟩
  rw [readUnicodeEscape, number, bind_assoc]
  dsimp only [bind, Except.bind]
  rw [if_neg (by omega), if_neg (by omega)]

/-- A first half of a pair and a code unit after it are read together. -/
theorem readUnicodeEscape_two {x y z w x' y' z' w' : Char}
    (digits : Text.numberIn? 16 [x, y, z, w] = some code) (leading : isLeading code = true)
    (digits' : Text.numberIn? 16 [x', y', z', w'] = some low) (rest : List Char)
    (position : Position) : ∃ after,
    readUnicodeEscape
        ⟨x :: y :: z :: w :: '\\' :: 'u' :: x' :: y' :: z' :: w' :: rest, position⟩ =
      if low < 0xDC00 ∨ 0xDFFF < low then (Cursor.mk rest after).here .loneSurrogate
      else .ok (Char.ofNat ((code - 0xD800) * 0x400 + (low - 0xDC00) + 0x10000),
        ⟨rest, after⟩) := by
  obtain ⟨between, first⟩ := readUnicodeEscape_leading digits leading
    ('\\' :: 'u' :: x' :: y' :: z' :: w' :: rest) position
  obtain ⟨after, second⟩ := readHex_digits digits' rest ((between.after '\\').after 'u')
  have marked : (expectInEscape '\\' ⟨'\\' :: 'u' :: x' :: y' :: z' :: w' :: rest, between⟩ >>=
      expectInEscape 'u') =
        .ok ⟨x' :: y' :: z' :: w' :: rest, (between.after '\\').after 'u'⟩ := rfl
  refine ⟨after, first.trans ?_⟩
  rw [marked]
  dsimp only [bind, Except.bind]
  rw [second]

private theorem readsAs_pair {x y z w x' y' z' w' : Char}
    (digits : Text.numberIn? 16 [x, y, z, w] = some code)
    (digits' : Text.numberIn? 16 [x', y', z', w'] = some low)
    (leading : isLeading code = true) (trailing : isTrailing low = true) :
    ReadsAs ['\\', 'u', x, y, z, w, '\\', 'u', x', y', z', w']
      (Char.ofNat ((code - 0xD800) * 0x400 + (low - 0xDC00) + 0x10000)) := by
  refine readsAs_escape fun rest position => ?_
  obtain ⟨after, read⟩ := readUnicodeEscape_two digits leading digits' rest (position.after 'u')
  simp only [isTrailing, Bool.and_eq_true, decide_eq_true_eq] at trailing
  exact ⟨after, read.trans (if_neg (by omega))⟩

/-- Pieces up to the closing quote are read as the given characters, or cannot be read if there are
none. -/
def ReadsPieces (pieces : List Piece) (found : Option (List Char)) : Prop :=
  ∀ before rest fuel position, pieces.length < fuel →
    Leaves rest (found.map fun text => String.ofList (before.reverse ++ text))
      (readStringFrom fuel before ⟨pieces.flatMap Piece.chars ++ '"' :: rest, position⟩)

theorem readsPieces_nil : ReadsPieces [] (some []) := by
  intro before rest fuel position enough
  obtain ⟨fuel, rfl⟩ := Nat.exists_eq_succ_of_ne_zero (Nat.ne_of_gt enough)
  rw [Option.map_some, List.append_nil]
  exact .read _ _

/-- Pieces that a character is read from may stand in front. -/
theorem ReadsPieces.cons {first : Piece} {more : List Piece} {c : Char}
    (later : ReadsPieces more found) (front : List Piece)
    (reads : ReadsAs ((first :: front).flatMap Piece.chars) c) :
    ReadsPieces (first :: front ++ more) (found.map (c :: ·)) := by
  intro before rest fuel position enough
  obtain ⟨fuel, rfl⟩ := Nat.exists_eq_succ_of_ne_zero (Nat.ne_of_gt (Nat.zero_lt_of_lt enough))
  obtain ⟨between, read⟩ :=
    reads.read fuel before (more.flatMap Piece.chars ++ '"' :: rest) position
  have shorter : more.length < fuel := by
    rw [List.length_append, List.length_cons] at enough
    omega
  have others := later (c :: before) rest fuel between shorter
  rw [List.flatMap_append, List.append_assoc, read, Option.map_map]
  simpa [Function.comp_def] using others

/-- Pieces that start with an escape that is refused cannot be read. -/
theorem readsPieces_refused {pieces : List Piece} {marked : List Char}
    (text : pieces.flatMap Piece.chars = '\\' :: marked)
    (refused : ∀ rest position, ∃ fault,
      readEscape ⟨marked ++ '"' :: rest, position⟩ = .error fault) : ReadsPieces pieces none := by
  intro before rest fuel position enough
  obtain ⟨fuel, rfl⟩ := Nat.exists_eq_succ_of_ne_zero (Nat.ne_of_gt (Nat.zero_lt_of_lt enough))
  obtain ⟨fault, failed⟩ := refused rest (position.after '\\')
  have opened : readStringFrom (fuel + 1) before ⟨'\\' :: (marked ++ '"' :: rest), position⟩ =
      readEscape ⟨marked ++ '"' :: rest, position.after '\\'⟩ >>= fun found =>
        readStringFrom fuel (found.1 :: before) found.2 := rfl
  rw [text, List.cons_append, opened, failed]
  exact .fault _

/-- No code unit follows where something else does. -/
theorem expectUnit_error {pieces : List Piece}
    (other : ∀ x y z w code digits more, pieces ≠ .unit x y z w code digits :: more)
    (rest : List Char) (position : Position) : ∃ fault,
      (expectInEscape '\\' ⟨pieces.flatMap Piece.chars ++ '"' :: rest, position⟩ >>=
        expectInEscape 'u') = .error fault := by
  cases pieces with
  | nil => exact ⟨_, rfl⟩
  | cons first more =>
    cases first with
    | plain c isPlain =>
      have refused : expectInEscape '\\'
          ⟨c :: (more.flatMap Piece.chars ++ '"' :: rest), position⟩ =
          Cursor.ahead ⟨c :: (more.flatMap Piece.chars ++ '"' :: rest), position⟩
            .brokenSurrogatePair := if_neg isPlain.2.1
      exact ⟨_, congrArg (· >>= expectInEscape 'u') refused⟩
    | escape letter c known =>
      have apart : letter ≠ 'u' := by
        rintro rfl
        cases known
      exact ⟨_, if_neg apart⟩
    | unit x y z w code digits => exact absurd rfl (other x y z w code digits more)

/-- Pieces are read as the characters that they mean. -/
theorem readsPieces (pieces : List Piece) : ReadsPieces pieces (meaning pieces) := by
  fun_induction meaning pieces with
  | case1 => exact readsPieces_nil
  | case2 c isPlain more ih =>
    exact ih.cons [] (readsAs_plain isPlain.1 isPlain.2.1 isPlain.2.2)
  | case3 letter c known more ih => exact ih.cons [] (readsAs_simpleEscape known)
  | case4 x y z w code digits more trailing =>
    exact readsPieces_refused rfl fun rest position =>
      readUnicodeEscape_trailing digits trailing _ (position.after 'u')
  | case5 x y z w code digits _ leading x' y' z' w' low digits' more trailing ih =>
    exact ih.cons [.unit x' y' z' w' low digits']
      (readsAs_pair digits digits' leading trailing)
  | case6 x y z w code digits _ leading x' y' z' w' low digits' more other =>
    refine readsPieces_refused rfl fun rest position => ?_
    obtain ⟨after, read⟩ := readUnicodeEscape_two digits leading digits'
      (more.flatMap Piece.chars ++ '"' :: rest) (position.after 'u')
    simp only [isTrailing, Bool.and_eq_true, decide_eq_true_eq] at other
    exact ⟨_, read.trans (if_pos (by omega))⟩
  | case7 x y z w code digits more _ leading other =>
    refine readsPieces_refused rfl fun rest position => ?_
    obtain ⟨between, first⟩ := readUnicodeEscape_leading digits leading
      (more.flatMap Piece.chars ++ '"' :: rest) (position.after 'u')
    obtain ⟨fault, missed⟩ := expectUnit_error other rest between
    refine ⟨fault, first.trans ?_⟩
    rw [missed]
    rfl
  | case8 x y z w code digits more inner outer ih =>
    refine ih.cons [] (readsAs_unit digits ?_)
    simp only [isTrailing, isLeading, Bool.and_eq_true, decide_eq_true_eq] at inner outer
    omega

/-- A string is read as its pieces mean. -/
theorem readString_pieces (pieces : List Piece) (rest : List Char) (position : Position) :
    Leaves rest ((meaning pieces).map String.ofList)
      (readString ⟨pieces.flatMap Piece.chars ++ '"' :: rest, position⟩) := by
  have shorter := length_le_flatMap Piece.chars_ne_nil pieces
  refine readsPieces pieces [] rest _ position ?_
  rw [List.length_append]
  omega

end Strings

section Members

/-- Take a member into a state by its name and the text of its value. -/
def Member.take (step : σ → String → List Char → Option σ) (state : σ) (member : Member) :
    Option σ :=
  member.name?.bind fun name => step state name member.value

private theorem nextName_first (blanks : Blanks) (rest : List Char) (position : Position) : ∃ after,
    nextName true ⟨blanks.chars ++ '"' :: rest, position⟩ = .ok (true, ⟨rest, after⟩) := by
  obtain ⟨between, skipped⟩ := skipSpace_to blanks (c := '"') rfl rest position
  refine ⟨between.after '"', ?_⟩
  rw [nextName, skipped]
  rfl

private theorem nextName_further (blanks before : Blanks) (rest : List Char) (position : Position) :
    ∃ after, nextName false ⟨blanks.chars ++ ',' :: (before.chars ++ '"' :: rest), position⟩ =
      .ok (true, ⟨rest, after⟩) := by
  obtain ⟨one, comma⟩ :=
    skipSpace_to blanks (c := ',') rfl (before.chars ++ '"' :: rest) position
  obtain ⟨two, quote⟩ := skipSpace_to before (c := '"') rfl rest (one.after ',')
  refine ⟨two.after '"', ?_⟩
  have skipped : (Cursor.next ⟨',' :: (before.chars ++ '"' :: rest), one⟩).skipSpace =
      ⟨'"' :: rest, two⟩ := quote
  simp only [nextName, comma, Cursor.peek?, List.head?_cons, skipped]
  rfl

private theorem nextName_close (isFirst : Bool) (blanks : Blanks) (rest : List Char)
    (position : Position) : ∃ after,
      nextName isFirst ⟨blanks.chars ++ '\x7d' :: rest, position⟩ =
        .ok (false, ⟨'\x7d' :: rest, after⟩) := by
  obtain ⟨between, skipped⟩ := skipSpace_to blanks (c := '\x7d') rfl rest position
  refine ⟨between, ?_⟩
  rw [nextName, skipped]
  rfl

theorem readColon_to (blanks : Blanks) (rest : List Char) (position : Position) : ∃ after,
    readColon ⟨blanks.chars ++ ':' :: rest, position⟩ = .ok ⟨rest, after⟩ := by
  obtain ⟨between, skipped⟩ := skipSpace_to blanks (c := ':') rfl rest position
  refine ⟨between.after ':', ?_⟩
  rw [readColon, skipped]
  rfl

variable {read : σ → String → Cursor → Except ε (σ × Cursor)} {fault : Fault → ε}
  {step : σ → String → List Char → Option σ}

/-- A reader of members that gives what a step gives, wherever the member stands. -/
def Takes (read : σ → String → Cursor → Except ε (σ × Cursor))
    (step : σ → String → List Char → Option σ) (member : Member) : Prop :=
  ∀ state name rest position, Ends rest → Leaves rest (step state name member.value)
    (read state name ⟨member.after.chars ++ ':' :: (member.front.chars ++ (member.value ++ rest)),
      position⟩)

/-- Reading goes on with the members after one whose opening quote has been passed. -/
theorem foldMembersFrom_member {member : Member} (takes : Takes read step member)
    {fuel : Nat} {isFirst : Bool} {state : σ} {c : Cursor} {between : Position}
    {tail : List Char} {found : σ → Option σ} (ends : Ends tail)
    (opened : nextName isFirst c = .ok (true, ⟨member.afterQuote tail, between⟩))
    (later : ∀ state after, Leaves rest (found state)
      (foldMembersFrom read fault fuel false state ⟨tail, after⟩)) :
    Leaves rest ((member.take step state).bind found)
      (foldMembersFrom read fault (fuel + 1) isFirst state c) := by
  have named := (readString_pieces member.label
    (member.after.chars ++ ':' :: (member.front.chars ++ (member.value ++ tail))) between).mapError
      fault
  have taken := named.bind (fun name => step state name member.value)
    (fun named => read state named.1 named.2) fun name after _ => takes state name tail after ends
  have folded := taken.bind found
    (fun taken => foldMembersFrom read fault fuel false taken.1 taken.2)
    fun state after _ => later state after
  rw [bind_assoc] at folded
  rw [foldMembersFrom, opened]
  exact folded

private theorem foldMembersFrom_close (fuel : Nat) (isFirst : Bool) (state : σ) (blanks : Blanks)
    (rest : List Char) (position : Position) :
    Leaves rest (some state) (foldMembersFrom read fault (fuel + 1) isFirst state
      ⟨blanks.chars ++ '\x7d' :: rest, position⟩) := by
  obtain ⟨after, closed⟩ := nextName_close isFirst blanks rest position
  rw [foldMembersFrom, closed]
  exact .read _ _

theorem Member.padded_append (member : Member) (tail : List Char) :
    member.padded.chars ++ tail =
      member.before.chars ++ '"' :: member.afterQuote (member.back.chars ++ tail) := by
  simp [Member.padded, Padded.chars, Member.core, Member.afterQuote, quoted]

/-- Members after a first one are taken one by one, and the end of the object. -/
theorem foldMembersFrom_further (members : List Member)
    (takes : ∀ member ∈ members, Takes read step member) (rest : List Char) {fuel : Nat}
    (enough : members.length < fuel) (state : σ) (blanks : Blanks) (position : Position) :
    Leaves rest (members.foldlM (Member.take step) state)
      (foldMembersFrom read fault fuel false state
        ⟨blanks.chars ++ (further (members.map Member.padded) ++ '\x7d' :: rest), position⟩) := by
  induction members generalizing fuel state blanks position with
  | nil =>
    obtain ⟨fuel, rfl⟩ := Nat.exists_eq_succ_of_ne_zero (Nat.ne_of_gt enough)
    exact foldMembersFrom_close fuel false state blanks rest position
  | cons member more ih =>
    obtain ⟨fuel, rfl⟩ := Nat.exists_eq_succ_of_ne_zero (Nat.ne_of_gt (Nat.zero_lt_of_lt enough))
    obtain ⟨own, others⟩ := List.forall_mem_cons.mp takes
    obtain ⟨between, opened⟩ := nextName_further blanks member.before _ position
    have ends := ends_following .object member.back (more.map Member.padded) rest
    have text : further ((member :: more).map Member.padded) ++ '\x7d' :: rest =
        ',' :: (member.padded.chars ++ (further (more.map Member.padded) ++ '\x7d' :: rest)) := by
      simp [further_cons]
    rw [text, Member.padded_append, List.foldlM_cons]
    exact foldMembersFrom_member own ends opened fun state after =>
      ih others (Nat.lt_of_succ_lt_succ enough) state member.back after

/-- The members of an object are taken in their order. -/
theorem foldMembers_enclosed (members : List Member)
    (takes : ∀ member ∈ members, Takes read step member) (inside : Blanks) (rest : List Char)
    (state : σ) (position : Position) :
    Leaves rest (members.foldlM (Member.take step) state)
      (foldMembers read fault state
        ⟨inside.chars ++ (separated (members.map Member.padded) ++ '\x7d' :: rest), position⟩) := by
  cases members with
  | nil => exact foldMembersFrom_close _ true state inside rest position
  | cons member more =>
    obtain ⟨own, others⟩ := List.forall_mem_cons.mp takes
    have text : inside.chars ++
        (separated ((member :: more).map Member.padded) ++ '\x7d' :: rest) =
        (inside.append member.before).chars ++ '"' :: member.afterQuote
          (member.back.chars ++ (further (more.map Member.padded) ++ '\x7d' :: rest)) := by
      rw [List.map_cons, separated, List.append_assoc, Member.padded_append, Blanks.append,
        List.append_assoc]
    have enough : more.length < ((inside.append member.before).chars ++ '"' :: member.afterQuote
        (member.back.chars ++ (further (more.map Member.padded) ++ '\x7d' :: rest))).length := by
      have shorter := length_le_flatMap
        (fun entry : Padded => List.cons_ne_nil ',' entry.chars) (more.map Member.padded)
      rw [List.length_map, ← further] at shorter
      simp only [Member.afterQuote, List.length_append, List.length_cons]
      omega
    obtain ⟨between, opened⟩ := nextName_first (inside.append member.before) _ position
    have ends := ends_following .object member.back (more.map Member.padded) rest
    rw [text, List.foldlM_cons]
    exact foldMembersFrom_member own ends opened fun state after =>
      foldMembersFrom_further more others rest enough state member.back after

end Members

end ClientGen.Json
