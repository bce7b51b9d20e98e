import ClientGen.Proofs.Generate
import ClientGen.Proofs.Output.Repeated

/-!
Generating a module again. A run that ends well leaves a file that a later run of the same
operations takes for its own, whatever the times of the two runs are, and a run that fails leaves
files from which no later one can write either. So of runs that follow each other only the first can
write.
-/
namespace ClientGen
open Files

namespace Output

/-- Bytes that hold a text hold every text with the same content. -/
theorem holds_of_sameContent (same : Module.sameContent one two = true)
    (held : holds answer one = true) : holds answer two = true := by
  cases answer with
  | error fault => cases held
  | ok bytes =>
    obtain ⟨text, decoded, alike⟩ := Option.any_eq_true _ _ |>.mp held
    refine (Option.any_eq_true _ _).mpr ⟨text, decoded, ?_⟩
    rw [Module.sameContent, beq_iff_eq] at same alike ⊢
    exact alike.trans same

/-- A target that was updated without fault holds the content. -/
theorem holds_of_updated (updated : Updated before target content (.ok written) after) :
    holds (after.read target) content = true := by
  cases written with
  | true =>
    rw [Moved.readable updated, Run.holds_toUTF8, Module.sameContent, beq_self_eq_true]
  | false =>
    obtain ⟨rfl, bytes, readable, held⟩ := updated
    rw [readable]
    exact held

/-- A target that holds the content already is left alone. -/
theorem replaceIfChanged_of_holds (host : Host)
    (held : holds (host.files.read target) content = true) :
    (host.run (replaceIfChanged target content).run).1 = .ok false ∧
      (host.run (replaceIfChanged target content).run).2.files = host.files := by
  rw [run_replaceIfChanged, if_pos held]
  exact ⟨rfl, (Attempt.readsOnly_report _).run host⟩

end Output

namespace Run

/-- The module of operations, as it is stamped at a time. -/
def moduleAt (ops : List Operation) (baseUrl : Option String) (seconds : Int) : String :=
  (Module.render ops baseUrl seconds).result

/-- A run that generates the module of operations for a target. -/
structure Generates (run : Run) (ops : List Operation) (target : FilePath)
    (baseUrl : Option String) : Prop where
  loaded : run.operations = .ok ops
  ofTarget : run.config.outputPath = target
  ofBaseUrl : run.config.baseUrl = baseUrl

variable {run earlier : Run} {rest : List Run} {before after : FileSystem}

/-- Such a run comes down to updating the target. -/
theorem Generates.replaces (generates : Generates run ops target baseUrl) :
    ∃ ready : Host, ready.files = run.before.files ∧
      run.result.map Report.isWritten = (ready.run
        (Output.replaceIfChanged target (moduleAt ops baseUrl run.seconds)).run).1 ∧
      run.files = (ready.run
        (Output.replaceIfChanged target (moduleAt ops baseUrl run.seconds)).run).2.files := by
  obtain ⟨loaded, rfl, rfl⟩ := generates
  obtain ⟨ready, same, finished⟩ := run.finishes loaded
  refine ⟨ready, same, ?_⟩
  rw [result, files, finished, finish, Attempt.run_bind, Host.run_bind, moduleAt]
  cases ready.run (Output.replaceIfChanged run.config.outputPath
      (Module.render ops run.config.baseUrl run.seconds).result).run with
  | mk outcome after =>
    cases outcome with
    | error error => exact ⟨rfl, rfl⟩
    | ok isWritten =>
      cases isWritten with
      | true => exact ⟨rfl, rfl⟩
      | false => exact ⟨rfl, rfl⟩

/-- A target holds the module of operations, whatever time it is stamped at. -/
def Current (ops : List Operation) (baseUrl : Option String) (target : FilePath)
    (files : FileSystem) : Prop :=
  ∀ seconds, Output.holds (files.read target) (moduleAt ops baseUrl seconds) = true

private theorem current_of_updated {one : Int}
    (updated : Output.Updated before target (moduleAt ops baseUrl one) (.ok written) after) :
    Current ops baseUrl target after := by
  intro two
  exact Output.holds_of_sameContent (Module.sameContent_render ops baseUrl one two)
    (Output.holds_of_updated updated)

def LeftByFailure (target : FilePath) (files : FileSystem) : Prop :=
  ∃ (host : Host) (content : String) (error : Error),
    (host.run (Output.replaceIfChanged target content).run).1 = .error error ∧
      files = (host.run (Output.replaceIfChanged target content).run).2.files

/-- Files from which a run of the same operations writes no module. -/
def Settled (ops : List Operation) (baseUrl : Option String) (target : FilePath)
    (files : FileSystem) : Prop :=
  Current ops baseUrl target files ∨ LeftByFailure target files

/-- A run settles the files. -/
theorem Generates.settles (generates : Generates run ops target baseUrl) :
    Settled ops baseUrl target run.files := by
  obtain ⟨ready, -, result, files⟩ := generates.replaces
  have updated := (Output.ensures_replaceIfChanged ready.files target
    (moduleAt ops baseUrl run.seconds)).run ready
  rw [files]
  cases outcome : (ready.run
      (Output.replaceIfChanged target (moduleAt ops baseUrl run.seconds)).run).1 with
  | error error => exact .inr ⟨ready, _, error, outcome, rfl⟩
  | ok written =>
    rw [outcome] at updated
    exact .inl (current_of_updated updated)

/-- A run over a current target reports that it has not written, and changes nothing. -/
theorem Generates.skips (generates : Generates run ops target baseUrl)
    (current : Current ops baseUrl target run.before.files) :
    run.result.map Report.isWritten = .ok false ∧ run.files = run.before.files := by
  obtain ⟨ready, same, result, files⟩ := generates.replaces
  rw [← same] at current
  obtain ⟨skipped, unchanged⟩ := Output.replaceIfChanged_of_holds ready (current run.seconds)
  exact ⟨result.trans skipped, files.trans (unchanged.trans same)⟩

/-- A run over settled files writes no module. -/
theorem Generates.keeps (generates : Generates run ops target baseUrl)
    (settled : Settled ops baseUrl target run.before.files) :
    run.result.map Report.isWritten ≠ .ok true ∧
      run.files.held target = run.before.files.held target := by
  obtain ⟨ready, same, result, files⟩ := generates.replaces
  have unwritten : run.result.map Report.isWritten ≠ .ok true := by
    rcases settled with current | ⟨host, content, error, failed, left⟩
    · rw [(generates.skips current).1]
      simp
    · rw [result]
      exact Output.replaceIfChanged_after_error target content _ failed (same.trans left)
  have updated := run.updated generates.loaded
  rw [generates.ofTarget] at updated
  refine ⟨unwritten, ?_⟩
  cases outcome : run.result.map Report.isWritten with
  | error error =>
    rw [outcome] at updated
    exact Output.Prepared.held updated
  | ok written =>
    cases written with
    | true => exact absurd outcome unwritten
    | false =>
      rw [outcome] at updated
      rw [updated.1]

/-- Each run finds the files that the run before has left. -/
def InTurn (runs : List Run) : Prop :=
  runs.IsChain fun one next => next.before.files = one.files

/-- What the first run has left, and all later ones keep, each of these finds. -/
theorem InTurn.finds (inTurn : InTurn (earlier :: rest)) (state : FileSystem → Prop)
    (left : state earlier.files)
    (step : ∀ run ∈ rest, state run.before.files → state run.files) :
    ∀ run ∈ rest, state run.before.files := by
  induction rest generalizing earlier with
  | nil => exact fun _ impossible => by cases impossible
  | cons second rest ih =>
    obtain ⟨following, others⟩ := List.isChain_cons_cons.mp inTurn
    have found : state second.before.files := following ▸ left
    have kept := step second List.mem_cons_self found
    have later := ih others kept fun run member => step run (List.mem_cons_of_mem _ member)
    intro run listed
    rcases List.mem_cons.mp listed with rfl | member
    · exact found
    · exact later run member

/-- Behind a run of the same operations no module is written. -/
theorem InTurn.keeps (inTurn : InTurn (earlier :: rest))
    (generate : ∀ run ∈ earlier :: rest, Generates run ops target baseUrl) :
    ∀ run ∈ rest, run.result.map Report.isWritten ≠ .ok true ∧
      run.files.held target = earlier.files.held target := by
  have generates := fun run member => generate run (List.mem_cons_of_mem earlier member)
  have finds := inTurn.finds
    (fun files => Settled ops baseUrl target files ∧
      files.held target = earlier.files.held target)
    ⟨(generate earlier List.mem_cons_self).settles, rfl⟩ ?_
  · intro run listed
    obtain ⟨settled, held⟩ := finds run listed
    obtain ⟨unwritten, same⟩ := (generates run listed).keeps settled
    exact ⟨unwritten, same.trans held⟩
  · rintro run listed ⟨settled, held⟩
    exact ⟨(generates run listed).settles, ((generates run listed).keeps settled).2.trans held⟩

/-- Behind a run that leaves a current target nothing changes. -/
theorem InTurn.skips (inTurn : InTurn (earlier :: rest))
    (generates : ∀ run ∈ rest, Generates run ops target baseUrl)
    (current : Current ops baseUrl target earlier.files) :
    ∀ run ∈ rest, run.result.map Report.isWritten = .ok false ∧ run.files = earlier.files := by
  have skips : ∀ run ∈ rest, run.before.files = earlier.files →
      run.result.map Report.isWritten = .ok false ∧ run.files = earlier.files := by
    intro run listed same
    obtain ⟨skipped, unchanged⟩ := (generates run listed).skips (same ▸ current)
    exact ⟨skipped, unchanged.trans same⟩
  intro run listed
  exact skips run listed
    (inTurn.finds (· = earlier.files) rfl (fun run listed same => (skips run listed same).2) run
      listed)

/-- Where a target was updated to the module of operations, updating it to their module of any other
time writes nothing and leaves the files as they are. So of runs that follow each other with the
same operations, only the first can write: no later one reports that it did, the target stays what
the first has made of it, and if the first ended well, all files stay. That nothing is written after
a first run that failed rests on `FileSystem` and `Host.run`: a step fails for what stands in the
tree, so it fails again where the tree is the same, and none fails once and then succeeds. -/
theorem only_first_writes (ops : List Operation) (baseUrl : Option String) (target : FilePath) :
    (∀ (host later : Host) (one two : Int) (written : Bool),
      (host.run (Output.replaceIfChanged target (moduleAt ops baseUrl one)).run).1 = .ok written →
      later.files = (host.run
        (Output.replaceIfChanged target (moduleAt ops baseUrl one)).run).2.files →
      (later.run (Output.replaceIfChanged target (moduleAt ops baseUrl two)).run).1 = .ok false ∧
        (later.run (Output.replaceIfChanged target (moduleAt ops baseUrl two)).run).2.files =
          later.files) ∧
    ∀ (earlier : Run) (rest : List Run),
      (∀ run ∈ earlier :: rest, Generates run ops target baseUrl) → InTurn (earlier :: rest) →
      ∀ run ∈ rest, run.result.map Report.isWritten ≠ .ok true ∧
        run.files.held target = earlier.files.held target ∧
        ∀ report, earlier.result = .ok report →
          run.result.map Report.isWritten = .ok false ∧ run.files = earlier.files := by
  constructor
  · intro host later one two written ended left
    have updated := (Output.ensures_replaceIfChanged host.files target
      (moduleAt ops baseUrl one)).run host
    rw [ended, ← left] at updated
    exact Output.replaceIfChanged_of_holds later (current_of_updated updated two)
  · intro earlier rest generate inTurn run listed
    obtain ⟨unwritten, held⟩ := inTurn.keeps generate run listed
    refine ⟨unwritten, held, ?_⟩
    intro report ended
    have first := generate earlier List.mem_cons_self
    have updated := earlier.updated first.loaded
    rw [ended, first.ofTarget, first.ofBaseUrl] at updated
    have others := fun run member => generate run (List.mem_cons_of_mem earlier member)
    exact inTurn.skips others (current_of_updated updated) run listed

section Again

/-- The first run once more, in the same place. -/
def again : Run :=
  { first with seconds := 1, before := { first.before with files := first.files } }

private theorem read_payload : first.files.read ⟨"/payload"⟩ = .ok plainPayload.toUTF8 := by
  decide +kernel

theorem generates_again : ∀ run ∈ [first, again], Generates run [plain] ⟨"/client.ts"⟩ none := by
  intro run listed
  rw [List.mem_pair] at listed
  rcases listed with rfl | rfl
  · exact ⟨operations_first, rfl, rfl⟩
  · refine ⟨?_, rfl, rfl⟩
    rw [operations_of_stored again _ rfl read_payload]
    cbv

/-- The update of the target that the first run makes. -/
def once : Except Error Bool × Host :=
  first.before.run (Output.replaceIfChanged ⟨"/client.ts"⟩ (moduleAt [plain] none 0)).run

/-- The target is updated once, whether or not the update is made in a run. -/
theorem only_first_writes_again :
    (once.1 = .ok true ∧
      (once.2.run (Output.replaceIfChanged ⟨"/client.ts"⟩ (moduleAt [plain] none 1)).run).1 =
        .ok false) ∧
      first.result.map Report.isWritten = .ok true ∧
      again.result.map Report.isWritten = .ok false ∧ again.files = first.files := by
  obtain ⟨updates, runs⟩ := only_first_writes [plain] none ⟨"/client.ts"⟩
  have written : once.1 = .ok true := by decide +kernel
  obtain ⟨report, ended⟩ : ∃ report, first.result = .ok report := by
    cases outcome : first.result with
    | ok report => exact ⟨report, rfl⟩
    | error error =>
      have written := written_first
      rw [outcome] at written
      cases written
  have inTurn : InTurn [first, again] := List.isChain_pair.mpr rfl
  obtain ⟨-, -, later⟩ := runs first [again] generates_again inTurn again (by simp)
  obtain ⟨skipped, unchanged⟩ := later report ended
  have updated := (updates first.before once.2 0 1 true written rfl).1
  exact ⟨⟨written, updated⟩, written_first, skipped, unchanged⟩

end Again

end Run

end ClientGen
