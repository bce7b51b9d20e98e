import Mathlib
import ClientGen.Generate
import ClientGen.Proofs.Module.Content
import ClientGen.Proofs.Module.Hidden
import ClientGen.Proofs.Output

/-!
Whole runs. A run that ends well leaves its own module in its file, also when it found one there and
wrote nothing, as long as no path of an operation starts a line that reads as a stamp. A path that
does so can hide a change from a later run.
-/
namespace ClientGen
open Files ClientGen.Module

theorem readsOnly_askFrom (policy : Introspection.RetryPolicy) (headers : List (String × String))
    (url : String) (attempt left : Nat) :
    Plan.ReadsOnly (Introspection.askFrom policy headers url attempt left).run := by
  have sent : Plan.ReadsOnly (Attempt.request (.send url headers)).run :=
    fun _ => .ask (fun _ _ same => same) fun _ _ same => .done same
  induction left generalizing attempt with
  | zero =>
    refine Attempt.readsOnly_bind sent ?_
    intro answer
    cases answer with
    | ok body => exact fun _ => .done rfl
    | error message => exact fun _ => .done rfl
  | succ left ih =>
    refine Attempt.readsOnly_bind sent ?_
    intro answer
    cases answer with
    | ok body => exact fun _ => .done rfl
    | error message =>
      refine Attempt.readsOnly_bind (Attempt.readsOnly_report _) fun _ => ?_
      refine Attempt.readsOnly_bind ?_ fun _ => ih (attempt + 1)
      exact fun _ => .ask (fun _ _ same => same) fun _ _ same => .done same

/-- Loading operations changes no files. -/
theorem readsOnly_loadOperations (policy : Introspection.RetryPolicy) (config : Config) :
    Plan.ReadsOnly (loadOperations policy config).run := by
  unfold loadOperations
  split
  · refine Attempt.readsOnly_bind (Attempt.readsOnly_readText _) fun text => ?_
    exact Attempt.readsOnly_ofExcept _ _
  · refine Attempt.readsOnly_bind (readsOnly_askFrom policy _ _ _ _) fun text => ?_
    refine Attempt.readsOnly_bind (Attempt.readsOnly_ofExcept _ _) fun operations => ?_
    exact Attempt.readsOnly_bind (Attempt.readsOnly_report _) fun _ _ => .done rfl
  · exact fun _ => .done rfl

/-- The last part of a run: a file is updated. -/
def finish (path : FilePath) (content : String) (count : Nat) : Attempt Report := do
  let isWritten ← Output.replaceIfChanged path content
  if isWritten then Attempt.report (.wroteModule path.text count)
  return ⟨path, count, isWritten⟩

theorem ensures_finish (files : FileSystem) (path : FilePath) (content : String) (count : Nat) :
    Plan.Ensures (Output.AllOrNothing files path content.toUTF8)
      (fun outcome after => Output.Updated files path content (outcome.map Report.isWritten) after)
      (finish path content count).run files := by
  unfold finish
  rw [Attempt.run_bind]
  refine Plan.ensures_bind (Output.ensures_replaceIfChanged files path content) ?_
  intro outcome after updated
  cases outcome with
  | error error => exact .done updated
  | ok isWritten =>
    cases isWritten with
    | false => exact .done updated
    | true =>
      refine .ask (fun _ _ same => .inr (same ▸ updated)) ?_
      rintro _ last rfl
      exact .done updated

/-- A file that holds its content already is not written. -/
theorem result_finish (host : Host) (path : FilePath) (content : String) (count : Nat)
    (found : host.files.read path = .ok bytes) (same : Output.holds (.ok bytes) content = true) :
    (host.run (finish path content count).run).1 = .ok ⟨path, count, false⟩ := by
  have skipped : (host.run (Output.replaceIfChanged path content).run).1 = .ok false := by
    change (host.run (ExceptT.run
      (if Output.holds (host.files.read path) content then _ else _))).1 = _
    rw [found, if_pos same]
    rfl
  rw [finish, Attempt.run_bind, Host.run_bind, skipped]
  rfl

/-- A run: what it is told, and its surroundings before it. -/
structure Run where
  policy : Introspection.RetryPolicy
  config : Config
  seconds : Int
  before : Host

namespace Run

def operations (run : Run) : Except Error (List Operation) :=
  (run.before.run (loadOperations run.policy run.config).run).1

def result (run : Run) : Except Error Report :=
  (run.before.run (generate run.policy run.config run.seconds).run).1

def files (run : Run) : FileSystem :=
  (run.before.run (generate run.policy run.config run.seconds).run).2.files

/-- The module of operations, as a run stamps it at a time. -/
def bytesOf (run : Run) (ops : List Operation) (seconds : Int) : ByteArray :=
  (Module.render ops run.config.baseUrl seconds).result.toUTF8

/-- A run that loads no operations reports why, and leaves the files alone. -/
theorem unloaded (run : Run) (failed : run.operations = .error error) :
    run.result = .error error ∧ run.files = run.before.files := by
  have reads := (readsOnly_loadOperations run.policy run.config).run run.before
  unfold operations at failed
  unfold result files
  rw [generate, Attempt.run_bind, Host.run_bind, failed]
  exact ⟨rfl, reads⟩

/-- A run that loads operations goes on to update its file with their module. -/
theorem finishes (run : Run) (loaded : run.operations = .ok ops) :
    ∃ ready : Host, ready.files = run.before.files ∧
      run.before.run (generate run.policy run.config run.seconds).run =
        ready.run (finish run.config.outputPath
          (Module.render ops run.config.baseUrl run.seconds).result ops.length).run := by
  have reads := (readsOnly_loadOperations run.policy run.config).run run.before
  unfold operations at loaded
  rw [generate, Attempt.run_bind, Host.run_bind, loaded, ← reads]
  generalize (run.before.run (loadOperations run.policy run.config).run).2 = host
  have rendered := Attempt.readsOnly_ofTraced (render ops run.config.baseUrl run.seconds)
  refine ⟨_, rendered.run host, ?_⟩
  dsimp only
  rw [Attempt.run_bind, Host.run_bind, Attempt.result_ofTraced]
  rfl

theorem updated (run : Run) (loaded : run.operations = .ok ops) :
    Output.Updated run.before.files run.config.outputPath
      (Module.render ops run.config.baseUrl run.seconds).result
      (run.result.map Report.isWritten) run.files := by
  obtain ⟨ready, same, finished⟩ := run.finishes loaded
  rw [result, files, finished, ← same]
  exact (ensures_finish ready.files _ _ _).run ready

private theorem workingDirectory_files (run : Run) :
    run.files.workingDirectory = run.before.files.workingDirectory := by
  cases loaded : run.operations with
  | error error => rw [(run.unloaded loaded).2]
  | ok ops =>
    have updated := run.updated loaded
    cases ended : run.result.map Report.isWritten with
    | error error =>
      rw [ended] at updated
      exact Output.Prepared.workingDirectory updated
    | ok isWritten =>
      rw [ended] at updated
      cases isWritten with
      | true => exact Output.Moved.workingDirectory updated
      | false => rw [updated.1]

/-- No path of an operation that a run declares starts a line that reads as a stamp. -/
def Unbroken (run : Run) : Prop :=
  ∀ ops, run.operations = .ok ops → Module.Unbroken (kept ops)

/-- If a run ends well, it leaves the module of its own operations in its file. -/
def Fresh (run : Run) : Prop :=
  ∀ report, run.result = .ok report → ∃ ops seconds, run.operations = .ok ops ∧
    run.files.read run.config.outputPath = .ok (run.bytesOf ops seconds)

/-- What is held is an unbroken module, if anything is held. -/
def HoldsModule (held : Option ByteArray) : Prop :=
  ∀ bytes, held = some bytes → ∃ ops baseUrl seconds,
    Module.Unbroken (kept ops) ∧ bytes = (Module.render ops baseUrl seconds).result.toUTF8

theorem holds_toUTF8 (text content : String) :
    Output.holds (.ok text.toUTF8) content = sameContent text content := by
  rw [Output.holds, Attempt.fromUTF8?_toUTF8, Option.any_some]

/-- A run over an unbroken module leaves its own module, which is unbroken again. -/
theorem fresh_step (run : Run) (unbroken : run.Unbroken)
    (found : HoldsModule (run.before.files.held run.config.outputPath)) :
    run.Fresh ∧ HoldsModule (run.files.held run.config.outputPath) := by
  cases loaded : run.operations with
  | error error =>
    obtain ⟨failed, same⟩ := run.unloaded loaded
    rw [Fresh, failed, same]
    exact ⟨fun report impossible => (by cases impossible), found⟩
  | ok ops =>
    have whole := unbroken ops loaded
    have updated := run.updated loaded
    cases ended : run.result with
    | error error =>
      rw [ended] at updated
      rw [Fresh, ended, Output.Prepared.held updated]
      exact ⟨fun report impossible => (by cases impossible), found⟩
    | ok report =>
      rw [ended] at updated
      suffices own : ∃ seconds,
          run.files.read run.config.outputPath = .ok (run.bytesOf ops seconds) by
        obtain ⟨seconds, readable⟩ := own
        refine ⟨fun _ _ => ⟨ops, seconds, loaded, readable⟩, ?_⟩
        intro bytes held
        rw [FileSystem.held_of_read readable] at held
        cases held
        exact ⟨ops, _, seconds, whole, rfl⟩
      change Output.Updated _ _ _ (.ok report.isWritten) _ at updated
      cases written : report.isWritten with
      | true =>
        rw [written] at updated
        exact ⟨run.seconds, Output.Moved.readable updated⟩
      | false =>
        rw [written] at updated
        obtain ⟨unchanged, bytes, readable, same⟩ := updated
        obtain ⟨others, otherUrl, seconds, otherWhole, rfl⟩ :=
          found bytes (FileSystem.held_of_read readable)
        rw [holds_toUTF8] at same
        refine ⟨seconds, ?_⟩
        rw [unchanged, readable, bytesOf,
          render_eq_of_sameContent others ops otherUrl run.config.baseUrl _ _ otherWhole whole same]

/-- Runs over one target, each of which finds there at most what the run before left. -/
def Consecutive (target : FilePath) : Option ByteArray → List Run → Prop
  | _, [] => True
  | left, run :: rest =>
    run.config.outputPath = target ∧
      (∀ bytes, run.before.files.held target = some bytes → left = some bytes) ∧
      Consecutive target (run.files.held target) rest

private theorem fresh_of_consecutive (unbroken : ∀ run ∈ runs, Unbroken run)
    (left : HoldsModule held)
    (consecutive : Consecutive target held runs) : ∀ run ∈ runs, run.Fresh := by
  induction runs generalizing held with
  | nil => exact fun _ impossible => by cases impossible
  | cons first rest ih =>
    obtain ⟨rfl, found, others⟩ := consecutive
    have step := first.fresh_step (unbroken first List.mem_cons_self)
      fun bytes held => left bytes (found bytes held)
    intro run listed
    rcases List.mem_cons.mp listed with rfl | later
    · exact step.1
    · exact ih (fun run member => unbroken run (List.mem_cons_of_mem _ member)) step.2 others run
        later

/-- A run whose module reads like the one in its file, stamps apart, leaves that one there. -/
theorem skipped (run : Run) (present : String) (loaded : run.operations = .ok ops)
    (found : run.before.files.read run.config.outputPath = .ok present.toUTF8)
    (same : sameContent present (Module.render ops run.config.baseUrl run.seconds).result = true) :
    run.result = .ok ⟨run.config.outputPath, ops.length, false⟩ ∧
      run.files.read run.config.outputPath = .ok present.toUTF8 := by
  have updated := run.updated loaded
  have reported : run.result = .ok ⟨run.config.outputPath, ops.length, false⟩ := by
    obtain ⟨ready, unchanged, finished⟩ := run.finishes loaded
    rw [result, finished]
    rw [← unchanged] at found
    exact result_finish ready _ _ _ found ((holds_toUTF8 ..).trans same)
  rw [reported] at updated
  obtain ⟨unchanged, -⟩ := updated
  rw [unchanged]
  exact ⟨reported, found⟩

/-- A run over the module of a broken path with a longer line does not notice the change. -/
theorem not_fresh_of_broken (run : Run) (broken : ¬Module.Unbroken (kept ops)) (seconds : Int)
    (loaded : run.operations = .ok (ops.map (Operation.reroute lengthen)))
    (found : run.before.files.read run.config.outputPath = .ok (run.bytesOf ops seconds)) :
    ¬run.Fresh := by
  intro fresh
  have alike := render_lengthen ops run.config.baseUrl broken seconds
  rw [bytesOf] at found
  obtain ⟨reported, left⟩ := run.skipped _ loaded found (alike run.seconds).1
  obtain ⟨own, later, ownLoaded, readable⟩ := fresh _ reported
  rw [loaded] at ownLoaded
  obtain rfl := Except.ok.inj ownLoaded
  rw [left, bytesOf] at readable
  have same := String.toByteArray_inj.mp (Except.ok.inj readable)
  exact (alike later).2 same

/-- Runs that follow each other over one target leave their own modules there, however many of them
write nothing, as long as no path starts a line that reads as a stamp. Every payload with a path
that does so has a payload of other paths whose module is taken for its own. -/
theorem fresh_of_unbroken (target : FilePath) (runs : List Run) :
    (Consecutive target none runs → (∀ run ∈ runs, Unbroken run) → ∀ run ∈ runs, run.Fresh) ∧
    ∀ payload ops, Operation.ofPayload payload = .ok ops → ¬Module.Unbroken (kept ops) →
      Operation.ofPayload (Operation.reroutePayload lengthen payload) =
          .ok (ops.map (Operation.reroute lengthen)) ∧
        ∀ (run : Run) (seconds : Int),
          run.operations = .ok (ops.map (Operation.reroute lengthen)) →
          run.before.files.read run.config.outputPath = .ok (run.bytesOf ops seconds) →
          ¬run.Fresh := by
  constructor
  · intro consecutive unbroken
    have nothing : HoldsModule none := fun _ impossible => by cases impossible
    exact fresh_of_consecutive unbroken nothing consecutive
  · intro payload ops accepted broken
    refine ⟨Operation.ofPayload_reroute lengthen accepted, ?_⟩
    intro run seconds loaded found
    exact run.not_fresh_of_broken broken seconds loaded found

section Stored

/-- A run loads the operations of the text in the file that it is told to read. -/
theorem operations_of_stored (run : Run) (payload : String)
    (named : run.config.introspectionFile = some path)
    (stored : run.before.files.read path = .ok payload.toUTF8) :
    run.operations = Introspection.operationsOfText payload := by
  rw [operations, loadOperations, named]
  dsimp only
  rw [Introspection.loadFile, Attempt.run_bind, Host.run_bind,
    Attempt.result_readText run.before stored]
  dsimp only
  cases Introspection.operationsOfText payload with
  | error error => rfl
  | ok ops => rfl

def overPayload (payload : String) (seconds : Int) (files : FileSystem) : Run where
  policy := .standard
  config := ⟨none, none, ⟨"/"⟩, "client.ts", some ⟨"/payload"⟩, []⟩
  seconds
  before := ⟨files.put ["payload"] (.file payload.toUTF8), fun _ _ _ => .error "", 0, []⟩

/-- No files at all. -/
def noFiles : FileSystem := ⟨[], []⟩

private theorem sameDirectories_noFiles (fs : FileSystem) :
    FileSystem.SameDirectories noFiles fs := by
  intro location entry stands directory
  cases location with
  | nil => exact stands
  | cons name outer => cases stands

private theorem read_of_atRoot (fs : FileSystem) (atRoot : fs.workingDirectory = [])
    (found : noFiles.locateLast p = .ok ([], some name)) (plain : p.endsInSlash = false)
    (stands : fs.at? [name] = some (.file bytes)) : fs.read p = .ok bytes :=
  (sameDirectories_noFiles fs).read atRoot found plain stands

private theorem operations_overPayload (payload : String) (seconds : Int) (files : FileSystem)
    (atRoot : files.workingDirectory = []) :
    (overPayload payload seconds files).operations = Introspection.operationsOfText payload := by
  refine operations_of_stored _ payload rfl ?_
  exact read_of_atRoot _ atRoot rfl (by decide) (FileSystem.at?_put_self ..)

theorem held_overPayload (payload : String) (seconds : Int) (files : FileSystem) :
    (overPayload payload seconds files).before.files.held ⟨"/client.ts"⟩ =
      files.held ⟨"/client.ts"⟩ := by
  have place : ∀ fs : FileSystem, fs.place ⟨"/client.ts"⟩ = ["client.ts"] := fun _ => rfl
  have apart : ["client.ts"] ≠ ["payload"] := by decide
  rw [FileSystem.held, FileSystem.held, place, place, overPayload,
    FileSystem.at?_put_of_ne _ _ apart]

private theorem read_overPayload (payload : String) (seconds : Int) (files : FileSystem)
    (atRoot : files.workingDirectory = []) (held : files.held ⟨"/client.ts"⟩ = some bytes) :
    (overPayload payload seconds files).before.files.read ⟨"/client.ts"⟩ = .ok bytes := by
  rw [← held_overPayload payload seconds] at held
  refine read_of_atRoot _ atRoot rfl (by decide) ?_
  exact FileSystem.at?_of_held held

def plain : Operation := ⟨"a", "/a/:id", .get, .unknown, .unknown⟩

/-- An operation whose path starts a line that reads as a stamp. -/
def stamped : Operation := ⟨"a", "/a\n// Generated at: 1", .get, .unknown, .unknown⟩

def plainPayload : String :=
  "[\x7b\"name\":\"a\",\"path\":\"/a/:id\"," ++
    "\"verb\":\"get\",\"input\":\x7b\x7d,\"output\":\x7b\x7d\x7d]"

/-- The payload of the stamped operation with a longer line. -/
def longerPayload : String :=
  "[\x7b\"name\":\"a\",\"path\":\"/a\\n// Generated at: x1\"," ++
    "\"verb\":\"get\",\"input\":\x7b\x7d,\"output\":\x7b\x7d\x7d]"

/-- A run over the plain operation that finds no file. -/
def first : Run := overPayload plainPayload 0 noFiles

/-- The same run again, later. -/
def second : Run := overPayload plainPayload 1 first.files

/-- A run over a longer path that finds the module of the shorter one. -/
def third : Run :=
  overPayload longerPayload 0
    (noFiles.put ["client.ts"] (.file (Module.render [stamped] none 0).result.toUTF8))

theorem operations_plain : Introspection.operationsOfText plainPayload = .ok [plain] := by cbv

theorem operations_first : first.operations = .ok [plain] :=
  (operations_overPayload plainPayload 0 noFiles rfl).trans operations_plain

private theorem operations_second : second.operations = .ok [plain] :=
  (operations_overPayload plainPayload 1 first.files first.workingDirectory_files).trans
    operations_plain

private theorem operations_third :
    third.operations = .ok ([stamped].map (Operation.reroute lengthen)) :=
  (operations_overPayload longerPayload _ _ rfl).trans (by cbv)

theorem written_first : first.result.map Report.isWritten = .ok true := by decide +kernel

theorem held_first : first.files.held ⟨"/client.ts"⟩ = some (first.bytesOf [plain] 0) := by
  have updated := first.updated operations_first
  rw [written_first] at updated
  exact FileSystem.held_of_read (Output.Moved.readable updated)

private theorem skipped_second : second.result.map Report.isWritten = .ok false := by
  have found := read_overPayload plainPayload 1 first.files first.workingDirectory_files held_first
  rw [(second.skipped _ operations_second found (sameContent_render [plain] none 0 1)).1]
  rfl

private theorem consecutive_first_second : Consecutive ⟨"/client.ts"⟩ none [first, second] := by
  refine ⟨rfl, ?_, rfl, ?_, trivial⟩
  · intro bytes held
    rw [first, held_overPayload] at held
    cases held
  · intro bytes held
    rw [second, held_overPayload] at held
    exact held

/-- A run writes its own module, a later one finds it and leaves it, and a run after a stamped path
leaves the module of another run. -/
theorem fresh_of_unbroken_overPayload :
    (first.result.map Report.isWritten = .ok true ∧ first.Fresh) ∧
      (second.result.map Report.isWritten = .ok false ∧ second.Fresh) ∧ ¬third.Fresh := by
  have unbroken : ∀ run ∈ [first, second], Unbroken run := by
    intro run listed ops loaded
    rw [List.mem_pair] at listed
    rcases listed with rfl | rfl
    · rw [operations_first] at loaded
      cases loaded
      decide
    · rw [operations_second] at loaded
      cases loaded
      decide
  have runs := fresh_of_unbroken ⟨"/client.ts"⟩ [first, second]
  have fresh := runs.1 consecutive_first_second unbroken
  have broken : ¬Module.Unbroken (kept [stamped]) := by decide +kernel
  have held : ∀ bytes, (noFiles.put ["client.ts"] (.file bytes)).held ⟨"/client.ts"⟩ =
      some bytes := fun _ => rfl
  refine ⟨⟨written_first, fresh first (by simp)⟩, ⟨skipped_second, fresh second (by simp)⟩, ?_⟩
  refine (runs.2 (.array [.object [("name", .string "a"),
    ("path", .string "/a\n// Generated at: 1"), ("verb", .string "get"),
    ("input", .object []), ("output", .object [])]]) [stamped] rfl broken).2 third 0
    operations_third ?_
  exact read_overPayload _ _ _ rfl (held _)

end Stored

end Run

end ClientGen
