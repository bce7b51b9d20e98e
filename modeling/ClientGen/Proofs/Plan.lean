import ClientGen.Attempt
import ClientGen.Host

/-!
What a plan ensures, however its requests are answered. A change of files happens as the file system
describes it, or fails for any reason and changes nothing; what reading gives is what is there. The
model of the surroundings is one way of answering, so it keeps every promise of a plan.
-/
namespace ClientGen
open Files

/-- A change happens as described, or fails and changes nothing. -/
def Changes (files : FileSystem) (described : Except Fault FileSystem) (after : FileSystem) :
    Except Fault Unit → Prop
  | .ok () => described = .ok after
  | .error _ => after = files

/-- What a change that happens leads to, and files that stay as they are lead to as well, is what
the change leads to in any case. -/
theorem Changes.elim (outcome : Except Fault Unit → FileSystem → Prop)
    (changed : Changes files described after answer)
    (happened : described = .ok after → outcome (.ok ()) after)
    (failed : ∀ fault, outcome (.error fault) files) : outcome answer after := by
  cases answer with
  | ok => exact happened changed
  | error fault =>
    obtain rfl : after = files := changed
    exact failed fault

/-- How a request may be answered over files, and what the files are afterwards. -/
def Request.Allows (files after : FileSystem) : (r : Request) → r.Answer → Prop
  | .readFile path, answer =>
    after = files ∧ ∀ bytes, answer = .ok bytes → files.read path = .ok bytes
  | .isDirectory path, answer => after = files ∧ (answer = true → files.isDirectory path = true)
  | .isFile path, answer => after = files ∧ (answer = true → files.isFile path = true)
  | .makeDirectory path, answer => Changes files (files.makeDirectory path) after answer
  | .createFile path, answer => Changes files (files.createFile path) after answer
  | .appendFile path bytes, answer => Changes files (files.appendFile path bytes) after answer
  | .syncFile path, answer => Changes files (files.syncFile path) after answer
  | .rename source target, answer => Changes files (files.rename source target) after answer
  | .remove path, answer => Changes files (files.remove path) after answer
  | .send .., _ => after = files
  | .wait _, _ => after = files
  | .report _, _ => after = files

/-- The model of the surroundings answers as allowed. -/
theorem Host.allows_answer (r : Request) (host : Host) :
    r.Allows host.files (host.answer r).2.files (host.answer r).1 := by
  have changes : ∀ described, Changes host.files described (host.change described).2.files
      (host.change described).1 := by
    intro described
    cases described with
    | error fault => rfl
    | ok files => rfl
  cases r with
  | readFile path => exact ⟨rfl, fun _ found => found⟩
  | isDirectory path => exact ⟨rfl, id⟩
  | isFile path => exact ⟨rfl, id⟩
  | makeDirectory path => exact changes _
  | createFile path => exact changes _
  | appendFile path bytes => exact changes _
  | syncFile path => exact changes _
  | rename source target => exact changes _
  | remove path => exact changes _
  | send url headers => rfl
  | wait seconds => rfl
  | report diagnostic => rfl

theorem Host.run_bind (host : Host) (first : Plan α) (next : α → Plan β) :
    host.run (first >>= next) = (host.run first).2.run (next (host.run first).1) :=
  Plan.run_bind Host.answer first next host

namespace Plan

/-- Every state of the files on the way of a plan is as `always` says, and the result and the last
state are as `atEnd` says. -/
inductive Ensures (always : FileSystem → Prop) (atEnd : α → FileSystem → Prop) :
    Plan α → FileSystem → Prop
  | done (reached : atEnd result files) : Ensures always atEnd (.done result) files
  | ask {r : Request} {next : r.Answer → Plan α}
      (step : ∀ answer after, r.Allows files after answer → always after)
      (rest : ∀ answer after, r.Allows files after answer →
        Ensures always atEnd (next answer) after) :
      Ensures always atEnd (.ask r next) files

variable {always : FileSystem → Prop} {files : FileSystem}

theorem ensures_request {r : Request} {atEnd : r.Answer → FileSystem → Prop}
    (step : ∀ answer after, r.Allows files after answer → always after)
    (reached : ∀ answer after, r.Allows files after answer → atEnd answer after) :
    Ensures always atEnd (request r) files :=
  .ask step fun answer after allowed => .done (reached answer after allowed)

/-- A plan that goes on from another one starts from what that one ensures. -/
theorem ensures_bind {middle : α → FileSystem → Prop} {atEnd : β → FileSystem → Prop}
    {first : Plan α} {next : α → Plan β} (start : Ensures always middle first files)
    (rest : ∀ result after, middle result after → Ensures always atEnd (next result) after) :
    Ensures always atEnd (first >>= next) files := by
  induction start with
  | done reached => exact rest _ _ reached
  | ask step ahead ih => exact .ask step ih

theorem ensures_mono {strong : FileSystem → Prop} {before atEnd : α → FileSystem → Prop}
    {plan : Plan α} (ensured : Ensures strong before plan files)
    (steps : ∀ state, strong state → always state)
    (final : ∀ result state, before result state → atEnd result state) :
    Ensures always atEnd plan files := by
  induction ensured with
  | done reached => exact .done (final _ _ reached)
  | ask step rest ih =>
    exact .ask (fun answer after allowed => steps after (step answer after allowed)) ih

/-- A run against the model of the surroundings ends as ensured. -/
theorem Ensures.run {atEnd : α → FileSystem → Prop} {plan : Plan α} (host : Host)
    (ensured : Ensures always atEnd plan host.files) :
    atEnd (host.run plan).1 (host.run plan).2.files := by
  induction plan generalizing host with
  | done result =>
    cases ensured with
    | done reached => exact reached
  | ask r next ih =>
    cases ensured with
    | ask step rest => exact ih _ _ (rest _ _ (host.allows_answer r))

/-- A plan that changes no files, whatever it is answered. -/
def ReadsOnly (plan : Plan α) : Prop :=
  ∀ files, Ensures (· = files) (fun _ after => after = files) plan files

theorem readsOnly_bind {first : Plan α} {next : α → Plan β} (start : ReadsOnly first)
    (rest : ∀ result, ReadsOnly (next result)) : ReadsOnly (first >>= next) := by
  intro files
  refine ensures_bind (start files) ?_
  rintro result after rfl
  exact rest result after

theorem ReadsOnly.run {plan : Plan α} (reads : ReadsOnly plan) (host : Host) :
    (host.run plan).2.files = host.files :=
  (reads host.files).run host

end Plan

namespace Attempt
open Plan

theorem run_bind (first : Attempt α) (next : α → Attempt β) :
    (first >>= next).run = first.run >>= fun outcome =>
      match outcome with
      | .ok result => (next result).run
      | .error error => pure (.error error) := by
  rw [ExceptT.run_bind]
  congr 1
  funext outcome
  cases outcome with
  | ok result => rfl
  | error error => rfl

theorem readsOnly_bind {first : Attempt α} {next : α → Attempt β} (start : ReadsOnly first.run)
    (rest : ∀ result, ReadsOnly (next result).run) : ReadsOnly (first >>= next).run := by
  rw [run_bind]
  refine Plan.readsOnly_bind start ?_
  intro outcome
  cases outcome with
  | ok result => exact rest result
  | error error => exact fun _ => .done rfl

theorem readsOnly_ofExcept (fault : ε → Error) (given : Except ε α) :
    ReadsOnly (ofExcept fault given).run := by
  cases given with
  | ok a => exact fun _ => .done rfl
  | error e => exact fun _ => .done rfl

theorem readsOnly_report (d : Diagnostic) : ReadsOnly (report d).run :=
  fun _ => .ask (fun _ _ same => same) fun _ _ same => .done same

theorem readsOnly_readText (path : FilePath) : ReadsOnly (readText path).run := by
  have asked : ReadsOnly (request (.readFile path)).run :=
    fun _ => .ask (fun _ _ allowed => allowed.1) fun _ _ allowed => .done allowed.1
  refine readsOnly_bind asked fun answer => readsOnly_bind (readsOnly_ofExcept _ answer) ?_
  intro bytes
  cases String.fromUTF8? bytes with
  | some text => exact fun _ => .done rfl
  | none => exact fun _ => .done rfl

theorem fromUTF8?_toUTF8 (text : String) : String.fromUTF8? text.toUTF8 = some text :=
  dif_pos text.isValidUTF8

/-- Reading a file that holds a text gives this text. -/
theorem result_readText (host : Host) {text : String}
    (found : host.files.read path = .ok text.toUTF8) :
    (host.run (readText path).run).1 = .ok text := by
  have asked : (host.run (request (.readFile path)).run).1 = .ok (.ok text.toUTF8) :=
    congrArg Except.ok found
  have given : ∀ host : Host, (host.run (ofExcept (.read path)
      (.ok text.toUTF8 : Except Fault ByteArray)).run).1 = .ok text.toUTF8 := fun _ => rfl
  rw [readText, run_bind, Host.run_bind, asked]
  dsimp only
  rw [run_bind, Host.run_bind, given]
  dsimp only
  rw [fromUTF8?_toUTF8]
  rfl

private theorem readsOnly_reportAll (diagnostics : List Diagnostic) :
    ReadsOnly (reportAll diagnostics).run := by
  induction diagnostics with
  | nil => exact fun _ => .done rfl
  | cons first rest ih => exact readsOnly_bind (readsOnly_report first) fun _ => ih

theorem readsOnly_ofTraced (traced : Traced α) : ReadsOnly (ofTraced traced).run :=
  readsOnly_bind (readsOnly_reportAll traced.diagnostics) fun _ _ => .done rfl

/-- Reporting never fails. -/
theorem result_reportAll (host : Host) (diagnostics : List Diagnostic) :
    (host.run (reportAll diagnostics).run).1 = .ok () := by
  induction diagnostics generalizing host with
  | nil => rfl
  | cons first rest ih => exact ih _

/-- Going on with a traced result never fails. -/
theorem result_ofTraced (host : Host) (traced : Traced α) :
    (host.run (ofTraced traced).run).1 = .ok traced.result := by
  rw [ofTraced, run_bind, Host.run_bind, result_reportAll]
  rfl

end Attempt

end ClientGen
