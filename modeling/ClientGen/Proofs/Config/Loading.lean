import ClientGen.Config.Load
import ClientGen.Generate
import ClientGen.Proofs.Config.Spelling
import ClientGen.Proofs.Plan.Steps

/-!
Configurations from parsing to use. What is parsed names a source of operations and an output file,
loading keeps both, and so the operations of what is loaded are never looked for in vain.
-/
namespace ClientGen
open Files Plan

namespace Attempt

/-- However its requests are answered, an attempt fails only in the given ways. -/
def FailsOnly (ways : Error → Prop) (attempt : Attempt α) : Prop :=
  ∀ files steps error last, Runs attempt.run files steps (.error error) last → ways error

variable {ways : Error → Prop}

theorem failsOnly_bind {first : Attempt α} {next : α → Attempt β} (start : FailsOnly ways first)
    (rest : ∀ result, FailsOnly ways (next result)) : FailsOnly ways (first >>= next) := by
  intro files steps error last failed
  rcases runs_bind_error failed with failed | ⟨_, result, _, _, -, -, failed⟩
  · exact start _ _ _ _ failed
  · exact rest result _ _ _ _ failed

private theorem failsOnly_pure (a : α) : FailsOnly ways (pure a) := by
  intro files steps error last failed
  cases failed

private theorem failsOnly_throw {error : Error} (allowed : ways error) :
    FailsOnly ways (throw error : Attempt α) := by
  intro files steps other last failed
  cases failed
  exact allowed

private theorem failsOnly_request (r : Request) : FailsOnly ways (request r) := by
  intro files steps error last failed
  cases failed with
  | ask allowed done => cases done

private theorem failsOnly_ofExcept {fault : ε → Error} {given : Except ε α}
    (allowed : ∀ e, given = .error e → ways (fault e)) :
    FailsOnly ways (ofExcept fault given) := by
  cases given with
  | ok a => exact failsOnly_pure a
  | error e => exact failsOnly_throw (allowed e rfl)

private theorem failsOnly_readText (path : FilePath) (allowed : ∀ fault, ways (.read path fault)) :
    FailsOnly ways (readText path) := by
  refine failsOnly_bind (failsOnly_request _) fun answer => ?_
  refine failsOnly_bind (failsOnly_ofExcept fun fault _ => allowed fault) fun bytes => ?_
  cases String.fromUTF8? bytes with
  | some text => exact failsOnly_pure text
  | none => exact failsOnly_throw (allowed .notText)

end Attempt

/-- A failure of a configuration. -/
def Error.IsConfig (error : Error) : Prop := ∃ file fault, error = .config file fault

namespace Introspection
open Attempt

private theorem failsOnly_askFrom {ways : Error → Prop} (policy : RetryPolicy)
    (headers : List (String × String)) (url : String)
    (allowed : ∀ attempt message, ways (.transport url attempt message)) (attempt left : Nat) :
    FailsOnly ways (askFrom policy headers url attempt left) := by
  induction left generalizing attempt with
  | zero =>
    refine failsOnly_bind (failsOnly_request _) fun answer => ?_
    cases answer with
    | ok body => exact failsOnly_pure body
    | error message => exact failsOnly_throw (allowed attempt message)
  | succ left ih =>
    refine failsOnly_bind (failsOnly_request _) fun answer => ?_
    cases answer with
    | ok body => exact failsOnly_pure body
    | error message =>
      refine failsOnly_bind (failsOnly_request _) fun _ => ?_
      exact failsOnly_bind (failsOnly_request _) fun _ => ih (attempt + 1)

theorem operationsOfText_ne (text : String) (file : Option FilePath) (fault : Config.Fault) :
    operationsOfText text ≠ .error (.config file fault) := by
  unfold operationsOfText
  cases Json.parse text with
  | error own => exact nofun
  | ok payload =>
    change (Operation.ofPayload payload).mapError Error.payload ≠ _
    cases Operation.ofPayload payload with
    | error own => exact nofun
    | ok operations => exact nofun

private theorem failsOnly_ofText (text : String) :
    FailsOnly (¬·.IsConfig) (ofExcept id (operationsOfText text)) := by
  refine failsOnly_ofExcept fun error failed => ?_
  rintro ⟨file, fault, rfl⟩
  exact operationsOfText_ne text file fault failed

theorem failsOnly_fetch (policy : RetryPolicy) (headers : List (String × String)) (url : String) :
    FailsOnly (¬·.IsConfig) (fetch policy headers url) := by
  have other (attempt : Nat) (message : String) :
      ¬(Error.transport url attempt message).IsConfig := nofun
  refine failsOnly_bind (failsOnly_askFrom policy headers url other 1 _) fun text => ?_
  refine failsOnly_bind (failsOnly_ofText text) fun operations => ?_
  exact failsOnly_bind (failsOnly_request _) fun _ => failsOnly_pure operations

private theorem failsOnly_loadFile (path : FilePath) : FailsOnly (¬·.IsConfig) (loadFile path) := by
  have other (fault : Files.Fault) : ¬(Error.read path fault).IsConfig := nofun
  exact failsOnly_bind (failsOnly_readText path other) failsOnly_ofText

end Introspection

namespace Config
open Json Attempt

section Usable

/-- A configuration that names a source of operations, and an output file that is not blank. -/
structure Usable (config : Config) : Prop where
  source : config.introspectionUrl.isSome = true ∨ config.introspectionFile.isSome = true
  output : ∃ c ∈ config.outputFile.toList, Text.isBlank c = false

private theorem check_eq_ok {config checked : Config} :
    config.check = .ok checked ↔ config = checked ∧ config.Usable := by
  unfold check
  split
  next missing =>
    refine ⟨nofun, fun ⟨_, usable⟩ => ?_⟩
    rcases usable.source with given | given
    · rw [Option.isNone_iff_eq_none.mp missing.1] at given
      cases given
    · rw [Option.isNone_iff_eq_none.mp missing.2] at given
      cases given
  next sourced =>
    have source :
        config.introspectionUrl.isSome = true ∨ config.introspectionFile.isSome = true := by
      rw [Classical.not_and_iff_not_or_not] at sourced
      simpa [Option.isSome_iff_ne_none] using sourced
    split
    next blank =>
      refine ⟨nofun, fun ⟨_, usable⟩ => ?_⟩
      obtain ⟨c, listed, solid⟩ := usable.output
      rw [List.all_eq_true.mp blank c listed] at solid
      cases solid
    next filled =>
      have output : ∃ c ∈ config.outputFile.toList, Text.isBlank c = false := by
        simpa [Text.isBlankText] using filled
      rw [Except.ok.injEq]
      exact ⟨fun same => ⟨same, source, output⟩, And.left⟩

/-- What is parsed is what the text gives, if that is usable. -/
theorem parse_eq_ok {format : Format} {text : String} {config : Config} :
    parse format text = .ok config ↔ (match format with
      | .json => ofJsonText text
      | .toml => ofTomlText text) = .ok config ∧ config.Usable := by
  have checked (given : Except Config.Fault Config) :
      given >>= check = .ok config ↔ given = .ok config ∧ config.Usable := by
    cases given with
    | error fault => exact ⟨nofun, nofun⟩
    | ok own =>
      rw [Except.ok.injEq]
      refine check_eq_ok.trans (and_congr_right fun same => ?_)
      rw [same]
  cases format <;> exact checked _

/-- Paths that start elsewhere name as much as before. -/
theorem Usable.startingFrom {config : Config} (usable : config.Usable) (base : FilePath) :
    (config.startingFrom base).Usable where
  source := usable.source.imp id fun file => by simpa [Config.startingFrom] using file
  output := usable.output

/-- What is loaded is what a text gives, with its paths starting from the directory of the file. -/
theorem runs_load_ok {path : FilePath}
    (loaded : Runs (load path).run files steps (.ok config) last) :
    ∃ text parsed, parse (.ofPath path) text = .ok parsed ∧
      config = path.parent?.elim parsed (startingFrom · parsed) := by
  obtain ⟨_, text, _, _, -, -, going⟩ := runs_bind_ok loaded
  obtain ⟨_, parsed, _, _, -, parses, going⟩ := runs_bind_ok going
  obtain ⟨_, _, _, _, -, -, ending⟩ := runs_bind_ok going
  refine ⟨text, parsed, ?_, ?_⟩
  · cases given : parse (.ofPath path) text with
    | error fault =>
      rw [given] at parses
      cases parses
    | ok own =>
      rw [given] at parses
      cases parses
      rfl
  · split at ending
    next base found =>
      cases ending
      rw [found]
      rfl
    next none =>
      cases ending
      rw [none]
      rfl

private theorem usable_of_load {path : FilePath}
    (loaded : Runs (load path).run files steps (.ok config) last) : config.Usable := by
  obtain ⟨text, parsed, given, rfl⟩ := runs_load_ok loaded
  have usable : parsed.Usable := (parse_eq_ok.mp given).2
  cases path.parent? with
  | none => exact usable
  | some base => exact usable.startingFrom base

private theorem failsOnly_loadOperations {config : Config} (usable : config.Usable)
    (policy : Introspection.RetryPolicy) :
    FailsOnly (¬·.IsConfig) (loadOperations policy config) := by
  unfold loadOperations
  split
  next path _ => exact Introspection.failsOnly_loadFile path
  next url _ _ => exact Introspection.failsOnly_fetch policy config.headers url
  next file url =>
    rcases usable.source with given | given
    · rw [url] at given
      cases given
    · rw [file] at given
      cases given

end Usable

/-- Two documents give the same configuration, or neither gives one, if they differ in the order of
their members, in the spelling of the names of fields and in members that name no field. Whatever
the format, a configuration that is parsed names a source of operations and an output file that is
not blank. So does every one that is loaded, and its operations are never refused for a fault of the
configuration. -/
theorem documents_parse_alike_and_stay_usable (first second : Document)
    (edited : Relation.EqvGen Edit first.members second.members) :
    (∀ config, parse .json first.text = .ok config ↔ parse .json second.text = .ok config) ∧
      (∀ format text config, parse format text = .ok config → config.Usable) ∧
      ∀ path files steps config loaded,
        Runs (load path).run files steps (.ok config) loaded → config.Usable ∧
          ∀ policy before taken error after,
            Runs (loadOperations policy config).run before taken (.error error) after →
              ∀ file fault, error ≠ .config file fault := by
  refine ⟨fun config => ?_, fun format text config parsed => (parse_eq_ok.mp parsed).2, ?_⟩
  · rw [parse_eq_ok, parse_eq_ok]
    exact and_congr_left' (ofJsonText_edits edited config)
  · intro path files steps config loaded ran
    have usable := usable_of_load ran
    refine ⟨usable, fun policy before taken error after failed file fault same => ?_⟩
    exact failsOnly_loadOperations usable policy _ _ _ _ failed ⟨file, fault, same⟩

section Shuffled

/-- The pieces of a text, written as they are, without the characters that cannot be. -/
def verbatim (text : String) : List Piece :=
  text.toList.filterMap fun c =>
    if isPlain : c ≠ '"' ∧ c ≠ '\\' ∧ 0x20 ≤ c.toNat then some (.plain c isPlain) else none

/-- A member without blanks. -/
def member (name : String) (value : List Char) : Member :=
  ⟨.none, verbatim name, .none, .none, value, .none⟩

def setting (name value : String) : Member := member name (quoted (verbatim value))

private theorem valueText_setting (name value : String) : ValueText (setting name value).value :=
  .scalar (.string _)

/-- Headers, the first of them not the first by name. -/
def twoHeaders : Member :=
  member "headers" (enclosed .object .none ([setting "B" "2", setting "A" "1"].map Member.padded))

private theorem valueText_twoHeaders : ValueText twoHeaders.value := by
  refine .object .none _ ?_
  exact List.forall_mem_cons.mpr ⟨valueText_setting _ _,
    List.forall_mem_singleton.mpr (valueText_setting _ _)⟩

/-- A member that names no field, with a number beyond all doubles in a list. -/
def note : Member :=
  member "note" (enclosed .list .none [⟨.none, ['1', 'e', '9', '9', '9'], .none⟩])

private theorem valueText_note : ValueText note.value := by
  refine .list .none _ fun item among => ?_
  obtain rfl := List.mem_singleton.mp among
  have digits : IsDigits ['9', '9', '9'] := by
    refine ⟨List.cons_ne_nil _ _, fun c listed => ?_⟩
    obtain rfl : c = '9' := by simpa using listed
    rfl
  have whole : WholeText ['1'] := .digits ⟨rfl, by decide⟩ (List.forall_mem_nil _)
  have exponent : ExponentText ['e', '9', '9', '9'] := .digits (.inl rfl) (.inl rfl) digits
  exact .scalar (.unsigned (.parts whole .absent exponent))

/-- Names in camel case. -/
def plainDocument : Document where
  lead := .none
  inside := .none
  members := [setting Field.outputDir.name "out", setting Field.outputFile.name "client.ts",
    setting Field.introspectionUrl.name "http://api", twoHeaders]
  trail := .none
  valid := List.forall_mem_cons.mpr ⟨valueText_setting _ _,
    List.forall_mem_cons.mpr ⟨valueText_setting _ _,
    List.forall_mem_cons.mpr ⟨valueText_setting _ _,
    List.forall_mem_singleton.mpr valueText_twoHeaders⟩⟩⟩

/-- The same settings in other words. -/
def shuffledDocument : Document where
  lead := .none
  inside := .none
  members := [note, twoHeaders, setting Field.introspectionUrl.snakeName "http://api",
    setting Field.outputFile.snakeName "client.ts", setting Field.outputDir.snakeName "out"]
  trail := .none
  valid := List.forall_mem_cons.mpr ⟨valueText_note,
    List.forall_mem_cons.mpr ⟨valueText_twoHeaders,
    List.forall_mem_cons.mpr ⟨valueText_setting _ _,
    List.forall_mem_cons.mpr ⟨valueText_setting _ _,
    List.forall_mem_singleton.mpr (valueText_setting _ _)⟩⟩⟩⟩

theorem gives_name (field : Field) (value : String) : Gives (setting field.name value) field := by
  refine ⟨field.name, ?_, .inl rfl⟩
  change (meaning (verbatim field.name)).map String.ofList = some field.name
  cases field <;> decide

private theorem gives_snakeName (field : Field) (value : String) :
    Gives (setting field.snakeName value) field := by
  refine ⟨field.snakeName, ?_, .inr rfl⟩
  change (meaning (verbatim field.snakeName)).map String.ofList = some field.snakeName
  cases field <;> decide

private theorem givesNothing_note : GivesNothing note := by
  refine ⟨"note", by decide, fun field => ?_⟩
  cases field <;> decide

/-- Three members respelled, the order turned round and a note put in front. -/
theorem edits_respelled {a b c a' b' c' : Member}
    (one : ∀ front back, Edit (front ++ a :: back) (front ++ a' :: back))
    (two : ∀ front back, Edit (front ++ b :: back) (front ++ b' :: back))
    (three : ∀ front back, Edit (front ++ c :: back) (front ++ c' :: back)) (d : Member) :
    Relation.EqvGen Edit [a, b, c, d] [note, d, c', b', a'] := by
  have first : Edit [a, b, c, d] [a', b, c, d] := one [] [b, c, d]
  have second : Edit [a', b, c, d] [a', b', c, d] := two [a'] [c, d]
  have third : Edit [a', b', c, d] [a', b', c', d] := three [a', b'] [d]
  have reversed : Edit [a', b', c', d] [d, c', b', a'] :=
    .reorder (List.reverse_perm [d, c', b', a'])
  have noted : Edit [d, c', b', a'] [note, d, c', b', a'] := .extra [] _ givesNothing_note
  exact .trans _ _ _ (.rel _ _ first) <| .trans _ _ _ (.rel _ _ second) <|
    .trans _ _ _ (.rel _ _ third) <| .trans _ _ _ (.rel _ _ reversed) (.rel _ _ noted)

private theorem edits_plainDocument :
    Relation.EqvGen Edit plainDocument.members shuffledDocument.members := by
  have respelled (field : Field) (value : String) (front back : List Member) :
      Edit (front ++ setting field.name value :: back)
        (front ++ setting field.snakeName value :: back) :=
    .respell front back (gives_name field value) (gives_snakeName field value) rfl
  exact edits_respelled (respelled .outputDir "out") (respelled .outputFile "client.ts")
    (respelled .introspectionUrl "http://api") twoHeaders

/-- What both documents give. -/
def settings : Config where
  introspectionUrl := some "http://api"
  baseUrl := none
  outputDir := ⟨"out"⟩
  outputFile := "client.ts"
  introspectionFile := none
  headers := [("B", "2"), ("A", "1")]

/-- A machine that stores the second document and knows no service. -/
def machine : Host where
  files := ⟨[(["routegen.config.json", "project"], .file shuffledDocument.text.toUTF8),
    (["project"], .directory)], []⟩
  network _ _ _ := .error "refused"
  sent := 0
  diagnostics := []

/-- A document in camel case has the settings of one in snake case that is turned round and holds a
note. Both are usable, and so is what a file with the second one gives; asking for its operations
fails, but not by a fault of the configuration. -/
theorem documents_parse_alike_and_stay_usable_shuffled :
    parse .json shuffledDocument.text = .ok settings ∧ settings.Usable ∧
      (machine.run (load ⟨"/project/routegen.config.json"⟩).run).1 =
        .ok (settings.startingFrom ⟨"/project"⟩) ∧
      (settings.startingFrom ⟨"/project"⟩).Usable ∧
      ∀ file fault, (machine.run (loadOperations .standard
        (settings.startingFrom ⟨"/project"⟩)).run).1 ≠ .error (.config file fault) := by
  have plain : parse .json plainDocument.text = .ok settings :=
    toOption_eq_some.mp (by decide +kernel)
  have loads : (machine.run (load ⟨"/project/routegen.config.json"⟩).run).1 =
      .ok (settings.startingFrom ⟨"/project"⟩) := toOption_eq_some.mp (by decide +kernel)
  obtain ⟨alike, usable, loaded⟩ :=
    documents_parse_alike_and_stay_usable plainDocument shuffledDocument edits_plainDocument
  have ran := machine.runs_steps (load ⟨"/project/routegen.config.json"⟩).run
  rw [loads] at ran
  obtain ⟨stays, never⟩ := loaded _ _ _ _ _ ran
  refine ⟨(alike settings).mp plain, usable _ _ _ plain, loads, stays, fun file fault failed => ?_⟩
  have failing := machine.runs_steps
    (loadOperations .standard (settings.startingFrom ⟨"/project"⟩)).run
  rw [failed] at failing
  exact never _ _ _ _ _ failing file fault rfl

end Shuffled

end Config

end ClientGen
