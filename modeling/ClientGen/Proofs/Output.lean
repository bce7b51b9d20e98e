import ClientGen.Proofs.Files.Reading
import ClientGen.Proofs.Files.Staging
import ClientGen.Proofs.Plan

/-!
Replacing a target, whatever goes wrong on the way. Until the staged file is moved, nothing changes
but the staging place and directories made where nothing stood; the move fills the target with the
whole content. So the target holds what it held before or all of the content, at every step.
-/
namespace ClientGen.Output
open Files Plan

/-- The places of the directories that a target is put in. -/
def outerPlaces (files : FileSystem) (target : FilePath) : List Location :=
  (directory target).ancestors.map files.place

/-- What stands at a location is what stood there before, or a directory above a target that was
missing. -/
def Kept (before : FileSystem) (target : FilePath) (now : FileSystem) (location : Location) :
    Prop :=
  now.at? location = before.at? location ∨
    (location ∈ outerPlaces before target ∧ before.at? location = none ∧
      now.at? location = some .directory)

/-- Files in which nothing has changed but for directories made above a target. -/
structure Opened (before : FileSystem) (target : FilePath) (now : FileSystem) : Prop where
  workingDirectory : now.workingDirectory = before.workingDirectory
  everywhere : ∀ location, Kept before target now location

/-- Files in which nothing but the staging place of a target has changed. -/
structure Prepared (before : FileSystem) (target : FilePath) (now : FileSystem) : Prop where
  workingDirectory : now.workingDirectory = before.workingDirectory
  elsewhere : ∀ location, location ≠ before.place (staging target) →
    Kept before target now location

/-- Files in which a target has been filled with content. -/
structure Moved (before : FileSystem) (target : FilePath) (content : ByteArray)
    (now : FileSystem) : Prop where
  workingDirectory : now.workingDirectory = before.workingDirectory
  readable : now.read target = .ok content
  elsewhere : ∀ location, location ≠ before.place (staging target) →
    location ≠ before.place target → Kept before target now location

variable {before now after : FileSystem} {target : FilePath}

theorem place_eq (same : now.workingDirectory = before.workingDirectory) (p : FilePath) :
    now.place p = before.place p := by
  rw [FileSystem.place, FileSystem.place, FileSystem.start, FileSystem.start, same]

theorem Opened.refl (before : FileSystem) (target : FilePath) : Opened before target before :=
  ⟨rfl, fun _ => .inl rfl⟩

theorem Opened.prepared (opened : Opened before target now) : Prepared before target now :=
  ⟨opened.workingDirectory, fun location _ => opened.everywhere location⟩

theorem Prepared.refl (before : FileSystem) (target : FilePath) : Prepared before target before :=
  (Opened.refl before target).prepared

/-- In prepared files every path holds what it held before, if it leads elsewhere than the staging
place. -/
theorem Prepared.held_of_ne (prepared : Prepared before target now)
    (apart : before.place p ≠ before.place (staging target)) : now.held p = before.held p := by
  rw [FileSystem.held, FileSystem.held, place_eq prepared.workingDirectory]
  rcases prepared.elsewhere _ apart with same | ⟨-, absent, made⟩
  · rw [same]
  · rw [absent, made]

/-- A prepared target holds what it held before. -/
theorem Prepared.held (prepared : Prepared before target now) :
    now.held target = before.held target :=
  prepared.held_of_ne (FileSystem.place_staging_ne before target).symm

/-- A change at the staging place alone leaves files prepared. -/
theorem Prepared.change (prepared : Prepared before target now)
    (directory : after.workingDirectory = now.workingDirectory)
    (others : ∀ location, location ≠ now.place (staging target) →
      after.at? location = now.at? location) : Prepared before target after := by
  refine ⟨directory.trans prepared.workingDirectory, ?_⟩
  intro location apart
  rw [← place_eq prepared.workingDirectory] at apart
  rw [Kept, others location apart]
  rw [place_eq prepared.workingDirectory] at apart
  exact prepared.elsewhere location apart

section Directories

theorem Opened.makeDirectory (opened : Opened before target now)
    (listed : p ∈ (directory target).ancestors) (made : now.makeDirectory p = .ok after) :
    Opened before target after := by
  obtain ⟨name, outer, place, absent, rfl⟩ := FileSystem.place_of_makeDirectory made
  refine ⟨opened.workingDirectory, ?_⟩
  intro location
  by_cases same : location = name :: outer
  · subst same
    rcases opened.everywhere (name :: outer) with unchanged | ⟨-, -, stood⟩
    · refine .inr ⟨?_, unchanged ▸ absent, FileSystem.at?_put_self ..⟩
      rw [← place, place_eq opened.workingDirectory]
      exact List.mem_map_of_mem listed
    · rw [absent] at stood
      cases stood
  · rw [Kept, FileSystem.at?_put_of_ne _ _ same]
    exact opened.everywhere location

private theorem ensures_makeDirectory (opened : Opened before target now)
    (listed : p ∈ (directory target).ancestors) :
    Ensures (Opened before target) (fun _ => Opened before target)
      (request (.makeDirectory p)) now := by
  have step : ∀ answer after, (Request.makeDirectory p).Allows now after answer →
      Opened before target after := by
    intro answer after changed
    exact changed.elim (fun _ => Opened before target)
      (fun made => opened.makeDirectory listed made) fun _ => opened
  exact ensures_request step step

private theorem ensures_acceptExisting (opened : Opened before target now) (p : FilePath)
    (outcome : Except Fault Unit) :
    Ensures (Opened before target) (fun _ => Opened before target)
      (makeDirectories.acceptExisting p outcome) now := by
  cases outcome with
  | ok => exact .done opened
  | error fault =>
    have step : ∀ answer after, (Request.isDirectory p).Allows now after answer →
        Opened before target after := by
      rintro answer after ⟨rfl, -⟩
      exact opened
    refine ensures_bind (ensures_request step step) ?_
    intro stands after opened
    cases stands with
    | false => exact .done opened
    | true => exact .done opened

theorem ensures_makeDirectories (paths : List FilePath)
    (listed : ∀ p ∈ paths, p ∈ (directory target).ancestors)
    (opened : Opened before target now) :
    Ensures (Opened before target) (fun _ => Opened before target)
      (makeDirectories paths) now := by
  induction paths generalizing now with
  | nil => exact .done opened
  | cons p outer ih =>
    have first := listed p List.mem_cons_self
    rw [makeDirectories]
    split
    · exact .done opened
    · refine ensures_bind (ensures_makeDirectory opened first) ?_
      intro answer after opened
      split
      · exact .done opened
      · refine ensures_bind (ih (fun q member => listed q (List.mem_cons_of_mem _ member))
          opened) ?_
        intro outcome state opened
        cases outcome with
        | error fault => exact .done opened
        | ok =>
          refine ensures_bind (ensures_makeDirectory opened first) ?_
          intro again last opened
          exact ensures_acceptExisting opened p again
      · exact ensures_acceptExisting opened p _

end Directories

section Staging

/-- Files prepared for a target, with content staged for it. -/
structure Staged (before : FileSystem) (target : FilePath) (content : ByteArray)
    (now : FileSystem) : Prop extends Prepared before target now where
  filled : now.at? (now.place (staging target)) = some (.file content)

theorem Prepared.createFile (prepared : Prepared before target now)
    (made : now.createFile (staging target) = .ok after) : Staged before target .empty after := by
  obtain ⟨name, outer, place, rfl⟩ := FileSystem.place_of_createFile made
  refine ⟨prepared.change rfl ?_, ?_⟩
  · rw [place]
    exact fun location apart => FileSystem.at?_put_of_ne _ _ apart
  · rw [FileSystem.place_put, place, FileSystem.at?_put_self]

theorem Staged.appendFile (staged : Staged before target content now)
    (written : now.appendFile (staging target) bytes = .ok after) :
    Staged before target (content ++ bytes) after := by
  obtain ⟨name, outer, held, place, file, rfl⟩ := FileSystem.place_of_appendFile written
  have content_eq := staged.filled
  rw [place, file] at content_eq
  cases content_eq
  refine ⟨staged.toPrepared.change rfl ?_, ?_⟩
  · rw [place]
    exact fun location apart => FileSystem.at?_put_of_ne _ _ apart
  · rw [FileSystem.place_put, place, FileSystem.at?_put_self]

/-- Moving the staged file fills the target, which is at another place. -/
theorem Staged.rename (staged : Staged before target content now)
    (moved : now.rename (staging target) target = .ok after) :
    Moved before target content after := by
  have apart := FileSystem.place_staging_ne now target
  have readable := FileSystem.read_of_rename moved apart staged.filled
  obtain ⟨name, outer, targetName, targetOuter, bytes, source, aim, -, -, -, moved⟩ :=
    FileSystem.rename_eq_ok moved
  have source := FileSystem.place_of_locateLast source
  have aim := FileSystem.place_of_locateLast aim
  rw [source, aim] at apart
  rcases moved with ⟨same, -⟩ | ⟨-, rfl⟩
  · exact absurd same.symm apart
  · have places := place_eq staged.workingDirectory
    refine ⟨staged.workingDirectory, readable, ?_⟩
    intro location notStaging notTarget
    have kept := staged.elsewhere location notStaging
    rw [← places, source] at notStaging
    rw [← places, aim] at notTarget
    rw [Kept, FileSystem.at?_put_of_ne _ _ notTarget, FileSystem.at?_clear_of_ne _ notStaging]
    exact kept

theorem Prepared.remove (prepared : Prepared before target now)
    (removed : now.remove (staging target) = .ok after) : Prepared before target after := by
  obtain ⟨name, outer, bytes, place, -, rfl⟩ := FileSystem.place_of_remove removed
  refine prepared.change rfl ?_
  rw [place]
  exact fun location apart => FileSystem.at?_clear_of_ne _ apart

/-- What writing a staged file has led to: the content when all went well. -/
def Filled (before : FileSystem) (target : FilePath) (content : ByteArray) :
    Except Fault Unit → FileSystem → Prop
  | .ok (), after => Staged before target content after
  | .error _, after => Prepared before target after

theorem Filled.prepared (filled : Filled before target content outcome now) :
    Prepared before target now := by
  cases outcome with
  | ok => exact filled.toPrepared
  | error fault => exact filled

private theorem ensures_createFile (prepared : Prepared before target now) :
    Ensures (Prepared before target) (Filled before target .empty)
      (request (.createFile (staging target))) now := by
  have step : ∀ answer after, (Request.createFile (staging target)).Allows now after answer →
      Filled before target .empty answer after := by
    intro answer after changed
    exact changed.elim (Filled before target .empty)
      (fun made => prepared.createFile made) fun _ => prepared
  exact ensures_request (fun answer after changed => (step answer after changed).prepared) step

private theorem ensures_appendFile (staged : Staged before target content now) (piece : ByteArray) :
    Ensures (Prepared before target) (Filled before target (content ++ piece))
      (request (.appendFile (staging target) piece)) now := by
  have step : ∀ answer after,
      (Request.appendFile (staging target) piece).Allows now after answer →
      Filled before target (content ++ piece) answer after := by
    intro answer after changed
    exact changed.elim (Filled before target (content ++ piece))
      (fun written => staged.appendFile written) fun _ => staged.toPrepared
  exact ensures_request (fun answer after changed => (step answer after changed).prepared) step

/-- What writing one piece keeps, however it ends, writing many keeps. -/
theorem ensures_appendAll_keeps {keeps : FileSystem → Prop} (p : FilePath)
    (pieces : List ByteArray) (kept : keeps now)
    (step : ∀ now piece, keeps now → ∀ answer after,
      (Request.appendFile p piece).Allows now after answer → keeps after) :
    Ensures (fun _ => True) (fun _ => keeps) (appendAll p pieces) now := by
  induction pieces generalizing now with
  | nil => exact .done kept
  | cons piece rest ih =>
    refine ensures_bind (ensures_request (fun _ _ _ => trivial) (step now piece kept)) ?_
    intro outcome after kept
    cases outcome with
    | ok => exact ih kept
    | error fault => exact .done kept

theorem ensures_appendAll (pieces : List ByteArray) (staged : Staged before target content now) :
    Ensures (Prepared before target) (Filled before target (pieces.foldl (· ++ ·) content))
      (appendAll (staging target) pieces) now := by
  induction pieces generalizing content now with
  | nil => exact .done staged
  | cons piece rest ih =>
    refine ensures_bind (ensures_appendFile staged piece) ?_
    intro outcome after written
    cases outcome with
    | ok => exact ih written
    | error fault => exact .done written

private theorem ensures_syncFile (staged : Staged before target content now) :
    Ensures (Prepared before target) (Filled before target content)
      (request (.syncFile (staging target))) now := by
  have step : ∀ answer after, (Request.syncFile (staging target)).Allows now after answer →
      Filled before target content answer after := by
    intro answer after changed
    refine changed.elim (Filled before target content) (fun stored => ?_) fun _ => staged.toPrepared
    rw [FileSystem.syncFile_eq stored]
    exact staged
  exact ensures_request (fun answer after changed => (step answer after changed).prepared) step

/-- The content that pieces make together. -/
def whole (pieces : List ByteArray) : ByteArray := pieces.foldl (· ++ ·) .empty

private theorem ensures_fill (pieces : List ByteArray) (prepared : Prepared before target now) :
    Ensures (Prepared before target) (Filled before target (whole pieces))
      (fill (staging target) pieces) now := by
  refine ensures_bind (ensures_createFile prepared) ?_
  intro made state created
  cases made with
  | error fault => exact .done created
  | ok =>
    refine ensures_bind (ensures_appendAll pieces created) ?_
    intro outcome after written
    cases outcome with
    | error fault => exact .done written
    | ok => exact ensures_syncFile written

end Staging

section Replacing

/-- Files in which a target is as it was or filled with content. -/
def AllOrNothing (before : FileSystem) (target : FilePath) (content : ByteArray)
    (now : FileSystem) : Prop :=
  Prepared before target now ∨ Moved before target content now

/-- What has become of a target: all of the content is there, or nothing has changed. -/
def Replaced (before : FileSystem) (target : FilePath) (content : ByteArray) :
    Except Error Unit → FileSystem → Prop
  | .ok (), after => Moved before target content after
  | .error _, after => Prepared before target after

private theorem Replaced.allOrNothing (replaced : Replaced before target content outcome now) :
    AllOrNothing before target content now := by
  cases outcome with
  | ok => exact .inr replaced
  | error error => exact .inl replaced

private theorem ensures_rename (staged : Staged before target content now) :
    Ensures (AllOrNothing before target content)
      (fun answer after => Replaced before target content (answer.mapError (.write target)) after)
      (request (.rename (staging target) target)) now := by
  have step : ∀ answer after, (Request.rename (staging target) target).Allows now after answer →
      Replaced before target content (answer.mapError (.write target)) after := by
    intro answer after changed
    exact changed.elim
      (fun answer => Replaced before target content (answer.mapError (.write target)))
      (fun moved => staged.rename moved) fun _ => staged.toPrepared
  exact ensures_request (fun answer after changed => (step answer after changed).allOrNothing) step

theorem ensures_stageAndMove (pieces : List ByteArray) (prepared : Prepared before target now) :
    Ensures (AllOrNothing before target (whole pieces)) (Replaced before target (whole pieces))
      (stageAndMove target pieces) now := by
  have filled := ensures_fill pieces prepared
  refine ensures_bind (ensures_mono filled (fun _ => .inl) (fun _ _ reached => reached)) ?_
  intro outcome state reached
  cases outcome with
  | error fault => exact .done reached
  | ok =>
    refine ensures_bind (ensures_rename reached) ?_
    intro answer after moved
    cases answer with
    | ok => exact .done moved
    | error fault => exact .done moved

private theorem ensures_remove (prepared : Prepared before target now) :
    Ensures (Prepared before target) (fun _ => Prepared before target)
      (request (.remove (staging target))) now := by
  have step : ∀ answer after, (Request.remove (staging target)).Allows now after answer →
      Prepared before target after := by
    intro answer after changed
    exact changed.elim (fun _ => Prepared before target)
      (fun removed => prepared.remove removed) fun _ => prepared
  exact ensures_request step step

/-- At every step of replacing a target, it holds what it held before or all of the content, and in
the end the latter exactly if nothing went wrong. -/
theorem ensures_replacePieces (files : FileSystem) (target : FilePath) (pieces : List ByteArray) :
    Ensures (AllOrNothing files target (whole pieces)) (Replaced files target (whole pieces))
      (replacePieces target pieces) files := by
  have directories := ensures_makeDirectories (directory target).ancestors
    (fun _ listed => listed) (Opened.refl files target)
  refine ensures_bind (ensures_mono directories (fun _ opened => .inl opened.prepared)
    (fun _ _ opened => opened.prepared)) ?_
  intro outcome state prepared
  cases outcome with
  | error fault => exact .done prepared
  | ok =>
    refine ensures_bind (ensures_stageAndMove pieces prepared) ?_
    intro outcome state reached
    cases outcome with
    | ok => exact .done reached
    | error error =>
      have removed := ensures_remove reached
      refine ensures_bind (ensures_mono removed (fun _ => .inl) (fun _ _ reached => reached)) ?_
      exact fun _ _ prepared => .done prepared

/-- What has become of a target that is replaced unless it holds the content already. -/
def Updated (before : FileSystem) (target : FilePath) (content : String) :
    Except Error Bool → FileSystem → Prop
  | .ok true, after => Moved before target content.toUTF8 after
  | .ok false, after =>
    after = before ∧ ∃ bytes, before.read target = .ok bytes ∧ holds (.ok bytes) content = true
  | .error _, after => Prepared before target after

theorem ensures_replaceIfChanged (files : FileSystem) (target : FilePath) (content : String) :
    Ensures (AllOrNothing files target content.toUTF8) (Updated files target content)
      (replaceIfChanged target content).run files := by
  refine .ask (fun _ _ allowed => .inl (allowed.1 ▸ Prepared.refl files target)) ?_
  rintro answer after ⟨rfl, read⟩
  change Ensures _ _ (ExceptT.run (if holds answer content then _ else _)) after
  split
  next same =>
    refine .ask (fun _ _ unchanged => .inl (unchanged ▸ Prepared.refl after target)) ?_
    rintro _ last rfl
    refine .done ⟨rfl, ?_⟩
    cases answer with
    | error fault => cases same
    | ok bytes => exact ⟨bytes, read bytes rfl, same⟩
  next =>
    have one : whole [content.toUTF8] = content.toUTF8 := ByteArray.empty_append
    have replaced := ensures_replacePieces after target [content.toUTF8]
    rw [one] at replaced
    rw [Attempt.run_bind]
    refine ensures_bind replaced ?_
    intro outcome state reached
    cases outcome with
    | ok => exact .done reached
    | error error => exact .done reached

end Replacing

end ClientGen.Output
