import ContinuousData.Gap.FileStore
import ContinuousData.Gap.Journal
import ContinuousData.Proofs.ReplacedFiles
import ContinuousData.Proofs.Restarts
import ContinuousData.Proofs.StateTexts

/-! Files and memory as stores of gap states. Every station's file mirrors the station's state in
memory: calls keep this, whether they are performed or refused, or broken off at any step, since
temporary files are no station's file. So both stores give the same answers. -/
namespace ContinuousData

/-- What is written can be read. -/
def StateFormat.IsFaithful (format : StateFormat) : Prop :=
  ∀ state, ∃ text, format.write state = .ok text ∧ format.read? text = some state

theorem StateFormat.yaml_isFaithful : yaml.IsFaithful :=
  fun state => ⟨state.write, rfl, GapState.read?_write state⟩

namespace MemoryStore

theorem get?_erase_ite (store : MemoryStore) (station other : String) :
    (store.erase station).get? other = if other = station then none else store.get? other :=
  lookup_filter_ne store.states station other

theorem get?_insert_ite (store : MemoryStore) (station other : String) (state : GapState) :
    (store.insert station state).get? other =
      if other = station then some state else store.get? other :=
  lookup_replace store.states station other state

end MemoryStore

/-- What a store answers to a call. -/
inductive StoreAnswer where
  | loaded (state : Option GapState)
  | done
  deriving DecidableEq, Repr

namespace StoreCall

variable {σ : Type} [GapStore σ]

/-- A call as a step of a store. -/
def perform (store : σ) : StoreCall → Except Error StoreAnswer × σ
  | load station =>
    let (result, next) := GapStore.load store station
    (.loaded <$> result, next)
  | .store station state =>
    let (result, next) := GapStore.store store station state
    ((fun _ => .done) <$> result, next)
  | remove station =>
    let (result, next) := GapStore.remove store station
    ((fun _ => .done) <$> result, next)

/-- The answers to calls, one after the other. -/
def answers (store : σ) : List StoreCall → List (Except Error StoreAnswer)
  | [] => []
  | call :: calls => (call.perform store).1 :: answers (call.perform store).2 calls

def station : StoreCall → String
  | load station | .store station _ | remove station => station

/-- The files of a call's station can have their names. Only a store needs the temporary one. -/
def IsServed (accepts : String → Bool) : StoreCall → Prop
  | .store station _ => FileStore.isStationName station = true ∧
    accepts (FileStore.temporaryName station) = true ∧ accepts (FileStore.fileName station) = true
  | load station | remove station => FileStore.isStationName station = true ∧
    accepts (FileStore.fileName station) = true

end StoreCall

namespace FileStore

theorem fileName_injective : Function.Injective fileName := by
  intro a b same
  have chars := congrArg String.toList same
  simp only [fileName, String.toList_append] at chars
  exact String.toList_inj.mp (List.append_cancel_right chars)

/-- A temporary file is no station's file. -/
theorem fileName_ne_temporaryName {station : String} (valid : isStationName station = true)
    (other : String) : fileName station ≠ temporaryName other := by
  intro same
  have chars := congrArg String.toList same
  simp only [fileName, temporaryName, String.toList_append] at chars
  obtain ⟨nonempty, all⟩ := Bool.and_eq_true_iff.mp valid
  have filled : station.toList ≠ [] := by
    intro empty
    exact of_decide_eq_true nonempty (String.toList_eq_nil_iff.mp empty)
  obtain ⟨c, rest, text⟩ := List.exists_cons_of_ne_nil filled
  rw [text] at chars all
  have point : c = '.' := (List.cons.inj chars).1
  rw [point] at all
  simp [isStationChar] at all

theorem checkName_eq_ok {station : String} (valid : isStationName station = true) :
    checkName station = .ok () :=
  if_pos valid

theorem checkName_eq_error {station : String} (invalid : isStationName station ≠ true) :
    checkName station = .error (.stationNotAFileName (Text.quoted station)) :=
  if_neg invalid

section

variable {format : StateFormat} {files left : FileStore format} {station text : String}
  {state : GapState}

theorem load_missing (valid : isStationName station = true)
    (taken : files.directory.accepts (fileName station) = true)
    (held : files.directory.get? (fileName station) = none) :
    files.load station = .ok none := by
  rw [load, checkName_eq_ok valid, Directory.read_missing taken held]
  rfl

theorem load_file (valid : isStationName station = true)
    (taken : files.directory.accepts (fileName station) = true)
    (held : files.directory.get? (fileName station) = some (.file text))
    (read : format.read? text = some state) : files.load station = .ok (some state) := by
  rw [load, checkName_eq_ok valid, Directory.read_file taken held]
  dsimp only
  rw [read]
  rfl

/-- Whether or not there was a file, there is none afterwards. -/
theorem exists_remove (valid : isStationName station = true)
    (taken : files.directory.accepts (fileName station) = true)
    (noFile : files.directory.get? (fileName station) ≠ some .directory) :
    ∃ directory, files.remove station = (.ok (), ⟨directory⟩) ∧
      directory.accepts = files.directory.accepts ∧ ∀ name, directory.get? name =
        if name = fileName station then none else files.directory.get? name := by
  unfold remove
  rw [checkName_eq_ok valid]
  dsimp only
  cases held : files.directory.get? (fileName station) with
  | none =>
    rw [Directory.remove_missing taken held]
    refine ⟨files.directory, rfl, rfl, fun name => ?_⟩
    split_ifs with same
    · rw [same, held]
    · rfl
  | some entry =>
    cases entry with
    | directory => exact absurd held noFile
    | file text =>
      rw [Directory.remove_file taken held]
      exact ⟨_, rfl, rfl, Directory.get?_erase _ _⟩

/-- There is room for the state of a station: its files can have their names, and no directory has
one of them. -/
structure HasRoom (files : FileStore format) (station : String) : Prop where
  valid : isStationName station = true
  file : files.directory.accepts (fileName station) = true
  temporary : files.directory.accepts (temporaryName station) = true
  noFile : files.directory.get? (fileName station) ≠ some .directory
  noTemporary : files.directory.get? (temporaryName station) ≠ some .directory

/-- The directory after a state was stored. -/
def saved (files : FileStore format) (station text : String) : Directory :=
  ((files.directory.insert (temporaryName station) (.file text)).erase
    (temporaryName station)).insert (fileName station) (.file text)

theorem get?_saved (files : FileStore format) (station text name : String) :
    (files.saved station text).get? name =
      if name = fileName station then some (.file text)
      else if name = temporaryName station then none else files.directory.get? name := by
  rw [saved, Directory.get?_insert, Directory.get?_erase, Directory.get?_insert]
  split_ifs <;> rfl

/-- How a store can go: it ends at the first step that fails. -/
inductive Saves (files : FileStore format) (fault : Option FileFault) (station : String)
    (state : GapState) : Except Error Unit × FileStore format → Prop
  | unnamed (invalid : isStationName station ≠ true) :
      Saves files fault station state
        (.error (.stationNotAFileName (Text.quoted station)), files)
  | unformatted {reason : Error} (valid : isStationName station = true)
      (failed : format.write state = .error reason) :
      Saves files fault station state (.error reason, files)
  | unwritten {text : String} {reason : Error} {left : Directory}
      (valid : isStationName station = true) (written : format.write state = .ok text)
      (failed : files.directory.tryWrite fault (temporaryName station) text =
        (.error reason, left)) :
      Saves files fault station state
        (.error (.writingFailed (files.directory.quotedPath (temporaryName station))), ⟨left⟩)
  | unrenamed {text : String} {reason : Error} {between : Directory}
      (valid : isStationName station = true) (written : format.write state = .ok text)
      (wrote : files.directory.tryWrite fault (temporaryName station) text = (.ok (), between))
      (failed : between.tryRename fault (temporaryName station) (fileName station) =
        .error reason) :
      Saves files fault station state
        (.error (.renamingFailed (files.directory.quotedPath (temporaryName station))
          (files.directory.quotedPath (fileName station))), ⟨between⟩)
  | done {text : String} {between renamed : Directory} (valid : isStationName station = true)
      (written : format.write state = .ok text)
      (wrote : files.directory.tryWrite fault (temporaryName station) text = (.ok (), between))
      (named : between.tryRename fault (temporaryName station) (fileName station) = .ok renamed) :
      Saves files fault station state (.ok (), ⟨renamed⟩)

theorem saves_trySave (files : FileStore format) (fault : Option FileFault) (station : String)
    (state : GapState) : files.Saves fault station state (files.trySave fault station state) := by
  unfold trySave
  by_cases valid : isStationName station = true
  · rw [checkName_eq_ok valid]
    cases written : format.write state with
    | error reason => exact .unformatted valid written
    | ok text =>
      dsimp only
      rcases wrote : files.directory.tryWrite fault (temporaryName station) text with
        ⟨outcome, between⟩
      cases outcome with
      | error reason => exact .unwritten valid written wrote
      | ok =>
        dsimp only
        cases named : between.tryRename fault (temporaryName station) (fileName station) with
        | error reason => exact .unrenamed valid written wrote named
        | ok renamed => exact .done valid written wrote named
  · rw [checkName_eq_error valid]
    exact .unnamed valid

/-- The only way for a store to succeed. -/
theorem trySave_done {fault : Option FileFault} {between renamed : Directory}
    (valid : isStationName station = true) (written : format.write state = .ok text)
    (wrote : files.directory.tryWrite fault (temporaryName station) text = (.ok (), between))
    (named : between.tryRename fault (temporaryName station) (fileName station) = .ok renamed) :
    files.trySave fault station state = (.ok (), ⟨renamed⟩) := by
  rw [trySave, checkName_eq_ok valid, written]
  dsimp only
  rw [wrote]
  dsimp only
  rw [named]

theorem HasRoom.save_eq (room : files.HasRoom station) (written : format.write state = .ok text) :
    files.save station state = (.ok (), ⟨files.saved station text⟩) := by
  refine trySave_done room.valid written
    (Directory.tryWrite_none room.temporary room.noTemporary text)
    (Directory.tryRename_none room.temporary ?_ room.file ?_)
  · rw [Directory.get?_insert, if_pos rfl]
  · rw [Directory.get?_insert, if_neg (fileName_ne_temporaryName room.valid station)]
    exact room.noFile

theorem HasRoom.saved (room : files.HasRoom station) (text : String) :
    HasRoom (⟨files.saved station text⟩ : FileStore format) station where
  valid := room.valid
  file := room.file
  temporary := room.temporary
  noFile := by simp [get?_saved]
  noTemporary := by
    rw [get?_saved, if_neg (fileName_ne_temporaryName room.valid station).symm, if_pos rfl]
    exact nofun

/-- A store that fails has changed the temporary file at most. -/
theorem agreesBut_of_trySave {fault : Option FileFault} {reason : Error}
    (failed : files.trySave fault station state = (.error reason, left)) :
    Directory.AgreesBut (temporaryName station) files.directory left.directory := by
  have saves := files.saves_trySave fault station state
  rw [failed] at saves
  cases saves with
  | unnamed | unformatted => exact .refl _ _
  | unwritten _ _ outcome | unrenamed _ _ outcome => exact Directory.agreesBut_of_tryWrite outcome

/-- A store that succeeds has met no fault. -/
theorem trySave_eq_ok {fault : Option FileFault}
    (succeeded : files.trySave fault station state = (.ok (), left)) :
    files.save station state = (.ok (), left) := by
  have saves := files.saves_trySave fault station state
  rw [succeeded] at saves
  cases saves with
  | done valid written wrote named =>
    exact trySave_done valid written (Directory.tryWrite_eq_ok wrote)
      (Directory.tryRename_eq_ok named)

/-- Temporary files have no part in what is loaded. -/
theorem load_of_agreesBut
    (h : Directory.AgreesBut (temporaryName station) files.directory left.directory)
    (other : String) : left.load other = files.load other := by
  by_cases valid : isStationName other = true
  · have read : left.directory.read (fileName other) = files.directory.read (fileName other) := by
      rw [Directory.read, Directory.checkName, h.accepts,
        h.others _ (fileName_ne_temporaryName valid station)]
      rfl
    have path : left.directory.quotedPath (fileName other) =
        files.directory.quotedPath (fileName other) := by
      rw [Directory.quotedPath, h.path]
      rfl
    rw [load, read, path]
    rfl
  · rw [load, load, checkName_eq_error valid]
    rfl

end

/-- Files keep the state of a station that there is room for, so that all that is said of reliable
stores is said of them. -/
def reliable {format : StateFormat} (faithful : format.IsFaithful) (station : String) :
    Reliable (FileStore format) station where
  works files := files.HasRoom station ∧ ∃ held, files.load station = .ok held
  held files := (files.load station).toOption.join
  load_eq {files} works := by
    obtain ⟨held, loaded⟩ := works.2
    refine ⟨?_, works, rfl⟩
    change files.load station = .ok (files.load station).toOption.join
    rw [loaded]
    rfl
  store_eq {files} state works := by
    obtain ⟨text, written, read⟩ := faithful state
    obtain ⟨room, -⟩ := works
    change (files.save station state).1 = .ok () ∧
      ((files.save station state).2.HasRoom station ∧
        ∃ held, (files.save station state).2.load station = .ok held) ∧
      ((files.save station state).2.load station).toOption.join = some state
    rw [room.save_eq written]
    have room := room.saved text
    have loaded := load_file room.valid room.file (by rw [get?_saved, if_pos rfl]) read
    rw [loaded]
    exact ⟨rfl, ⟨room, _, rfl⟩, rfl⟩
  remove_eq {files} works := by
    obtain ⟨room, -⟩ := works
    obtain ⟨directory, removed, accepts, held⟩ := exists_remove room.valid room.file room.noFile
    change (files.remove station).1 = .ok () ∧
      ((files.remove station).2.HasRoom station ∧
        ∃ held, (files.remove station).2.load station = .ok held) ∧
      ((files.remove station).2.load station).toOption.join = none
    rw [removed]
    have missing : directory.get? (fileName station) = none := by rw [held, if_pos rfl]
    have taken : directory.accepts (fileName station) = true := by rw [accepts, room.file]
    have room : HasRoom (⟨directory⟩ : FileStore format) station := by
      refine ⟨room.valid, taken, by rw [accepts, room.temporary], missing ▸ nofun, ?_⟩
      rw [held, if_neg (fileName_ne_temporaryName room.valid station).symm]
      exact room.noTemporary
    have loaded := load_missing room.valid room.file missing
    rw [loaded]
    exact ⟨rfl, ⟨room, _, rfl⟩, rfl⟩

/-- An empty directory has room for every station whose files can have their names. -/
theorem reliable_works {format : StateFormat} (faithful : format.IsFaithful) {station : String}
    {directory : Directory} (nothing : directory.entries = [])
    (valid : isStationName station = true) (file : directory.accepts (fileName station) = true)
    (temporary : directory.accepts (temporaryName station) = true) :
    (reliable faithful station).works ⟨directory⟩ := by
  have free := directory.get?_of_empty nothing
  exact ⟨⟨valid, file, temporary, free _ ▸ nofun, free _ ▸ nofun⟩, none,
    load_missing valid file (free _)⟩

/-- Every station's file holds the station's state in memory. -/
structure Mirrors {format : StateFormat} (accepts : String → Bool) (files : FileStore format)
    (memory : MemoryStore) : Prop where
  accepts : files.directory.accepts = accepts
  noDirectory : ∀ name, files.directory.get? name ≠ some .directory
  missing : ∀ {station}, isStationName station = true → memory.get? station = none →
    files.directory.get? (fileName station) = none
  held : ∀ {station state}, isStationName station = true → memory.get? station = some state →
    ∃ text, files.directory.get? (fileName station) = some (.file text) ∧
      format.read? text = some state

section

variable {format : StateFormat} {accepts : String → Bool} {files left : FileStore format}
  {memory : MemoryStore} {station text : String} {state : GapState}

theorem mirrors_empty {directory : Directory} (nothing : directory.entries = []) :
    Mirrors directory.accepts (⟨directory⟩ : FileStore format) .empty := by
  have free := directory.get?_of_empty nothing
  exact ⟨rfl, fun name => free name ▸ nofun, fun _ _ => free _, fun _ known => nomatch known⟩

theorem Mirrors.load_eq (mirrors : Mirrors accepts files memory)
    (valid : isStationName station = true) (taken : accepts (fileName station) = true) :
    files.load station = .ok (memory.get? station) := by
  rw [← mirrors.accepts] at taken
  cases known : memory.get? station with
  | none => exact load_missing valid taken (mirrors.missing valid known)
  | some state =>
    obtain ⟨text, held, read⟩ := mirrors.held valid known
    exact load_file valid taken held read

theorem Mirrors.saved (mirrors : Mirrors accepts files memory) (station : String)
    (read : format.read? text = some state) :
    Mirrors accepts (⟨files.saved station text⟩ : FileStore format)
      (memory.insert station state) where
  accepts := mirrors.accepts
  noDirectory name := by
    rw [get?_saved]
    split_ifs
    · exact nofun
    · exact nofun
    · exact mirrors.noDirectory name
  missing {other} valid known := by
    rw [MemoryStore.get?_insert_ite] at known
    split_ifs at known with same
    rw [get?_saved, if_neg fun names => same (fileName_injective names),
      if_neg (fileName_ne_temporaryName valid station)]
    exact mirrors.missing valid known
  held {other found} valid known := by
    rw [MemoryStore.get?_insert_ite] at known
    rw [get?_saved]
    split_ifs at known with same
    · obtain rfl := Option.some.inj known
      exact ⟨text, if_pos (congrArg fileName same), read⟩
    · rw [if_neg fun names => same (fileName_injective names),
        if_neg (fileName_ne_temporaryName valid station)]
      exact mirrors.held valid known

theorem Mirrors.removed (mirrors : Mirrors accepts files memory) (station : String)
    {directory : Directory} (same : directory.accepts = files.directory.accepts)
    (others : ∀ name, directory.get? name =
      if name = fileName station then none else files.directory.get? name) :
    Mirrors accepts (⟨directory⟩ : FileStore format) (memory.erase station) where
  accepts := same.trans mirrors.accepts
  noDirectory name := by
    rw [others]
    split_ifs
    · exact nofun
    · exact mirrors.noDirectory name
  missing {other} valid known := by
    rw [MemoryStore.get?_erase_ite] at known
    rw [others]
    split_ifs with names
    · rfl
    · rw [if_neg fun station => names (congrArg fileName station)] at known
      exact mirrors.missing valid known
  held {other found} valid known := by
    rw [MemoryStore.get?_erase_ite] at known
    split_ifs at known with same
    rw [others, if_neg fun names => same (fileName_injective names)]
    exact mirrors.held valid known

/-- A store that fails leaves the states as they are. -/
theorem Mirrors.failed (mirrors : Mirrors accepts files memory)
    (h : Directory.AgreesBut (temporaryName station) files.directory left.directory) :
    Mirrors accepts left memory where
  accepts := h.accepts.trans mirrors.accepts
  noDirectory name := by
    by_cases temporary : name = temporaryName station
    · exact temporary ▸ h.noDirectory (mirrors.noDirectory _)
    · rw [h.others name temporary]
      exact mirrors.noDirectory name
  missing valid known := by
    rw [h.others _ (fileName_ne_temporaryName valid station)]
    exact mirrors.missing valid known
  held valid known := by
    rw [h.others _ (fileName_ne_temporaryName valid station)]
    exact mirrors.held valid known

theorem perform_load (files : FileStore format) (station : String) :
    StoreCall.perform files (.load station) = (.loaded <$> files.load station, files) :=
  rfl

theorem perform_store (files : FileStore format) (station : String) (state : GapState) :
    StoreCall.perform files (.store station state) =
      ((fun _ => .done) <$> (files.save station state).1, (files.save station state).2) :=
  rfl

theorem perform_remove (files : FileStore format) (station : String) :
    StoreCall.perform files (.remove station) =
      ((fun _ => .done) <$> (files.remove station).1, (files.remove station).2) :=
  rfl

/-- A call that is served has the same answer from files as from memory. -/
theorem Mirrors.perform (mirrors : Mirrors accepts files memory) (faithful : format.IsFaithful)
    {call : StoreCall} (served : call.IsServed accepts) :
    (call.perform files).1 = (call.perform memory).1 ∧
      Mirrors accepts (call.perform files).2 (call.perform memory).2 := by
  cases call with
  | load station =>
    rw [perform_load, mirrors.load_eq served.1 served.2]
    exact ⟨rfl, mirrors⟩
  | store station state =>
    obtain ⟨valid, temporary, file⟩ := served
    obtain ⟨text, written, read⟩ := faithful state
    have room : files.HasRoom station :=
      ⟨valid, mirrors.accepts ▸ file, mirrors.accepts ▸ temporary, mirrors.noDirectory _,
        mirrors.noDirectory _⟩
    rw [perform_store, room.save_eq written]
    exact ⟨rfl, mirrors.saved station read⟩
  | remove station =>
    obtain ⟨valid, file⟩ := served
    obtain ⟨directory, removed, same, others⟩ :=
      exists_remove valid (mirrors.accepts ▸ file) (mirrors.noDirectory _)
    rw [perform_remove, removed]
    exact ⟨rfl, mirrors.removed station same others⟩

theorem Mirrors.answers_eq (mirrors : Mirrors accepts files memory) (faithful : format.IsFaithful)
    {calls : List StoreCall} (served : ∀ call ∈ calls, call.IsServed accepts) :
    StoreCall.answers files calls = StoreCall.answers memory calls := by
  induction calls generalizing files memory with
  | nil => rfl
  | cons call calls ih =>
    obtain ⟨first, others⟩ := List.forall_mem_cons.mp served
    obtain ⟨same, kept⟩ := mirrors.perform faithful first
    rw [StoreCall.answers, StoreCall.answers, same, ih kept others]

theorem exists_error_load (files : FileStore format)
    (refused : ¬ (isStationName station = true ∧
      files.directory.accepts (fileName station) = true)) :
    ∃ reason, files.load station = .error reason := by
  unfold load
  by_cases valid : isStationName station = true
  · have taken := fun taken => refused ⟨valid, taken⟩
    rw [checkName_eq_ok valid, Directory.read, Directory.checkName_eq_error taken]
    exact ⟨_, rfl⟩
  · rw [checkName_eq_error valid]
    exact ⟨_, rfl⟩

theorem exists_error_save (files : FileStore format)
    (refused : ¬ (isStationName station = true ∧
      files.directory.accepts (temporaryName station) = true ∧
        files.directory.accepts (fileName station) = true)) (state : GapState) :
    ∃ reason, (files.save station state).1 = .error reason := by
  have saves := files.saves_trySave none station state
  rw [← save] at saves
  generalize files.save station state = outcome at saves ⊢
  cases saves with
  | done valid written wrote named =>
    refine absurd ⟨valid, ?_, ?_⟩ refused
    · by_contra temporary
      rw [Directory.tryWrite_refused temporary] at wrote
      exact nomatch (Prod.mk.inj wrote).1
    · by_contra file
      rw [← (Directory.agreesBut_of_tryWrite wrote).accepts] at file
      obtain ⟨reason, failed⟩ := Directory.tryRename_refused file none (temporaryName station)
      exact nomatch failed.symm.trans named
  | unnamed | unformatted | unwritten | unrenamed => exact ⟨_, rfl⟩

theorem exists_error_remove (files : FileStore format)
    (refused : ¬ (isStationName station = true ∧
      files.directory.accepts (fileName station) = true)) :
    ∃ reason, (files.remove station).1 = .error reason := by
  unfold remove
  by_cases valid : isStationName station = true
  · have taken := fun taken => refused ⟨valid, taken⟩
    rw [checkName_eq_ok valid, Directory.remove, Directory.checkName_eq_error taken]
    exact ⟨_, rfl⟩
  · rw [checkName_eq_error valid]
    exact ⟨_, rfl⟩

theorem eq_of_remove {reason : Error} (failed : files.remove station = (.error reason, left)) :
    left = files := by
  unfold remove at failed
  by_cases valid : isStationName station = true
  · rw [checkName_eq_ok valid] at failed
    dsimp only at failed
    split at failed
    · exact nomatch (Prod.mk.inj failed).1
    · exact (Prod.mk.inj failed).2.symm
    · exact nomatch (Prod.mk.inj failed).1
  · rw [checkName_eq_error valid] at failed
    exact (Prod.mk.inj failed).2.symm

/-- Any other call fails, whatever the directory holds. -/
theorem exists_error_perform (files : FileStore format) {call : StoreCall}
    (refused : ¬ call.IsServed files.directory.accepts) :
    ∃ reason, (call.perform files).1 = .error reason := by
  cases call with
  | load station =>
    obtain ⟨reason, failed⟩ := exists_error_load files refused
    rw [perform_load, failed]
    exact ⟨reason, rfl⟩
  | store station state =>
    obtain ⟨reason, failed⟩ := exists_error_save files refused state
    rw [perform_store, failed]
    exact ⟨reason, rfl⟩
  | remove station =>
    obtain ⟨reason, failed⟩ := exists_error_remove files refused
    rw [perform_remove, failed]
    exact ⟨reason, rfl⟩

/-- A station that cannot be part of a file name changes no file. -/
theorem perform_of_invalid (files : FileStore format) {call : StoreCall}
    (invalid : isStationName call.station ≠ true) : (call.perform files).2 = files := by
  cases call with
  | load station => rfl
  | store station state =>
    have named := @checkName_eq_error station invalid
    rw [perform_store, save, trySave, named]
  | remove station =>
    have named := @checkName_eq_error station invalid
    rw [perform_remove, remove, named]

/-- A call while the system may fail, which breaks off nothing but a store. -/
def tryPerform (files : FileStore format) (fault : Option FileFault) :
    StoreCall → Except Error StoreAnswer × FileStore format
  | .store station state =>
    let (result, next) := files.trySave fault station state
    ((fun _ => .done) <$> result, next)
  | call => call.perform files

theorem tryPerform_eq_ok {fault : Option FileFault} {call : StoreCall} {answer : StoreAnswer}
    {next : FileStore format} (h : files.tryPerform fault call = (.ok answer, next)) :
    call.perform files = (.ok answer, next) := by
  cases call with
  | load station => exact h
  | store station state =>
    rcases outcome : files.trySave fault station state with ⟨result, after⟩
    rw [tryPerform, outcome] at h
    cases result with
    | error reason => exact nomatch (Prod.mk.inj h).1
    | ok =>
      rw [perform_store, trySave_eq_ok outcome]
      exact h
  | remove station => exact h

/-- A call that fails has changed the station's temporary file at most. -/
theorem agreesBut_of_tryPerform {fault : Option FileFault} {call : StoreCall} {reason : Error}
    (failed : files.tryPerform fault call = (.error reason, left)) :
    Directory.AgreesBut (temporaryName call.station) files.directory left.directory := by
  cases call with
  | load station =>
    obtain rfl := (Prod.mk.inj failed).2
    exact .refl _ _
  | store station state =>
    rcases outcome : files.trySave fault station state with ⟨result, after⟩
    rw [tryPerform, outcome] at failed
    cases result with
    | error reason =>
      obtain ⟨-, rfl⟩ := Prod.mk.inj failed
      exact agreesBut_of_trySave outcome
    | ok => exact nomatch (Prod.mk.inj failed).1
  | remove station =>
    rcases outcome : files.remove station with ⟨result, after⟩
    change StoreCall.perform files (.remove station) = _ at failed
    rw [perform_remove, outcome] at failed
    cases result with
    | error reason =>
      obtain ⟨-, rfl⟩ := Prod.mk.inj failed
      exact eq_of_remove outcome ▸ .refl _ _
    | ok => exact nomatch (Prod.mk.inj failed).1

end

end FileStore

/-- A call and its answer. -/
abbrev Exchange := StoreCall × Except Error StoreAnswer

/-- What memory holds after those calls that did not fail. -/
def MemoryStore.follow (memory : MemoryStore) : List Exchange → MemoryStore
  | [] => memory
  | (_, .error _) :: exchanges => memory.follow exchanges
  | (call, .ok _) :: exchanges => (call.perform memory).2.follow exchanges

theorem MemoryStore.follow_append (memory : MemoryStore) (exchanges others : List Exchange) :
    memory.follow (exchanges ++ others) = (memory.follow exchanges).follow others := by
  induction exchanges generalizing memory with
  | nil => rfl
  | cons exchange exchanges ih =>
    obtain ⟨call, answer⟩ := exchange
    cases answer with
    | error reason => exact ih memory
    | ok answer => exact ih (call.perform memory).2

namespace FileStore

variable {format : StateFormat} {accepts : String → Bool} {files : FileStore format}
  {memory : MemoryStore}

/-- A step of a run in which calls may meet faults. -/
def attempt (files : FileStore format) (call : StoreCall × Option FileFault) :
    FileStore format × List Exchange :=
  let (answer, next) := files.tryPerform call.2 call.1
  (next, [(call.1, answer)])

theorem Mirrors.attempt (mirrors : Mirrors accepts files memory) (faithful : format.IsFaithful)
    (call : StoreCall × Option FileFault) :
    Mirrors accepts (files.attempt call).1 (memory.follow (files.attempt call).2) := by
  obtain ⟨call, fault⟩ := call
  rcases outcome : files.tryPerform fault call with ⟨answer, next⟩
  rw [FileStore.attempt, outcome]
  cases answer with
  | error reason => exact mirrors.failed (agreesBut_of_tryPerform outcome)
  | ok answer =>
    have performed := tryPerform_eq_ok outcome
    have served : call.IsServed accepts := by
      by_contra refused
      obtain ⟨reason, failed⟩ := exists_error_perform files (mirrors.accepts ▸ refused)
      exact nomatch failed.symm.trans (congrArg Prod.fst performed)
    have kept := (mirrors.perform faithful served).2
    rwa [performed] at kept

theorem mirrors_of_run (faithful : format.IsFaithful) {directory : Directory}
    (nothing : directory.entries = []) (attempts : List (StoreCall × Option FileFault)) :
    let ran := Machine.run FileStore.attempt (⟨directory⟩ : FileStore format) attempts
    Mirrors directory.accepts ran.1 (MemoryStore.empty.follow ran.2) := by
  refine @Machine.run_keeps _ _ _ _ _ _
    (fun files past => Mirrors directory.accepts files (MemoryStore.empty.follow past))
    (mirrors_empty nothing) fun front call back _ kept => ?_
  rw [MemoryStore.follow_append]
  exact kept.attempt faithful call

/-- In a directory that starts out empty, files of any faithful format answer as memory does, as long
as they can have their names, and also after calls that failed and stores that were broken off. All
other calls fail, and if the station is the reason, no file changes. After a call that failed, the
same is loaded as before. -/
theorem answers_as_memory (faithful : format.IsFaithful) {directory : Directory}
    (nothing : directory.entries = []) :
    (∀ calls : List StoreCall, (∀ call ∈ calls, call.IsServed directory.accepts) →
      StoreCall.answers (⟨directory⟩ : FileStore format) calls =
        StoreCall.answers MemoryStore.empty calls) ∧
    (∀ attempts exchanges, ∀ files : FileStore format,
      Machine.run FileStore.attempt ⟨directory⟩ attempts = (files, exchanges) →
      ∀ call : StoreCall, call.IsServed directory.accepts →
        (call.perform files).1 = (call.perform (MemoryStore.empty.follow exchanges)).1) ∧
    (∀ (files : FileStore format) (call : StoreCall), ¬ call.IsServed files.directory.accepts →
      ∃ reason next, call.perform files = (.error reason, next) ∧
        (isStationName call.station ≠ true → next = files)) ∧
    ∀ (files left : FileStore format) (fault : Option FileFault) (call : StoreCall)
      (reason : Error), files.tryPerform fault call = (.error reason, left) →
      ∀ other, left.load other = files.load other := by
  refine ⟨fun calls served => (mirrors_empty nothing).answers_eq faithful served, ?_, ?_, ?_⟩
  · intro attempts exchanges files ran call served
    have mirrors := mirrors_of_run faithful nothing attempts
    rw [ran] at mirrors
    exact (mirrors.perform faithful served).1
  · intro files call refused
    obtain ⟨reason, failed⟩ := exists_error_perform files refused
    exact ⟨reason, (call.perform files).2, Prod.ext failed rfl, perform_of_invalid files⟩
  · exact fun files left fault call reason failed other =>
      load_of_agreesBut (agreesBut_of_tryPerform failed) other

/-- A store is broken off when half of its text is written, and the state from before is loaded. -/
theorem answers_as_memory_half_written :
    ∃ exchanges, ∃ files : FileStore, Machine.run FileStore.attempt (empty "gaps")
        [(.store "STA" ⟨7, 7, []⟩, none), (.store "STA" ⟨7, 9, []⟩, some (.writing 9))] =
          (files, exchanges) ∧
      files.directory.get? ".STA.yaml.tmp" = some (.file "min: 7\nma") ∧
      (StoreCall.perform files (.load "STA")).1 = .ok (.loaded (some ⟨7, 7, []⟩)) := by
  obtain ⟨-, answers, -⟩ :=
    @answers_as_memory .yaml StateFormat.yaml_isFaithful { path := "gaps" } rfl
  have loaded := answers
    [(.store "STA" ⟨7, 7, []⟩, none), (.store "STA" ⟨7, 9, []⟩, some (.writing 9))] _ _ rfl
    (.load "STA") ⟨by decide, by decide⟩
  exact ⟨_, _, rfl, rfl, loaded.trans rfl⟩

/-- The name of a station that consists of one letter. -/
def repeated (count : Nat) : String := .ofList (.replicate count 'A')

theorem isStationName_repeated {count : Nat} (positive : 0 < count) :
    isStationName (repeated count) = true := by
  simp [isStationName, repeated, isStationChar, Nat.ne_of_gt positive]

theorem size_temporaryName_repeated (count : Nat) :
    Text.size (temporaryName (repeated count)) = count + 10 := by
  simp [Text.size, Text.encode, temporaryName, repeated, Char.utf8Size]
  omega

/-- With 246 letters the state of a station is kept in memory, but not in a file. -/
theorem long_name_refused :
    StateFormat.yaml.IsFaithful ∧ isStationName (repeated 246) = true ∧
      StoreCall.answers (empty "gaps" : FileStore) [.store (repeated 246) ⟨7, 7, []⟩] ≠
        StoreCall.answers MemoryStore.empty [.store (repeated 246) ⟨7, 7, []⟩] := by
  refine ⟨StateFormat.yaml_isFaithful, isStationName_repeated (by decide), ?_⟩
  have refused : ¬ (StoreCall.store (repeated 246) ⟨7, 7, []⟩).IsServed isCommonName := by
    rintro ⟨-, fits, -⟩
    have fits := of_decide_eq_true fits
    rw [size_temporaryName_repeated] at fits
    exact absurd fits (by decide)
  obtain ⟨reason, failed⟩ := exists_error_perform (empty "gaps" : FileStore) refused
  rw [StoreCall.answers, failed]
  simp [StoreCall.answers, StoreCall.perform, GapStore.store]

end FileStore

end ContinuousData
