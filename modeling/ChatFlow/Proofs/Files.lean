/-
This file compares the store that keeps variables in a file with the store in memory, call by call.

The one fact about disks that is needed is that a file that was saved reads as what was saved
(`FileStore.read_save`). From it follows a simulation: as long as all values can be read from the
file, the file holds what the memory holds (`FileStore.Mirrors`), and both stores answer alike. The
simulation has an end. A value that nests too deep is saved with success, and from then on the file
cannot be read (`FileStore.Stuck`): every further call fails, about whatever variable.
-/

import ChatFlow.Proofs.Documents
import ChatFlow.Proofs.Results
import ChatFlow.Store.Memory
import ChatFlow.Store.Recorded

namespace ChatFlow

variable {σ : Type}

/-! ### Disks -/

namespace Disk

/-- Every directory of a disk is one of another disk. -/
def Keeps (disk other : Disk) : Prop :=
  ∀ path, disk.entry? path = some .directory → other.entry? path = some .directory

variable {disk other : Disk} {path target : DiskPath}

theorem lookup_filter (entries : List (DiskPath × DiskEntry)) (different : path ≠ target) :
    (entries.filter (·.1 ≠ target)).lookup path = entries.lookup path := by
  induction entries with
  | nil => rfl
  | cons entry entries inductionHypothesis =>
    obtain ⟨known, held⟩ := entry
    rw [List.filter_cons]
    split
    · rw [List.lookup_cons, List.lookup_cons, inductionHypothesis]
    · rename_i same
      have same : known = target := by simpa using same
      rw [inductionHypothesis, List.lookup_cons, same, beq_false_of_ne different]

theorem entry_put_self (entry : DiskEntry) (inner : path.isBeginning = false) :
    Disk.entry? (disk.put path entry) path = some entry := by
  unfold entry? put
  rw [inner, if_neg Bool.false_ne_true, List.lookup_cons_self]

theorem entry_put_of_ne (entry : DiskEntry) (different : path ≠ target) :
    Disk.entry? (disk.put target entry) path = disk.entry? path := by
  unfold entry? put
  rw [List.lookup_cons, beq_false_of_ne different]
  dsimp only
  rw [lookup_filter disk.entries different]

theorem entry_remove_of_ne (different : path ≠ target) :
    Disk.entry? (disk.remove target) path = disk.entry? path := by
  unfold entry? remove
  dsimp only
  rw [lookup_filter disk.entries different]

theorem lookup_filter_self (entries : List (DiskPath × DiskEntry)) (path : DiskPath) :
    (entries.filter (·.1 ≠ path)).lookup path = none := by
  induction entries with
  | nil => rfl
  | cons entry entries inductionHypothesis =>
    obtain ⟨known, held⟩ := entry
    rw [List.filter_cons]
    split
    · rename_i different
      have different : path ≠ known := Ne.symm (of_decide_eq_true different)
      rw [List.lookup_cons, beq_false_of_ne different, inductionHypothesis]
    · exact inductionHypothesis

theorem entry_remove_self (inner : path.isBeginning = false) :
    Disk.entry? (disk.remove path) path = none := by
  unfold entry?
  rw [inner, if_neg Bool.false_ne_true]
  exact lookup_filter_self disk.entries path

/-- There is a directory at the beginning of every path, so a file is somewhere else. -/
theorem isBeginning_eq_false (file : disk.entry? path ≠ some .directory) :
    path.isBeginning = false := by
  unfold entry? at file
  split at file
  · exact absurd rfl file
  · exact Bool.not_eq_true _ ▸ ‹_›

theorem ne_directory_of_eq_none (missing : disk.entry? path = none) :
    disk.entry? path ≠ some .directory := by
  rw [missing]
  exact (Option.some_ne_none _).symm

/-- Where there is no directory, none is lost. -/
theorem keeps_put (entry : DiskEntry) (free : disk.entry? target ≠ some .directory) :
    disk.Keeps (disk.put target entry) := by
  intro path directory
  have different : path ≠ target := by
    rintro rfl
    exact free directory
  rw [entry_put_of_ne entry different, directory]

theorem Keeps.trans {third : Disk} (first : disk.Keeps other) (second : other.Keeps third) :
    disk.Keeps third :=
  fun path directory => second path (first path directory)

/-- A file that is put where there is no directory leaves the directories as they are. -/
theorem directory_put_iff {entry : DiskEntry} (plain : entry ≠ .directory)
    (free : disk.entry? target ≠ some .directory) (path : DiskPath) :
    Disk.entry? (disk.put target entry) path = some .directory ↔
      disk.entry? path = some .directory := by
  by_cases same : path = target
  · rw [same, entry_put_self entry (isBeginning_eq_false free)]
    exact iff_of_false (fun directory => plain (Option.some.inj directory)) free
  · rw [entry_put_of_ne entry same]

/-- A file that is moved to where there is no directory leaves the directories as they are. -/
theorem directory_move_iff {entry : DiskEntry} {source : DiskPath} (plain : entry ≠ .directory)
    (movable : disk.entry? source ≠ some .directory) (free : disk.entry? target ≠ some .directory)
    (path : DiskPath) :
    Disk.entry? ((disk.remove source).put target entry) path = some .directory ↔
      disk.entry? path = some .directory := by
  have removed : ∀ path, Disk.entry? (disk.remove source) path = some .directory ↔
      disk.entry? path = some .directory := by
    intro path
    by_cases same : path = source
    · rw [same, entry_remove_self (isBeginning_eq_false movable)]
      exact iff_of_false (fun directory => nomatch directory) movable
    · rw [entry_remove_of_ne same]
  rw [directory_put_iff plain (fun directory => free ((removed target).mp directory)), removed]

theorem checkDirectory_eq_ok :
    disk.checkDirectory path = .ok () ↔ disk.entry? path = some .directory := by
  rw [checkDirectory]
  split <;> simp_all

/-- A path that leads somewhere leads there on any disk with the same directories. -/
theorem Keeps.followSteps (keeps : disk.Keeps other) {reached : DiskPath} {steps : List String}
    (leads : disk.followSteps reached steps = .ok path) :
    other.followSteps reached steps = .ok path := by
  induction steps generalizing reached with
  | nil => exact leads
  | cons step steps inductionHypothesis =>
    obtain ⟨done, here, further⟩ := exists_of_bind_eq_ok leads
    rw [Disk.followSteps, checkDirectory_eq_ok.mpr (keeps _ (checkDirectory_eq_ok.mp here))]
    exact inductionHypothesis further

theorem Keeps.resolve (keeps : disk.Keeps other) {place : DiskPath}
    (leads : disk.resolve path = .ok place) : other.resolve path = .ok place :=
  keeps.followSteps leads

/-- What is written to a path stands where the path leads. -/
theorem exists_of_write_eq_ok {content : String} (written : disk.write path content = .ok other) :
    ∃ place, disk.resolve path = .ok place ∧ disk.entry? place ≠ some .directory ∧
      other = disk.put place (.file content) := by
  obtain ⟨place, leads, rest⟩ := exists_of_bind_eq_ok written
  refine ⟨place, leads, ?_⟩
  split at rest
  · cases rest
  · rename_i file
    cases rest
    exact ⟨file, rfl⟩

/-- What is renamed stands where the new path leads. -/
theorem exists_of_rename_eq_ok {source : DiskPath} (renamed : disk.rename source path = .ok other) :
    ∃ old new entry, disk.resolve source = .ok old ∧ disk.resolve path = .ok new ∧
      disk.entry? old = some entry ∧ entry ≠ .directory ∧
      disk.entry? new ≠ some .directory ∧ other = (disk.remove old).put new entry := by
  obtain ⟨old, leadsFrom, rest⟩ := exists_of_bind_eq_ok renamed
  obtain ⟨new, leadsTo, rest⟩ := exists_of_bind_eq_ok rest
  split at rest
  · cases rest
  · cases rest
  · cases rest
  · rename_i entry movable taken free
    cases rest
    exact ⟨old, new, entry, leadsFrom, leadsTo, taken, movable, free, rfl⟩

/-- Making directories loses none. -/
theorem keeps_makeSteps {reached : DiskPath} {steps : List String}
    (made : disk.makeSteps reached steps = .ok other) : disk.Keeps other := by
  induction steps generalizing disk reached with
  | nil =>
    cases made
    exact fun _ => id
  | cons step steps inductionHypothesis =>
    rw [makeSteps] at made
    split at made
    · exact inductionHypothesis made
    · cases made
    · exact Keeps.trans (keeps_put .directory (ne_directory_of_eq_none ‹_›))
        (inductionHypothesis made)

/-- Directories that have been made need not be made again. -/
theorem makeSteps_of_keeps {third : Disk} {reached : DiskPath} {steps : List String}
    (made : disk.makeSteps reached steps = .ok other) (keeps : other.Keeps third) :
    third.makeSteps reached steps = .ok third := by
  induction steps generalizing disk reached with
  | nil => rfl
  | cons step steps inductionHypothesis =>
    rw [makeSteps] at made
    have further : ∀ {disk : Disk}, disk.entry? (reached.step step) = some .directory →
        disk.makeSteps (reached.step step) steps = .ok other →
          third.makeSteps reached (step :: steps) = .ok third := by
      intro disk directory made
      rw [makeSteps, keeps _ (keeps_makeSteps made _ directory)]
      exact inductionHypothesis made
    split at made
    · exact further ‹_› made
    · cases made
    · have free := isBeginning_eq_false (ne_directory_of_eq_none ‹_›)
      exact further (entry_put_self .directory free) made

/-- Nothing is in the way of a file that is written where no directory is. -/
theorem write_eq_ok {place : DiskPath} (leads : disk.resolve path = .ok place)
    (free : disk.entry? place ≠ some .directory) (content : String) :
    disk.write path content = .ok (disk.put place (.file content)) := by
  rw [write, leads]
  dsimp only [bind, Except.bind]
  split
  · exact absurd ‹_› free
  · rfl

theorem rename_eq_ok {source old new : DiskPath} {content : String}
    (leadsFrom : disk.resolve source = .ok old) (leadsTo : disk.resolve path = .ok new)
    (taken : disk.entry? old = some (.file content))
    (free : disk.entry? new ≠ some .directory) :
    disk.rename source path = .ok ((disk.remove old).put new (.file content)) := by
  rw [rename, leadsFrom, leadsTo]
  dsimp only [bind, Except.bind]
  rw [taken]
  split
  · cases ‹some (DiskEntry.file content) = none›
  · cases ‹some (DiskEntry.file content) = some DiskEntry.directory›
  · exact absurd ‹_› free
  · rename_i same _
    cases same
    rfl

end Disk

/-! ### Saving a document -/

namespace FileStore

variable {place : FilePlace} {faults : DiskFaults} {document : Document} {disk other : Disk}

theorem of_orFault_eq_ok {fault : Option DiskError} {operation : Except DiskError Disk}
    (done : orFault fault operation = .ok other) : operation = .ok other := by
  cases fault with
  | some error => cases done
  | none => exact done

/-- How saving a document goes: it fails before anything is done, with directories made on the way
to the last, or with something written to the draft; or the draft takes the place of the file. -/
inductive Saves (place : FilePlace) (document : Document) (disk : Disk) :
    Except StoreError Unit → Disk → Prop where
  | nothing (error : DiskError) : Saves place document disk (.error (.io error.message)) disk
  | directories {above : DiskPath} {made : Disk} (error : DiskError)
    (inside : above <+: place.directory) (prepared : disk.createDirectories above = .ok made) :
    Saves place document disk (.error (.io error.message)) made
  | draft {made drafted : Disk} (error : DiskError) (content : String)
    (prepared : disk.createDirectories place.directory = .ok made)
    (written : made.write place.draft content = .ok drafted) :
    Saves place document disk (.error (.io error.message)) drafted
  | file {made drafted after : Disk} (prepared : disk.createDirectories place.directory = .ok made)
    (written : made.write place.draft document.text = .ok drafted)
    (renamed : drafted.rename place.draft place.path = .ok after) :
    Saves place document disk (.ok ()) after

theorem saves_save (place : FilePlace) (faults : DiskFaults) (document : Document) (disk : Disk) :
    Saves place document disk (save place faults document disk).1
      (save place faults document disk).2 := by
  rw [save]
  cases faults.createDirectory with
  | some fault =>
    obtain ⟨error, steps⟩ := fault
    dsimp only
    cases prepared : disk.createDirectories (place.directory.take steps) with
    | error _ => exact .nothing error
    | ok made => exact .directories error (List.take_prefix steps _) prepared
  | none =>
    dsimp only
    cases prepared : disk.createDirectories place.directory with
    | error error => exact .nothing error
    | ok made =>
      dsimp only
      cases faults.write with
      | some fault =>
        obtain ⟨error, part⟩ := fault
        dsimp only
        cases written : made.write place.draft part with
        | error _ => exact .directories error List.prefix_rfl prepared
        | ok drafted => exact .draft error part prepared written
      | none =>
        dsimp only
        cases written : made.write place.draft document.text with
        | error error => exact .directories error List.prefix_rfl prepared
        | ok drafted =>
          dsimp only
          cases renamed : orFault faults.rename (drafted.rename place.draft place.path) with
          | error error => exact .draft error document.text prepared written
          | ok after => exact .file prepared written (of_orFault_eq_ok renamed)

/-- A file that is saved reads as what was saved: the draft holds it and takes the place of the
file. -/
theorem Saves.read (saves : Saves place document disk (.ok ()) other) :
    other.read place.path = .ok document.text := by
  cases saves with
  | file prepared written renamed =>
    obtain ⟨draft, leads, free, rfl⟩ := Disk.exists_of_write_eq_ok written
    obtain ⟨old, new, entry, leadsFrom, leadsTo, taken, plain, target, moved⟩ :=
      Disk.exists_of_rename_eq_ok renamed
    -- The draft is found where it was written, so it is what is moved.
    have found := (Disk.keeps_put (.file document.text) free).resolve leads
    rw [leadsFrom] at found
    cases found
    rw [Disk.entry_put_self _ (Disk.isBeginning_eq_false free)] at taken
    cases taken
    -- The path of the file leads where it led, since no directory has gone.
    have standing := (Disk.directory_put_iff plain free draft).not.mpr free
    have keeps : Disk.Keeps _ _ := fun path =>
      (Disk.directory_move_iff plain standing target path).mpr
    have still := keeps.resolve leadsTo
    rw [moved, Disk.read, still]
    dsimp only [bind, Except.bind]
    rw [Disk.entry_put_self _ (Disk.isBeginning_eq_false target)]
    rfl

theorem read_save (saved : (save place faults document disk).1 = .ok ()) :
    (save place faults document disk).2.read place.path = .ok document.text := by
  have saves := saves_save place faults document disk
  rw [saved] at saves
  exact saves.read

/-- Saving fails only for reasons of the disk. -/
theorem exists_io_of_save_eq_error {reason : StoreError}
    (failed : (save place faults document disk).1 = .error reason) :
    ∃ message, reason = .io message := by
  have saves := saves_save place faults document disk
  rw [failed] at saves
  generalize (save place faults document disk).2 = after at saves
  cases saves with
  | nothing | directories | draft => exact ⟨_, rfl⟩

/-- The file can be saved on the disk: its directory can be made, and no directory stands in the way
of the draft or of the file. -/
def Able (place : FilePlace) (disk : Disk) : Prop :=
  ∃ made old new, disk.createDirectories place.directory = .ok made ∧
    made.resolve place.draft = .ok old ∧ made.entry? old ≠ some .directory ∧
    made.resolve place.path = .ok new ∧ made.entry? new ≠ some .directory

/-- A disk on which the file can be saved takes any document, and the file can be saved again. -/
theorem save_of_able (able : Able place disk) (document : Document) :
    (save place .none document disk).1 = .ok () ∧
      Able place (FileStore.save place .none document disk).2 := by
  obtain ⟨made, old, new, directories, leadsFrom, movable, leadsTo, free⟩ := able
  have plain : DiskEntry.file document.text ≠ .directory := DiskEntry.noConfusion
  -- Writing the draft and moving it leave all directories where they are.
  have drafted := Disk.directory_put_iff plain movable
  have moved := Disk.directory_move_iff plain ((drafted old).not.mpr movable)
    ((drafted new).not.mpr free)
  have draftKeeps : made.Keeps _ := fun path => (drafted path).mpr
  have keeps : made.Keeps _ := fun path directory => (moved path).mpr ((drafted path).mpr directory)
  have taken := made.entry_put_self (.file document.text) (Disk.isBeginning_eq_false movable)
  have written := Disk.write_eq_ok leadsFrom movable document.text
  have renamed := Disk.rename_eq_ok (draftKeeps.resolve leadsFrom) (draftKeeps.resolve leadsTo)
    taken ((drafted new).not.mpr free)
  have result : FileStore.save place .none document disk =
      (.ok (), ((made.put old (.file document.text)).remove old).put new
        (.file document.text)) := by
    rw [FileStore.save, DiskFaults.none, directories]
    dsimp only
    rw [written]
    dsimp only
    rw [orFault, renamed]
  rw [result]
  refine ⟨rfl, _, old, new, Disk.makeSteps_of_keeps directories keeps, keeps.resolve leadsFrom, ?_,
    keeps.resolve leadsTo, ?_⟩
  · exact fun directory => movable ((drafted old).mp ((moved old).mp directory))
  · exact fun directory => free ((drafted new).mp ((moved new).mp directory))

/-- The file is missing, or it holds some text. -/
def Clear (place : FilePlace) (disk : Disk) : Prop :=
  disk.read place.path = .error .notFound ∨ ∃ text, disk.read place.path = .ok text

theorem load_ne_io (clear : Clear place disk) (message : String) :
    load place disk ≠ .error (.io message) := by
  intro fails
  rcases clear with missing | ⟨text, read⟩
  · rw [load, missing] at fails
    cases fails
  · rw [load, read] at fails
    dsimp only at fails
    cases parsed : Document.parse text with
    | ok document =>
      rw [parsed] at fails
      cases fails
    | error complaint =>
      rw [parsed] at fails
      cases fails

theorem get_ne_io (clear : Clear place disk) (scope : Scope) (key message : String) :
    (get place scope key disk).1 ≠ .error (.io message) := by
  intro fails
  rw [get] at fails
  cases loaded : load place disk with
  | ok document =>
    rw [loaded] at fails
    cases fails
  | error reason =>
    rw [loaded] at fails
    cases fails
    exact load_ne_io clear message loaded

/-- Setting a variable meets no failure of the disk where the file can be saved, and leaves a disk
where it can be saved and read. -/
theorem set_of_able (able : Able place disk) (clear : Clear place disk) (scope : Scope)
    (key : String) (value : Json) :
    (∀ message, (set place .none scope key value disk).1 ≠ .error (.io message)) ∧
      Able place (set place .none scope key value disk).2 ∧
      Clear place (set place .none scope key value disk).2 := by
  rw [set]
  cases loaded : load place disk with
  | error reason =>
    refine ⟨fun message fails => ?_, able, clear⟩
    cases fails
    exact load_ne_io clear message loaded
  | ok document =>
    obtain ⟨saved, still⟩ := save_of_able able (document.assign scope key value)
    refine ⟨fun message fails => ?_, still, .inr ⟨_, read_save saved⟩⟩
    exact nomatch saved.symm.trans fails

/-! ### The file and the memory -/

/-- The file holds what the memory holds, and can be read. -/
structure Mirrors (place : FilePlace) (disk : Disk) (memory : Memory) : Prop where
  exists_document : ∃ document : Document, load place disk = .ok document ∧
    document.InOrder Json.Legible ∧ ¬document.Deep ∧
      ∀ scope key, document.find? scope key = memory.get? scope key

/-- The file holds something that nests too deep to be read. -/
def Stuck (place : FilePlace) (disk : Disk) : Prop :=
  ∃ position, load place disk = .error (.serialization ⟨.malformed .tooDeep, position⟩)

variable {memory : Memory} {value : Json}

theorem mirrors_nil (missing : disk.read place.path = .error .notFound) :
    Mirrors place disk [] := by
  refine ⟨⟨[], ?_, Dictionary.sorted_nil _, ?_, fun scope key => rfl⟩⟩
  · rw [load, missing]
  · rintro ⟨entry, member, deep⟩
    cases member

theorem Mirrors.get (mirrors : Mirrors place disk memory) (scope : Scope) (key : String) :
    get place scope key disk = (.ok (memory.get? scope key), disk) := by
  obtain ⟨document, loaded, inOrder, shallow, same⟩ := mirrors.exists_document
  rw [FileStore.get, loaded, ← same]
  rfl

/-- A document is loaded from its text with its numbers read once more, unless a value in it is too
deep. -/
theorem load_text (inOrder : document.InOrder Json.WellFormed)
    (read : disk.read place.path = .ok document.text) :
    (¬document.Deep → load place disk = .ok document.reread) ∧
      (document.Deep → Stuck place disk) := by
  obtain ⟨shallow, deep⟩ := Document.parse_text inOrder
  refine ⟨fun flat => ?_, fun nested => ?_⟩
  · rw [load, read]
    dsimp only
    rw [shallow flat]
    rfl
  · obtain ⟨position, fails⟩ := deep nested
    refine ⟨position, ?_⟩
    rw [load, read]
    dsimp only
    rw [fails]
    rfl

/-- A value that the disk takes is set in the file as in the memory, as long as it can be read from
the file; else the file can no longer be read. -/
theorem Mirrors.set (mirrors : Mirrors place disk memory) (faults : DiskFaults) (scope : Scope)
    (key : String) (readable : value.Legible)
    (smooth : ∀ message, (set place faults scope key value disk).1 ≠ .error (.io message)) :
    (FileStore.set place faults scope key value disk).1 = .ok () ∧
      (value.depth ≤ Document.depthLimit →
        Mirrors place (FileStore.set place faults scope key value disk).2
          (memory.set scope key value)) ∧
      (Document.depthLimit < value.depth →
        Stuck place (FileStore.set place faults scope key value disk).2) := by
  obtain ⟨document, loaded, inOrder, shallow, same⟩ := mirrors.exists_document
  rw [FileStore.set, loaded] at smooth ⊢
  dsimp only at smooth ⊢
  have saved : (save place faults (document.assign scope key value) disk).1 = .ok () := by
    cases result : (save place faults (document.assign scope key value) disk).1 with
    | ok done => rfl
    | error reason =>
      obtain ⟨message, rfl⟩ := exists_io_of_save_eq_error result
      exact absurd result (smooth message)
  have inOrder := inOrder.assign scope key readable
  obtain ⟨again, stuck⟩ :=
    load_text (inOrder.imp fun value legible => legible.wellFormed) (read_save saved)
  rw [Document.reread_eq fun entry member field inside =>
    ((inOrder.values entry member).values field inside).readsBack.reread_eq] at again
  refine ⟨saved, fun flat => ?_, fun deep => stuck (Document.deep_assign deep)⟩
  have flat := Document.not_deep_assign scope key shallow flat
  refine ⟨⟨_, again flat, inOrder, flat, fun other otherKey => ?_⟩⟩
  rw [Document.find?_assign]
  split
  · rename_i both
    obtain ⟨rfl, rfl⟩ := both
    exact (memory.get?_set_self scope key value).symm
  · rename_i different
    rw [memory.get?_set_of_ne value different, same]

/-- Once the file cannot be read, looking up any variable fails, and the file stays as it is. -/
theorem Stuck.get (stuck : Stuck place disk) (scope : Scope) (key : String) :
    ∃ position, FileStore.get place scope key disk =
      (.error (.serialization ⟨.malformed .tooDeep, position⟩), disk) := by
  obtain ⟨position, fails⟩ := stuck
  refine ⟨position, ?_⟩
  rw [FileStore.get, fails]
  rfl

/-- Once the file cannot be read, setting any variable fails, and the file stays as it is. -/
theorem Stuck.set (stuck : Stuck place disk) (faults : DiskFaults) (scope : Scope) (key : String)
    (value : Json) :
    ∃ position, FileStore.set place faults scope key value disk =
      (.error (.serialization ⟨.malformed .tooDeep, position⟩), disk) := by
  obtain ⟨position, fails⟩ := stuck
  refine ⟨position, ?_⟩
  rw [FileStore.set, fails]

end FileStore

/-! ### One call after another -/

/-- What a store answers. -/
inductive StoreAnswer where
  | found (result : Except StoreError (Option Json))
  | done (result : Except StoreError Unit)

/-- Why the call failed, if it did. -/
def StoreAnswer.failure? : StoreAnswer → Option StoreError
  | found result => ChatFlow.failure? result
  | done result => ChatFlow.failure? result

/-- The value that is to be set, if one is. -/
def StoreRequest.value? : StoreRequest → Option Json
  | get _ _ => none
  | set _ _ value => some value

namespace Store

/-- What a store in some state answers, and the state it is in then. -/
def answer (store : Store σ) (state : σ) : StoreRequest → StoreAnswer × σ
  | .get scope key => (.found (store.get scope key state).1, (store.get scope key state).2)
  | .set scope key value =>
    (.done (store.set scope key value state).1, (store.set scope key value state).2)

/-- What a store answers to one request after another. -/
def answers (store : Store σ) : σ → List StoreRequest → List StoreAnswer
  | _, [] => []
  | state, request :: requests =>
    (store.answer state request).1 :: answers store (store.answer state request).2 requests

/-- The state of a store behind some requests. -/
def behind (store : Store σ) : σ → List StoreRequest → σ
  | state, [] => state
  | state, request :: requests => behind store (store.answer state request).2 requests

theorem answers_append (store : Store σ) (state : σ) (earlier later : List StoreRequest) :
    store.answers state (earlier ++ later) =
      store.answers state earlier ++ store.answers (store.behind state earlier) later := by
  induction earlier generalizing state with
  | nil => rfl
  | cons request earlier inductionHypothesis =>
    rw [List.cons_append, answers, inductionHypothesis]
    rfl

theorem length_answers (store : Store σ) (state : σ) (requests : List StoreRequest) :
    (store.answers state requests).length = requests.length := by
  induction requests generalizing state with
  | nil => rfl
  | cons request requests inductionHypothesis =>
    rw [answers, List.length_cons, List.length_cons, inductionHypothesis]

end Store

namespace FileStore

variable {place : FilePlace} {disk : Disk} {memory : Memory} {requests : List StoreRequest}

/-- As long as all values can be read from the file, it answers as the memory does, and holds what
the memory holds. -/
theorem Mirrors.answers (mirrors : Mirrors place disk memory)
    (readable : ∀ request ∈ requests, ∀ value ∈ request.value?, value.Legible)
    (shallow : ∀ request ∈ requests, ∀ value ∈ request.value?, value.depth ≤ Document.depthLimit)
    (smooth : ∀ answer ∈ (store place).answers disk requests, ∀ message,
      answer.failure? ≠ some (.io message)) :
    (store place).answers disk requests = Memory.store.answers memory requests ∧
      Mirrors place ((store place).behind disk requests) (Memory.store.behind memory requests) := by
  induction requests generalizing disk memory with
  | nil => exact ⟨rfl, mirrors⟩
  | cons request requests inductionHypothesis =>
    obtain ⟨firstReadable, othersReadable⟩ := List.forall_mem_cons.mp readable
    obtain ⟨firstShallow, othersShallow⟩ := List.forall_mem_cons.mp shallow
    obtain ⟨firstSmooth, othersSmooth⟩ := List.forall_mem_cons.mp smooth
    have step : ((store place).answer disk request).1 = (Memory.store.answer memory request).1 ∧
        Mirrors place ((store place).answer disk request).2
          (Memory.store.answer memory request).2 := by
      cases request with
      | get scope key =>
        have found : (store place).get scope key disk = _ := mirrors.get scope key
        rw [Store.answer, found]
        exact ⟨rfl, mirrors⟩
      | set scope key value =>
        obtain ⟨done, still, -⟩ := mirrors.set .none scope key (firstReadable value rfl)
          fun message fails => firstSmooth message (congrArg failure? fails)
        exact ⟨congrArg StoreAnswer.done done, still (firstShallow value rfl)⟩
    obtain ⟨same, still⟩ :=
      inductionHypothesis step.2 othersReadable othersShallow othersSmooth
    refine ⟨?_, still⟩
    rw [Store.answers, Store.answers, step.1, same]

/-- Once the file cannot be read, every further call fails for that reason. -/
theorem Stuck.answers (stuck : Stuck place disk) (requests : List StoreRequest) :
    ∀ answer ∈ (store place).answers disk requests, ∃ position,
      answer.failure? = some (.serialization ⟨.malformed .tooDeep, position⟩) := by
  induction requests with
  | nil => exact List.forall_mem_nil _
  | cons request requests inductionHypothesis =>
    have step : (∃ position, ((store place).answer disk request).1.failure? =
          some (.serialization ⟨.malformed .tooDeep, position⟩)) ∧
        ((store place).answer disk request).2 = disk := by
      cases request with
      | get scope key =>
        obtain ⟨position, fails⟩ := stuck.get scope key
        have answered : (store place).get scope key disk = _ := fails
        rw [Store.answer, answered]
        exact ⟨⟨position, rfl⟩, rfl⟩
      | set scope key value =>
        obtain ⟨position, fails⟩ := stuck.set .none scope key value
        have answered : (store place).set scope key value disk = _ := fails
        rw [Store.answer, answered]
        exact ⟨⟨position, rfl⟩, rfl⟩
    rw [Store.answers, step.2]
    exact List.forall_mem_cons.mpr ⟨step.1, inductionHypothesis⟩

/-- Where the file can be saved, and is missing or can be read, no call meets a failure of the
disk. -/
theorem smooth_of_able (able : Able place disk) (clear : Clear place disk)
    (requests : List StoreRequest) :
    ∀ answer ∈ (store place).answers disk requests, ∀ message,
      answer.failure? ≠ some (.io message) := by
  induction requests generalizing disk with
  | nil => exact List.forall_mem_nil _
  | cons request requests inductionHypothesis =>
    cases request with
    | get scope key =>
      refine List.forall_mem_cons.mpr ⟨fun message fails => ?_, inductionHypothesis able clear⟩
      exact get_ne_io clear scope key message (eq_error_of_failure? fails)
    | set scope key value =>
      obtain ⟨smooth, able, clear⟩ := set_of_able able clear scope key value
      refine List.forall_mem_cons.mpr ⟨fun message fails => ?_, inductionHypothesis able clear⟩
      exact smooth message (eq_error_of_failure? fails)

/-- From a missing file on, and while the disk does what it is asked, the store in a file answers
every call as the store in memory, as long as no value is set that nests too deep for the file.
Setting the first such value succeeds, too, as it does in memory; but every further call fails then,
since the file can no longer be read. -/
theorem answers_like_memory (place : FilePlace) {disk : Disk}
    (missing : disk.read place.path = .error .notFound) (requests : List StoreRequest)
    (readable : ∀ request ∈ requests, ∀ value ∈ request.value?, value.Legible)
    (smooth : ∀ answer ∈ (store place).answers disk requests, ∀ message,
      answer.failure? ≠ some (.io message)) :
    ((∀ request ∈ requests, ∀ value ∈ request.value?, value.depth ≤ Document.depthLimit) →
      (store place).answers disk requests = Memory.store.answers [] requests) ∧
    ∀ (earlier later : List StoreRequest) (scope : Scope) (key : String) (value : Json),
      requests = earlier ++ .set scope key value :: later →
      (∀ request ∈ earlier, ∀ value ∈ request.value?, value.depth ≤ Document.depthLimit) →
      Document.depthLimit < value.depth →
        ∃ failed, (store place).answers disk requests =
            Memory.store.answers [] (earlier ++ [.set scope key value]) ++ failed ∧
          failed.length = later.length ∧
          ∀ answer ∈ failed, ∃ position,
            answer.failure? = some (.serialization ⟨.malformed .tooDeep, position⟩) := by
  have start := mirrors_nil missing
  refine ⟨fun shallow => (start.answers readable shallow smooth).1, ?_⟩
  rintro earlier later scope key value rfl shallow deep
  obtain ⟨earlierReadable, laterReadable⟩ := List.forall_mem_append.mp readable
  rw [Store.answers_append] at smooth
  obtain ⟨earlierSmooth, laterSmooth⟩ := List.forall_mem_append.mp smooth
  obtain ⟨same, still⟩ := start.answers earlierReadable shallow earlierSmooth
  obtain ⟨done, -, stuck⟩ := still.set .none scope key
    ((List.forall_mem_cons.mp laterReadable).1 value rfl) fun message fails =>
      (List.forall_mem_cons.mp laterSmooth).1 message (congrArg failure? fails)
  refine ⟨_, ?_, Store.length_answers _ _ later, (stuck deep).answers later⟩
  rw [Store.answers_append, same, Store.answers_append, List.append_assoc]
  refine congrArg _ (congrArg₂ List.cons ?_ rfl)
  exact congrArg StoreAnswer.done done

/-- A value inside so many lists, one in the other. -/
def nest (value : Json) : Nat → Json
  | 0 => value
  | levels + 1 => .array [nest value levels]

theorem depth_nest (value : Json) (levels : Nat) :
    (nest value levels).depth = value.depth + levels := by
  induction levels with
  | zero => rfl
  | succ levels inductionHypothesis =>
    rw [nest, Json.depth, Json.depthItems, Json.depthItems, Nat.max_zero, inductionHypothesis,
      Nat.add_assoc]

theorem legible_nest {value : Json} (legible : value.Legible) (levels : Nat) :
    (nest value levels).Legible := by
  induction levels with
  | zero => exact legible
  | succ levels inductionHypothesis =>
    exact ⟨⟨inductionHypothesis.wellFormed, trivial⟩, inductionHypothesis.readsBack, trivial⟩

/-- The user sets a number, then a list with 125 more lists inside it, and then cannot look up the
number, which is found without the list, and found in memory in spite of it. -/
theorem deep_list_locks_file :
    let place : FilePlace := ⟨["data"], "variables.json"⟩
    let user := Scope.user "1"
    let save := StoreRequest.set user "points" (.ofNat 3)
    let deepen := StoreRequest.set user "list" (nest .null 126)
    let look := StoreRequest.get user "points"
    (store place).answers .empty [save, look] =
        [.done (.ok ()), .found (.ok (some (.ofNat 3)))] ∧
      Memory.store.answers [] [save, deepen, look] =
        [.done (.ok ()), .done (.ok ()), .found (.ok (some (.ofNat 3)))] ∧
      ∃ answer position, (store place).answers .empty [save, deepen, look] =
          [.done (.ok ()), .done (.ok ()), answer] ∧
        answer.failure? = some (.serialization ⟨.malformed .tooDeep, position⟩) := by
  intro place user save deepen look
  have missing : Disk.empty.read place.path = .error .notFound := by with_unfolding_all rfl
  have able : Able place .empty := by
    have draft : place.draft = ["data", "variables.json.tmp"] := by decide
    refine ⟨⟨[(["data"], .directory)]⟩, place.draft, place.path, ?_⟩
    rw [draft]
    refine ⟨rfl, rfl, ?_, rfl, ?_⟩ <;> with_unfolding_all decide
  have smooth := smooth_of_able able (.inl missing)
  have fits : (Number.integer 3).WellFormed := ⟨by decide, by decide⟩
  have three : (Json.ofNat 3).Legible := ⟨fits, Number.readsBack_integer fits⟩
  have null : Json.null.Legible := ⟨trivial, trivial⟩
  have readable : ∀ request ∈ [save, deepen, look], ∀ value ∈ request.value?, value.Legible := by
    rintro request (_ | ⟨_, _ | ⟨_, _ | ⟨_, ⟨⟩⟩⟩⟩) value (rfl | _)
    · exact three
    · exact legible_nest null 126
  have shallow : ∀ request ∈ [save, look], ∀ value ∈ request.value?,
      value.Legible ∧ value.depth ≤ Document.depthLimit := by
    rintro request (_ | ⟨_, _ | ⟨_, ⟨⟩⟩⟩) value (rfl | _)
    exact ⟨three, Nat.zero_le _⟩
  have deep : Document.depthLimit < (nest .null 126).depth := by
    rw [depth_nest]
    decide
  have alike := (answers_like_memory place missing [save, look]
    (fun request member value set => (shallow request member value set).1) (smooth _)).1
    fun request member value set => (shallow request member value set).2
  obtain ⟨failed, same, single, fails⟩ :=
    (answers_like_memory place missing [save, deepen, look] readable (smooth _)).2 [save] [look]
      user "list" (nest .null 126) rfl (fun request member value set =>
        (shallow request (List.mem_append_left [look] member) value set).2) deep
  obtain ⟨answer, rfl⟩ := List.length_eq_one_iff.mp single
  obtain ⟨position, reason⟩ := fails answer List.mem_cons_self
  exact ⟨alike.trans rfl, rfl, answer, position, same.trans rfl, reason⟩

end FileStore

end ChatFlow
