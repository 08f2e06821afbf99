/-
This file says what a call to the store in a file leaves as it was, whatever goes wrong during it.

A call that fails may leave directories and a draft behind, but the file is as it was; so a visit
that fails leaves no trace in it either (`FileStore.keepsOnFailure`). A call that sets a variable
writes the whole document anew, so every other value goes through its text once more and comes back
with its numbers read once more. That is the value itself where all its numbers are read as they
were written, which not all doubles are.
-/

import ChatFlow.Proofs.Failures
import ChatFlow.Proofs.Trees
import ChatFlow.Proofs.Yields

namespace ChatFlow

/-! ### Where the file and its draft are -/

namespace FilePlace

variable (place : FilePlace)

/-- Where the directory of the file is, if it is there. -/
def parent : DiskPath :=
  place.directory.lead.follow place.directory.along

/-- Where the file is, if its directory is there. -/
def target : DiskPath :=
  place.parent ++ [place.name]

/-- Where the draft is, if its directory is there. -/
def spare : DiskPath :=
  place.parent ++ [place.draftName]

theorem leads_draft : DiskPath.Leads place.draftName := by
  have long : ∀ step : String, step.length < 9 → place.draftName ≠ step := by
    rintro step short rfl
    rw [draftName, String.length_append] at short
    exact absurd short (Nat.not_lt.mpr (Nat.le_add_left 9 _))
  exact ⟨long _ (by decide), long _ (by decide), long _ (by decide)⟩

/-- What a name has behind its stem begins with its last point. -/
theorem name_eq_stem : place.name = place.stem ∨
    ∃ extension, '.' ∉ extension ∧ place.name.toList = place.stem.toList ++ '.' :: extension := by
  have parts : place.name.toList.reverse.takeWhile (· ≠ '.') ++
      place.name.toList.reverse.dropWhile (· ≠ '.') = place.name.toList.reverse :=
    List.takeWhile_append_dropWhile
  rw [stem]
  split
  · exact .inl rfl
  · rename_i filled
    refine .inr ⟨(place.name.toList.reverse.takeWhile (· ≠ '.')).reverse, fun point => ?_, ?_⟩
    · have other := List.mem_takeWhile_imp (List.mem_reverse.mp point)
      exact absurd rfl (of_decide_eq_true other)
    · have last := List.head?_dropWhile_not (fun letter => decide (letter ≠ '.'))
        place.name.toList.reverse
      cases behind : place.name.toList.reverse.dropWhile (· ≠ '.') with
      | nil =>
        rw [behind] at filled
        exact absurd rfl filled
      | cons letter before =>
        rw [behind] at last parts
        obtain rfl : letter = '.' := by simpa using last
        have whole := congrArg List.reverse parts
        rw [List.reverse_reverse, List.reverse_append, List.reverse_cons, List.append_assoc]
          at whole
        rw [String.toList_ofList]
        exact whole.symm

example : draftName ⟨[], "a.b.json"⟩ = "a.b.json.tmp" ∧
    draftName ⟨[], ".json"⟩ = ".json.json.tmp" := by decide

theorem name_ne_draftName : place.name ≠ place.draftName := by
  intro same
  rw [draftName] at same
  rcases place.name_eq_stem with whole | ⟨extension, free, split⟩
  · have lengths := congrArg String.length same
    rw [String.length_append, whole] at lengths
    exact absurd lengths (Nat.ne_of_lt (Nat.lt_add_of_pos_right (by decide)))
  · rw [same, String.toList_append] at split
    have rest : ".json.tmp".toList = '.' :: extension := List.append_cancel_left split
    rw [← (List.cons.inj rest).2] at free
    exact absurd (by decide) free

/-- The directories on the way to that of the file are no farther out. -/
theorem exists_parent_eq_append (straight : ".." ∉ place.directory) {along further : List String}
    (split : place.directory.along = along ++ further) :
    ∃ more, place.parent = place.directory.lead.follow along ++ more := by
  have others : ".." ∉ further := fun up => straight
    (DiskPath.mem_of_mem_along (split ▸ List.mem_append_right along up))
  obtain ⟨more, out⟩ := DiskPath.exists_follow_eq_append others
    (place.directory.lead.follow along)
  refine ⟨more, ?_⟩
  rw [parent, split, DiskPath.follow, List.foldl_append]
  exact out

theorem target_ne_spare : place.target ≠ place.spare := by
  intro same
  exact place.name_ne_draftName (List.singleton_injective (List.append_cancel_left same))

end FilePlace

/-! ### What a save leaves -/

namespace FileStore

variable {place : FilePlace} {faults : DiskFaults} {document : Document} {disk made after : Disk}
  {result : Except StoreError Unit}

/-- What saving a document leaves on the disk, given where the file and its draft are: what was
there before, directories on the way to the last, some draft, or the file. -/
inductive Outcome (place : FilePlace) (document : Document) (disk : Disk) :
    Except StoreError Unit → Disk → Prop where
  | nothing (reason : StoreError) : Outcome place document disk (.error reason) disk
  | directories {above : DiskPath} {made : Disk} (reason : StoreError)
    (inside : above <+: place.directory) (prepared : disk.createDirectories above = .ok made) :
    Outcome place document disk (.error reason) made
  | draft {made : Disk} (reason : StoreError) (content : String)
    (prepared : disk.createDirectories place.directory = .ok made)
    (movable : made.entry? place.spare ≠ some .directory) :
    Outcome place document disk (.error reason) (made.put place.spare (.file content))
  | file {made : Disk} (prepared : disk.createDirectories place.directory = .ok made)
    (movable : made.entry? place.spare ≠ some .directory)
    (free : made.entry? place.target ≠ some .directory) :
    Outcome place document disk (.ok ())
      (((made.put place.spare (.file document.text)).remove place.spare).put place.target
        (.file document.text))

/-- Once its directories have been made, the file and its draft can be found. -/
theorem resolve_of_createDirectories
    (prepared : disk.createDirectories place.directory = .ok made) :
    made.entry? place.parent = some .directory ∧ ∀ name, DiskPath.Leads name →
      made.resolve (place.directory ++ [name]) = .ok (place.parent ++ [name]) := by
  rw [Disk.createDirectories_eq] at prepared
  have standing := disk.entry_of_isBeginning place.directory.isBeginning_lead
  obtain ⟨directory, follows⟩ := Disk.followSteps_of_makeSteps prepared standing
  refine ⟨directory, fun name leads => ?_⟩
  rw [Disk.resolve, DiskPath.start_concat, follows, DiskPath.step_of_leads leads]
  rfl

/-- What is written to the draft stands in its place. -/
theorem eq_put_of_write {drafted : Disk} {content : String}
    (prepared : disk.createDirectories place.directory = .ok made)
    (written : made.write place.draft content = .ok drafted) :
    made.entry? place.spare ≠ some .directory ∧
      drafted = made.put place.spare (.file content) := by
  obtain ⟨found, leads, free, rfl⟩ := Disk.exists_of_write_eq_ok written
  obtain rfl : place.spare = found :=
    Except.ok.inj (((resolve_of_createDirectories prepared).2 _ place.leads_draft).symm.trans leads)
  exact ⟨free, rfl⟩

/-- What is moved from the draft to the file stands in its place. -/
theorem eq_put_of_rename (leads : DiskPath.Leads place.name)
    (prepared : disk.createDirectories place.directory = .ok made)
    (movable : made.entry? place.spare ≠ some .directory) {content : String}
    (renamed : (made.put place.spare (.file content)).rename place.draft place.path = .ok after) :
    made.entry? place.target ≠ some .directory ∧
      after = ((made.put place.spare (.file content)).remove place.spare).put place.target
        (.file content) := by
  obtain ⟨old, new, entry, leadsFrom, leadsTo, taken, plain, free, rfl⟩ :=
    Disk.exists_of_rename_eq_ok renamed
  obtain ⟨-, resolves⟩ := resolve_of_createDirectories prepared
  have keeps := made.keeps_put (.file content) movable
  obtain rfl : place.spare = old := Except.ok.inj
    ((keeps.resolve (resolves _ place.leads_draft)).symm.trans leadsFrom)
  obtain rfl : place.target = new := Except.ok.inj
    ((keeps.resolve (resolves _ leads)).symm.trans leadsTo)
  rw [Disk.entry_put_self _ (Disk.isBeginning_eq_false movable)] at taken
  cases taken
  rw [Disk.entry_put_of_ne _ place.target_ne_spare] at free
  exact ⟨free, rfl⟩

theorem outcome_save (leads : DiskPath.Leads place.name) (faults : DiskFaults)
    (document : Document) (disk : Disk) :
    Outcome place document disk (save place faults document disk).1
      (save place faults document disk).2 := by
  have saves := saves_save place faults document disk
  generalize (save place faults document disk).1 = result at saves
  generalize (save place faults document disk).2 = after at saves
  cases saves with
  | nothing => exact .nothing _
  | directories _ inside prepared => exact .directories _ inside prepared
  | draft _ content prepared written =>
    obtain ⟨movable, rfl⟩ := eq_put_of_write prepared written
    exact .draft _ content prepared movable
  | file prepared written renamed =>
    obtain ⟨movable, rfl⟩ := eq_put_of_write prepared written
    obtain ⟨free, rfl⟩ := eq_put_of_rename leads prepared movable renamed
    exact .file prepared movable free

/-- Whatever comes of a save, everything still stands in a directory. -/
theorem Outcome.rooted (outcome : Outcome place document disk result after)
    (rooted : disk.Rooted) : after.Rooted := by
  cases outcome with
  | nothing => exact rooted
  | directories _ _ prepared => exact rooted.createDirectories prepared
  | draft _ content prepared movable =>
    obtain ⟨standing, -⟩ := resolve_of_createDirectories prepared
    exact (rooted.createDirectories prepared).put standing movable _
  | @file made prepared movable free =>
    obtain ⟨standing, -⟩ := resolve_of_createDirectories prepared
    have plain : DiskEntry.file document.text ≠ .directory := DiskEntry.noConfusion
    have drafted : (made.put place.spare (.file document.text)).Rooted :=
      (rooted.createDirectories prepared).put standing movable _
    have file := (Disk.directory_put_iff plain movable place.spare).not.mpr movable
    have away : place.parent ≠ place.spare := fun same => movable (same ▸ standing)
    refine (drafted.remove file).put ?_ ?_ _
    · rw [Disk.entry_remove_of_ne away, Disk.entry_put_of_ne _ away, standing]
    · show Disk.entry? _ place.target ≠ _
      rw [Disk.entry_remove_of_ne place.target_ne_spare,
        Disk.entry_put_of_ne _ place.target_ne_spare]
      exact free

/-- Making directories on the way to the file puts nothing in its place. -/
theorem entry_target_of_createDirectories (straight : ".." ∉ place.directory) {above : DiskPath}
    (inside : above <+: place.directory) (prepared : disk.createDirectories above = .ok made) :
    made.entry? place.target = disk.entry? place.target := by
  rw [Disk.createDirectories_eq] at prepared
  rcases DiskPath.lead_along_of_prefix inside with rfl | ⟨lead, rest, whole⟩
  · cases prepared
    rfl
  · refine (Disk.entry_makeSteps prepared place.target).resolve_right ?_
    rintro ⟨-, -, along, further, steps, same⟩
    rw [steps, List.append_assoc] at whole
    obtain ⟨more, out⟩ := place.exists_parent_eq_append straight whole.symm
    -- The directory is reached behind the steps made so far, but the file is in the directory.
    have lengths := congrArg List.length same
    rw [FilePlace.target, out, lead, List.length_append, List.length_append,
      List.length_singleton] at lengths
    omega

theorem resolve_path (place : FilePlace) (disk : Disk) : disk.resolve place.path =
    disk.followSteps place.directory.lead (place.directory.along ++ [place.name]) := by
  rw [Disk.resolve, FilePlace.path, DiskPath.start_concat]

/-- The path of the file leads where the file is, if anywhere. -/
theorem eq_target_of_resolve (leads : DiskPath.Leads place.name) {reached : DiskPath}
    (found : disk.resolve place.path = .ok reached) : reached = place.target := by
  rw [resolve_path] at found
  rw [Disk.eq_follow_of_followSteps found, DiskPath.follow, List.foldl_append]
  exact DiskPath.step_of_leads leads _

/-- If a document is loaded although nothing is in the place of the file, the file was not found. -/
theorem read_of_missing (leads : DiskPath.Leads place.name)
    (loaded : load place disk = .ok document) (missing : disk.entry? place.target = none) :
    disk.read place.path = .error .notFound := by
  cases found : disk.resolve place.path with
  | ok reached =>
    obtain rfl := eq_target_of_resolve leads found
    exact Disk.read_of_entry_eq_none found missing
  | error reason =>
    have fails := Disk.read_of_resolve_eq_error found
    rw [load, fails] at loaded
    cases reason with
    | notFound => exact fails
    | «exists» | notDirectory | isDirectory | notText | other => cases loaded

/-- Where directories are made, a path to a missing file still fails only because something is
missing. -/
theorem eq_notFound_of_resolve_eq_error (rooted : disk.Rooted)
    (leads : DiskPath.Leads place.name) (straight : ".." ∉ place.directory)
    (lost : disk.read place.path = .error .notFound) {above : DiskPath}
    (prepared : disk.createDirectories above = .ok made) {reason : DiskError}
    (fails : made.resolve place.path = .error reason) : reason = .notFound := by
  rw [Disk.createDirectories_eq] at prepared
  rw [resolve_path] at fails
  obtain ⟨along, step, further, split, stuck⟩ := Disk.exists_of_followSteps_eq_error fails
  rw [Disk.checkDirectory] at stuck
  split at stuck
  · exact (Except.error.inj stuck).symm
  · cases stuck
  · -- What is in the place of a directory was there before, and in the way.
    rename_i entry file here
    have before := (Disk.entry_makeSteps prepared _).resolve_right fun new =>
      file (Option.some.inj (here.symm.trans new.2.1))
    have down : ".." ∉ along := by
      intro up
      rcases List.mem_append.mp (split ▸ List.mem_append_left _ up) with inner | last
      · exact straight (DiskPath.mem_of_mem_along inner)
      · exact leads.down (List.mem_singleton.mp last).symm
    have stops : disk.resolve place.path = .error .notDirectory := by
      rw [resolve_path, split]
      exact rooted.followSteps_through_file down (before.symm.trans here) file step further
    cases lost.symm.trans (Disk.read_of_resolve_eq_error stops)

/-- Where directories are made on the way to the file, it reads as before. -/
theorem read_of_createDirectories (rooted : disk.Rooted) (leads : DiskPath.Leads place.name)
    (straight : ".." ∉ place.directory) (loaded : load place disk = .ok document)
    {above : DiskPath} (inside : above <+: place.directory)
    (prepared : disk.createDirectories above = .ok made) :
    made.read place.path = disk.read place.path := by
  have unchanged := entry_target_of_createDirectories straight inside prepared
  by_cases missing : disk.entry? place.target = none
  · have lost := read_of_missing leads loaded missing
    rw [lost]
    cases found : made.resolve place.path with
    | ok reached =>
      obtain rfl := eq_target_of_resolve leads found
      exact Disk.read_of_entry_eq_none found (unchanged.trans missing)
    | error reason =>
      obtain rfl := eq_notFound_of_resolve_eq_error rooted leads straight lost prepared found
      exact Disk.read_of_resolve_eq_error found
  · have found : disk.resolve place.path = .ok place.target := by
      rw [resolve_path]
      exact rooted.followSteps (fun up => straight (DiskPath.mem_of_mem_along up)) leads
        (disk.entry_of_isBeginning place.directory.isBeginning_lead) missing
    rw [Disk.createDirectories_eq] at prepared
    exact Disk.read_congr found ((Disk.keeps_makeSteps prepared).resolve found) unchanged

/-- What a save that fails leaves reads as before. -/
theorem Outcome.read_eq {reason : StoreError}
    (outcome : Outcome place document disk (.error reason) after) (rooted : disk.Rooted)
    (leads : DiskPath.Leads place.name) (straight : ".." ∉ place.directory) {old : Document}
    (loaded : load place disk = .ok old) : after.read place.path = disk.read place.path := by
  cases outcome with
  | nothing => rfl
  | directories _ inside prepared =>
    exact read_of_createDirectories rooted leads straight loaded inside prepared
  | @draft made _ content prepared movable =>
    have found := (resolve_of_createDirectories prepared).2 _ leads
    calc (made.put place.spare (.file content)).read place.path
      _ = made.read place.path :=
        Disk.read_congr found ((made.keeps_put _ movable).resolve found)
          (Disk.entry_put_of_ne _ place.target_ne_spare)
      _ = disk.read place.path :=
        read_of_createDirectories rooted leads straight loaded List.prefix_rfl prepared

end FileStore

/-! ### What stays beside the file -/

/-- Except in some places, whatever is on one disk is on the other, where only directories are
new. -/
def Disk.KeptBeside (places : List DiskPath) (disk other : Disk) : Prop :=
  ∀ path ∉ places, other.entry? path = disk.entry? path ∨
    disk.entry? path = none ∧ other.entry? path = some .directory

namespace FileStore

variable {place : FilePlace} {faults : DiskFaults} {document : Document} {disk made after : Disk}

theorem keptBeside_of_createDirectories {directory : DiskPath}
    (prepared : disk.createDirectories directory = .ok made) :
    disk.KeptBeside [] made := by
  intro path _
  rw [Disk.createDirectories_eq] at prepared
  exact (Disk.entry_makeSteps prepared path).imp_right fun new => ⟨new.1, new.2.1⟩

theorem Outcome.keptBeside_of_error {reason : StoreError}
    (outcome : Outcome place document disk (.error reason) after) :
    disk.KeptBeside [place.spare] after := by
  intro path beside
  cases outcome with
  | nothing => exact .inl rfl
  | directories _ _ prepared =>
    exact keptBeside_of_createDirectories prepared path List.not_mem_nil
  | draft _ content prepared movable =>
    rw [Disk.entry_put_of_ne _ (List.ne_of_not_mem_cons beside)]
    exact keptBeside_of_createDirectories prepared path List.not_mem_nil

theorem Outcome.keptBeside_of_ok (outcome : Outcome place document disk (.ok ()) after) :
    disk.KeptBeside [place.spare, place.target] after := by
  intro path beside
  cases outcome with
  | file prepared movable free =>
    have away : path ≠ place.spare ∧ path ≠ place.target := by simpa using beside
    rw [Disk.entry_put_of_ne _ away.2, Disk.entry_remove_of_ne away.1,
      Disk.entry_put_of_ne _ away.1]
    exact keptBeside_of_createDirectories prepared path List.not_mem_nil

end FileStore

/-! ### What is set -/

/-- When a value is set and all numbers are read once more, another value stays what it was if its
numbers are read as they were written. -/
theorem Document.value?_reread_assign (old : Document) (scope : Scope) (key : String)
    (value : Json) :
    (old.assign scope key value).reread.value? scope.text key = some value.reread ∧
      ∀ other otherKey, ¬(scope.text = other ∧ key = otherKey) →
        (old.assign scope key value).reread.value? other otherKey =
            (old.value? other otherKey).map Json.reread ∧
          ∀ found, old.value? other otherKey = some found → found.ReadsBack →
            (old.assign scope key value).reread.value? other otherKey = some found := by
  refine ⟨?_, fun other otherKey different => ?_⟩
  · rw [value?_reread, value?_assign, if_pos ⟨rfl, rfl⟩]
    rfl
  · rw [value?_reread, value?_assign, if_neg different]
    refine ⟨rfl, fun found here readsBack => ?_⟩
    rw [here, Option.map_some, readsBack.reread_eq]

namespace FileStore

variable {place : FilePlace} {faults : DiskFaults} {document : Document} {disk : Disk}

/-- What is loaded is in order and can be read from its text. -/
theorem inOrder_of_load (loaded : load place disk = .ok document) :
    document.InOrder (Reader.Within Document.depthLimit) := by
  rw [load] at loaded
  split at loaded
  · cases loaded
    exact Dictionary.sorted_nil _
  · cases loaded
  · exact Document.inOrder_of_parse (of_mapError_eq_ok loaded)

/-- What a call that sets a shallow value saves is loaded with its numbers read once more. -/
theorem load_assign (loaded : load place disk = .ok document) {scope : Scope} {key : String}
    {value : Json} (wellFormed : value.WellFormed) (shallow : value.depth ≤ Document.depthLimit)
    (saved : (save place faults (document.assign scope key value) disk).1 = .ok ()) :
    load place (save place faults (document.assign scope key value) disk).2 =
      .ok (document.assign scope key value).reread := by
  have inOrder := (inOrder_of_load loaded).assign scope key ⟨wellFormed, shallow⟩
  refine (load_text (inOrder.imp fun _ within => within.wellFormed) (read_save saved)).1 ?_
  rintro ⟨entry, member, field, inside, deep⟩
  exact Nat.not_lt.mpr ((inOrder.values entry member).values field inside).depth deep

/-! ### One call after another, whatever goes wrong -/

/-- The store, where something goes wrong during each call. -/
def faulty (place : FilePlace) (faults : DiskFaults) : Store Disk where
  get := get place
  set := set place faults

end FileStore

/-- If everything stands in a directory, it still does, and the file reads as before. -/
def Disk.KeepsFile (place : FilePlace) (disk other : Disk) : Prop :=
  disk.Rooted → other.Rooted ∧ other.read place.path = disk.read place.path

namespace FileStore

/-- Calls that fail leave the file as it was, whatever goes wrong during them. -/
theorem keepsOnFailure (leads : DiskPath.Leads place.name) (straight : ".." ∉ place.directory)
    (faults : DiskFaults) : (faulty place faults).KeepsOnFailure (Disk.KeepsFile place) where
  refl _ rooted := ⟨rooted, rfl⟩
  get _ _ _ _ _ rooted := ⟨rooted, rfl⟩
  set scope key value disk reason fails := by
    change (FileStore.set place faults scope key value disk).1 = .error reason at fails
    show disk.KeepsFile place (FileStore.set place faults scope key value disk).2
    rw [FileStore.set] at fails ⊢
    cases loaded : load place disk with
    | error _ => exact fun rooted => ⟨rooted, rfl⟩
    | ok old =>
      rw [loaded] at fails
      dsimp only at fails ⊢
      have outcome := outcome_save leads faults (old.assign scope key value) disk
      rw [fails] at outcome
      exact fun rooted =>
        ⟨outcome.rooted rooted, outcome.read_eq rooted leads straight loaded⟩

/-- A visit that fails leaves the file as it was, whatever went wrong on the disk. -/
theorem keepsFile_of_failed_visit {setting : Setting Disk}
    (stored : setting.store = faulty place faults) (leads : DiskPath.Leads place.name)
    (straight : ".." ∉ place.directory) (node : CompiledNode) (hasHandle : String → Bool)
    (arrival : Arrival) (state : RunState Disk) {reason : StepError}
    (fails : (node.visit setting hasHandle arrival state).outcome = .error reason) :
    state.store.KeepsFile place (node.visit setting hasHandle arrival state).state.store := by
  have keeps : setting.store.KeepsOnFailure (Disk.KeepsFile place) :=
    stored ▸ keepsOnFailure leads straight faults
  exact (node.undisturbed_visit keeps hasHandle arrival state fails).store

end FileStore

/-- A call to a store in a file, and what goes wrong during it. -/
structure FileCall where
  request : StoreRequest
  faults : DiskFaults

/-- A call, its answer, and the disk before and behind it. -/
structure FileStep where
  before : Disk
  call : FileCall
  answer : StoreAnswer
  after : Disk

namespace FileStore

/-- What comes of a call on a disk. -/
def step (place : FilePlace) (disk : Disk) (call : FileCall) : FileStep where
  before := disk
  call := call
  answer := ((faulty place call.faults).answer disk call.request).1
  after := ((faulty place call.faults).answer disk call.request).2

/-- What comes of one call after another. -/
def steps (place : FilePlace) : Disk → List FileCall → List FileStep
  | _, [] => []
  | disk, call :: calls => step place disk call :: steps place (step place disk call).after calls

end FileStore

/-- What a call leaves as it was. -/
structure FileStep.Frame (place : FilePlace) (step : FileStep) : Prop where
  /-- Looking up a variable changes nothing. -/
  get : ∀ scope key, step.call.request = .get scope key → step.after = step.before
  /-- A call that fails may leave directories and a draft, but the file is as it was. -/
  failure : ∀ reason, step.answer.failure? = some reason →
    step.before.KeptBeside [place.spare] step.after ∧
      (".." ∉ place.directory → step.after.read place.path = step.before.read place.path)
  /-- Setting a variable changes no other one, but for the numbers that are read once more. -/
  success : ∀ scope key value, step.call.request = .set scope key value →
    step.answer.failure? = none → value.depth ≤ Document.depthLimit →
      step.before.KeptBeside [place.spare, place.target] step.after ∧
      ∃ old new, FileStore.load place step.before = .ok old ∧
        FileStore.load place step.after = .ok new ∧
        new.value? scope.text key = some value.reread ∧
        ∀ other otherKey, ¬(scope.text = other ∧ key = otherKey) →
          new.value? other otherKey = (old.value? other otherKey).map Json.reread ∧
          ∀ found, old.value? other otherKey = some found → found.ReadsBack →
            new.value? other otherKey = some found

theorem FileStep.frame_of_eq {place : FilePlace} {step : FileStep}
    (same : step.after = step.before)
    (fails : ∀ scope key value, step.call.request = .set scope key value →
      step.answer.failure? ≠ none) : step.Frame place where
  get _ _ _ := same
  failure _ _ := by
    rw [same]
    exact ⟨fun _ _ => .inl rfl, fun _ => rfl⟩
  success scope key value request succeeds := absurd succeeds (fails scope key value request)

namespace FileStore

variable {place : FilePlace} {disk : Disk} {call : FileCall}

theorem rooted_step (leads : DiskPath.Leads place.name) (rooted : disk.Rooted) :
    (step place disk call).after.Rooted := by
  obtain ⟨request, faults⟩ := call
  cases request with
  | get scope key => exact rooted
  | set scope key value =>
    show (set place faults scope key value disk).2.Rooted
    rw [set]
    split
    · exact rooted
    · exact (outcome_save leads _ _ _).rooted rooted

theorem frame_step (leads : DiskPath.Leads place.name) (rooted : disk.Rooted)
    (wellFormed : ∀ value ∈ call.request.value?, value.WellFormed) :
    (step place disk call).Frame place := by
  obtain ⟨request, faults⟩ := call
  cases request with
  | get scope key =>
    refine FileStep.frame_of_eq rfl ?_
    rintro _ _ _ ⟨⟩
  | set scope key value =>
    have answered : (step place disk ⟨.set scope key value, faults⟩) =
        ⟨disk, ⟨.set scope key value, faults⟩, .done (set place faults scope key value disk).1,
          (set place faults scope key value disk).2⟩ := rfl
    rw [answered, set]
    cases loaded : load place disk with
    | error reason =>
      refine FileStep.frame_of_eq rfl ?_
      rintro _ _ _ - ⟨⟩
    | ok old =>
      have outcome := outcome_save leads faults (old.assign scope key value) disk
      refine ⟨?_, fun reason fails => ?_, ?_⟩
      · rintro _ _ ⟨⟩
      · have failed := eq_error_of_failure? fails
        rw [failed] at outcome
        exact ⟨outcome.keptBeside_of_error, fun straight =>
          outcome.read_eq rooted leads straight loaded⟩
      · rintro _ _ _ ⟨⟩ succeeds shallow
        have saved := eq_ok_of_failure? succeeds
        have again := load_assign loaded (wellFormed value rfl) shallow saved
        rw [saved] at outcome
        exact ⟨outcome.keptBeside_of_ok, old, _, loaded, again,
          Document.value?_reread_assign old scope key value⟩

/-- Whatever the file holds and whatever goes wrong, one call after another: looking up a variable
changes nothing, a call that fails leaves the file as it was, and setting a variable to a value that
does not nest too deep changes no other one, except that the others come back with their numbers
read once more; so they are as they were if their numbers are read as they were written. -/
theorem steps_framed (place : FilePlace) (leads : DiskPath.Leads place.name) (rooted : disk.Rooted)
    (calls : List FileCall)
    (wellFormed : ∀ call ∈ calls, ∀ value ∈ call.request.value?, value.WellFormed) :
    ∀ step ∈ steps place disk calls, step.Frame place := by
  induction calls generalizing disk with
  | nil => exact List.forall_mem_nil _
  | cons call calls inductionHypothesis =>
    obtain ⟨first, others⟩ := List.forall_mem_cons.mp wellFormed
    exact List.forall_mem_cons.mpr ⟨frame_step leads rooted first,
      inductionHypothesis (rooted_step leads rooted) others⟩

/-- The number of points is set, and the rate of the same user drifts: it is read from the file as
one double, is written, and is read from then on as the next one. -/
theorem rate_drifts :
    let place : FilePlace := ⟨["data"], "variables.json"⟩
    let user := Scope.user "u1"
    let rate := Number.double (.finite false 0x14484bfeebc2a0 922)
    let below := Number.double (.finite false 0x14484bfeebc29f 922)
    let held : Document := Document.assign [] user "rate" (.number rate)
    let disk := (Disk.empty.put ["data"] .directory).put place.path (.file held.text)
    let call : FileCall := ⟨.set user "points" (.ofNat 3), .none⟩
    ∃ old new, load place disk = .ok old ∧ load place (step place disk call).after = .ok new ∧
      new.value? user.text "points" = some (.ofNat 3) ∧
      old.value? user.text "rate" = some (.number below) ∧
      new.value? user.text "rate" = some (.number rate) := by
  intro place user rate below held disk call
  have leads : DiskPath.Leads place.name := ⟨by decide, by decide, by decide⟩
  have rooted : disk.Rooted := by
    have free : Disk.empty.entry? ([] ++ ["data"]) ≠ some .directory := by decide
    have data := Disk.rooted_empty.put (Disk.empty.entry_of_isBeginning rfl) free .directory
    exact data.put (by decide) (by decide) _
  have three : (Json.ofNat 3).WellFormed := ⟨by decide, by decide⟩
  have canonical : (Json.number rate).WellFormed :=
    ⟨rfl, by decide +kernel, by decide, .inl (by decide +kernel)⟩
  have inOrder : held.InOrder Json.WellFormed :=
    Document.InOrder.assign (Dictionary.sorted_nil _) user "rate" canonical
  have shallow : ¬held.Deep := Document.not_deep_assign user "rate"
    (fun ⟨_, member, _⟩ => nomatch member) (Nat.zero_le _)
  have read : disk.read place.path = .ok held.text := by with_unfolding_all rfl
  have loaded : load place disk = .ok held.reread := (load_text inOrder read).1 shallow
  have able : Able place disk := by
    have draft : place.draft = ["data", "variables.json.tmp"] := by decide
    refine ⟨disk, place.draft, place.path, ?_⟩
    rw [draft]
    refine ⟨rfl, rfl, ?_, rfl, ?_⟩ <;> with_unfolding_all decide
  have saved : (set place .none user "points" (.ofNat 3) disk).1 = .ok () := by
    rw [set, loaded]
    exact (save_of_able able _).1
  have succeeds : (step place disk call).answer.failure? = none := by
    show ChatFlow.failure? (set place .none user "points" (.ofNat 3) disk).1 = none
    rw [saved]
    rfl
  have frame : (step place disk call).Frame place := steps_framed place leads rooted [call]
    (List.forall_mem_singleton.mpr fun value same => Option.some.inj same ▸ three) _
    List.mem_cons_self
  obtain ⟨-, old, new, before, after, points, others⟩ :=
    frame.success user "points" (.ofNat 3) rfl succeeds (Nat.zero_le _)
  obtain rfl : held.reread = old := Except.ok.inj (loaded.symm.trans before)
  have found : held.reread.value? user.text "rate" = some (.number below) := by
    rw [Document.value?_reread, Document.value?_assign, if_pos ⟨rfl, rfl⟩]
    have drifts : rate.reread = below := by decide +kernel
    exact congrArg (fun number => some (Json.number number)) drifts
  refine ⟨_, new, before, after, points, found, ?_⟩
  rw [(others user.text "rate" (by decide)).1, found]
  have back : below.reread = rate := by decide +kernel
  exact congrArg (fun number => some (Json.number number)) back

end FileStore

end ChatFlow
