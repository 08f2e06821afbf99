/-
This file says how a disk hangs together: everything on it stands in a directory.

Every operation keeps a disk so (`Disk.Rooted`). On such a disk a path that never goes up leads to
whatever stands where its names say (`Disk.Rooted.followSteps`), and making directories adds nothing
else and nothing farther out than the directory that was asked for (`Disk.entry_makeSteps`).
-/

import ChatFlow.Proofs.Files

namespace ChatFlow

namespace DiskPath

variable {path : DiskPath} {name step : String} {steps : List String}

/-! ### Steps -/

/-- The step leads to something in a directory: it neither stays there nor goes up. -/
structure Leads (step : String) : Prop where
  some : step ≠ ""
  away : step ≠ "."
  down : step ≠ ".."

/-- A step stays, leads farther out, or goes up. -/
theorem step_cases (path : DiskPath) (step : String) :
    path.step step = path ∨ path.step step = path ++ [step] ∨ path.step step = path.dropLast := by
  rw [DiskPath.step]
  split
  · exact .inl rfl
  · split
    · rename_i up
      split
      · exact .inl rfl
      · split
        · exact .inr (.inl (up ▸ rfl))
        · exact .inr (.inr rfl)
    · exact .inr (.inl rfl)

theorem step_of_leads (leads : Leads step) (path : DiskPath) : path.step step = path ++ [step] := by
  rw [DiskPath.step, if_neg (by simp [leads.some, leads.away]), if_neg leads.down]

/-- Where further steps lead from a path, if they lead anywhere. -/
def follow (path : DiskPath) (steps : List String) : DiskPath :=
  steps.foldl DiskPath.step path

/-- Steps of which none goes up lead farther out. -/
theorem exists_follow_eq_append (straight : ".." ∉ steps) (path : DiskPath) :
    ∃ more, path.follow steps = path ++ more := by
  induction steps generalizing path with
  | nil => exact ⟨[], (List.append_nil path).symm⟩
  | cons step steps inductionHypothesis =>
    obtain ⟨down, others⟩ := not_or.mp (List.mem_cons.not.mp straight)
    obtain ⟨more, same⟩ := inductionHypothesis others (path.step step)
    rw [follow, List.foldl_cons, ← follow, same, DiskPath.step]
    split
    · exact ⟨more, rfl⟩
    · rw [if_neg (Ne.symm down)]
      exact ⟨step :: more, List.append_assoc path [step] more⟩

/-- Only from beginnings does one step lead to a beginning. -/
theorem isBeginning_of_concat (beginning : isBeginning (path ++ [step]) = true) :
    path.isBeginning = true := by
  rw [isBeginning, Bool.or_eq_true, decide_eq_true_eq] at beginning ⊢
  rcases beginning with root | up
  · obtain ⟨rfl, -⟩ := List.append_eq_singleton_iff.mp root |>.resolve_right
      fun both => List.cons_ne_nil _ _ both.2
    exact .inr rfl
  · rw [List.all_append, Bool.and_eq_true] at up
    exact .inr up.1

/-- Where a path with a name behind it begins. -/
def lead : DiskPath → DiskPath
  | "" :: _ => [""]
  | _ => []

/-- The steps to the directory of a path with a name behind it. -/
def along : DiskPath → List String
  | "" :: steps => steps
  | steps => steps

theorem isBeginning_lead (directory : DiskPath) : directory.lead.isBeginning = true := by
  unfold lead
  split <;> rfl

theorem start_concat (directory : DiskPath) (name : String) :
    start (directory ++ [name]) = (directory.lead, directory.along ++ [name]) := by
  unfold lead along
  split
  · rename_i steps
    cases steps <;> rfl
  · rename_i inner
    unfold start
    split
    · rename_i step steps same
      cases directory with
      | nil => cases (List.cons.inj same).2
      | cons first rest =>
        obtain ⟨rfl, -⟩ := List.cons.inj same
        exact absurd rfl (inner rest)
    · rfl

/-- The beginning of a path begins where the path does, unless nothing of it is left. -/
theorem lead_along_of_prefix {above directory : DiskPath} (inside : above <+: directory) :
    above = [] ∨ above.lead = directory.lead ∧ above.along <+: directory.along := by
  obtain ⟨further, rfl⟩ := inside
  cases above with
  | nil => exact .inl rfl
  | cons first rest =>
    refine .inr ?_
    unfold lead along
    rw [List.cons_append]
    by_cases empty : first = ""
    · rw [empty]
      exact ⟨rfl, further, rfl⟩
    · simp [empty]

theorem mem_of_mem_along {directory : DiskPath} (member : step ∈ directory.along) :
    step ∈ directory := by
  unfold along at member
  split at member
  · exact List.mem_cons_of_mem _ member
  · exact member

end DiskPath

namespace Disk

variable {disk other : Disk} {path reached target : DiskPath} {name step : String}
  {steps : List String}

theorem createDirectories_eq (disk : Disk) (directory : DiskPath) :
    disk.createDirectories directory = disk.makeSteps directory.lead directory.along := by
  unfold createDirectories DiskPath.lead DiskPath.along
  split
  · rename_i steps
    cases steps <;> rfl
  · rename_i inner
    unfold DiskPath.start
    split
    · exact absurd rfl (inner _)
    · rfl

/-! ### Everything in a directory -/

/-- Everything on the disk stands in a directory. -/
def Rooted (disk : Disk) : Prop :=
  ∀ path step, disk.entry? (path ++ [step]) ≠ none → disk.entry? path = some .directory

theorem entry_of_isBeginning (disk : Disk) (beginning : path.isBeginning = true) :
    disk.entry? path = some .directory :=
  if_pos beginning

theorem rooted_empty : Rooted .empty := by
  intro path step found
  have beginning : DiskPath.isBeginning (path ++ [step]) = true := by
    by_contra inner
    exact found (if_neg inner)
  exact entry_of_isBeginning _ (DiskPath.isBeginning_of_concat beginning)

/-- What is put into a directory stands in it. -/
theorem Rooted.put (rooted : disk.Rooted) (standing : disk.entry? path = some .directory)
    (free : disk.entry? (path ++ [name]) ≠ some .directory) (entry : DiskEntry) :
    (disk.put (path ++ [name]) entry).Rooted := by
  intro other step found
  refine keeps_put entry free other ?_
  by_cases same : other ++ [step] = path ++ [name]
  · rw [(List.append_inj' same rfl).1, standing]
  · rw [entry_put_of_ne entry same] at found
    exact rooted other step found

/-- Nothing stands in a file that is removed. -/
theorem Rooted.remove (rooted : disk.Rooted) (file : disk.entry? target ≠ some .directory) :
    (disk.remove target).Rooted := by
  intro other step found
  by_cases same : other ++ [step] = target
  · rw [same, entry_remove_self (isBeginning_eq_false file)] at found
    exact absurd rfl found
  · rw [entry_remove_of_ne same] at found
    have standing := rooted other step found
    have away : other ≠ target := by
      rintro rfl
      exact file standing
    rw [entry_remove_of_ne away, standing]

/-- From a directory a step leads to something new only if it leads farther out. -/
theorem Rooted.step_eq (rooted : disk.Rooted) (standing : disk.entry? path = some .directory)
    (missing : disk.entry? (path.step step) = none) : path.step step = path ++ [step] := by
  rcases path.step_cases step with same | same | same
  · rw [same, standing] at missing
    cases missing
  · exact same
  · rw [same] at missing
    rcases List.eq_nil_or_concat' path with rfl | ⟨above, last, rfl⟩
    · exact absurd (standing.symm.trans missing) (Option.some_ne_none _)
    · rw [List.dropLast_concat, rooted above last (standing ▸ Option.some_ne_none _)] at missing
      cases missing

theorem Rooted.makeSteps (rooted : disk.Rooted) (standing : disk.entry? reached = some .directory)
    (made : disk.makeSteps reached steps = .ok other) : other.Rooted := by
  induction steps generalizing disk reached with
  | nil =>
    cases made
    exact rooted
  | cons step steps inductionHypothesis =>
    rw [Disk.makeSteps] at made
    split at made
    · exact inductionHypothesis rooted ‹_› made
    · cases made
    · rename_i missing
      have free := ne_directory_of_eq_none missing
      refine inductionHypothesis ?_ (entry_put_self .directory (isBeginning_eq_false free)) made
      rw [rooted.step_eq standing missing] at free ⊢
      exact rooted.put standing free .directory

theorem Rooted.createDirectories {directory : DiskPath} (rooted : disk.Rooted)
    (made : disk.createDirectories directory = .ok other) : other.Rooted := by
  rw [createDirectories_eq] at made
  exact rooted.makeSteps (disk.entry_of_isBeginning directory.isBeginning_lead) made

/-- The directories on the way to anything are there. -/
theorem Rooted.of_append (rooted : disk.Rooted) (more : List String)
    (found : disk.entry? (path ++ (more ++ [name])) ≠ none) :
    disk.entry? path = some .directory := by
  induction more generalizing path with
  | nil => exact rooted path name found
  | cons step more inductionHypothesis =>
    rw [List.cons_append, List.append_cons] at found
    refine rooted path step ?_
    rw [inductionHypothesis found]
    exact Option.some_ne_none _

/-! ### Where paths lead -/

/-- On a disk where everything stands in a directory, steps of which none goes up lead to whatever
is where their names say. -/
theorem Rooted.followSteps (rooted : disk.Rooted) (straight : ".." ∉ steps)
    (leads : DiskPath.Leads name) (standing : disk.entry? reached = some .directory)
    (found : disk.entry? (reached.follow steps ++ [name]) ≠ none) :
    disk.followSteps reached (steps ++ [name]) = .ok (reached.follow steps ++ [name]) := by
  induction steps generalizing reached with
  | nil =>
    rw [List.nil_append, Disk.followSteps, checkDirectory_eq_ok.mpr standing]
    exact congrArg Except.ok (DiskPath.step_of_leads leads reached)
  | cons step steps inductionHypothesis =>
    have others : ".." ∉ steps := fun up => straight (List.mem_cons_of_mem _ up)
    obtain ⟨more, same⟩ := DiskPath.exists_follow_eq_append others (reached.step step)
    have out : reached.follow (step :: steps) ++ [name] =
        reached.step step ++ (more ++ [name]) := by
      rw [← List.append_assoc, ← same]
      rfl
    have next := rooted.of_append more (out ▸ found)
    rw [List.cons_append, Disk.followSteps, checkDirectory_eq_ok.mpr standing]
    exact inductionHypothesis others next found

/-- Steps that lead somewhere lead where they say. -/
theorem eq_follow_of_followSteps (leads : disk.followSteps reached steps = .ok target) :
    target = reached.follow steps := by
  induction steps generalizing reached with
  | nil => exact (Except.ok.inj leads).symm
  | cons step steps inductionHypothesis =>
    obtain ⟨-, -, further⟩ := exists_of_bind_eq_ok leads
    exact inductionHypothesis further

/-- Steps that lead nowhere end where a step begins in no directory. -/
theorem exists_of_followSteps_eq_error {reason : DiskError}
    (fails : disk.followSteps reached steps = .error reason) :
    ∃ along step further, steps = along ++ step :: further ∧
      disk.checkDirectory (reached.follow along) = .error reason := by
  induction steps generalizing reached with
  | nil => cases fails
  | cons step steps inductionHypothesis =>
    rw [Disk.followSteps] at fails
    cases here : disk.checkDirectory reached with
    | error cause =>
      rw [here] at fails
      cases fails
      exact ⟨[], step, steps, rfl, here⟩
    | ok _ =>
      rw [here] at fails
      obtain ⟨along, last, further, rfl, missing⟩ := inductionHypothesis fails
      exact ⟨step :: along, last, further, rfl, missing⟩

/-- No step leads on from a file. -/
theorem followSteps_of_file {entry : DiskEntry} (found : disk.entry? reached = some entry)
    (file : entry ≠ .directory) (step : String) (further : List String) :
    disk.followSteps reached (step :: further) = .error .notDirectory := by
  rw [Disk.followSteps, checkDirectory, found]
  cases entry with
  | directory => exact absurd rfl file
  | file | unreadable => rfl

/-- On a disk where everything stands in a directory, steps of which none goes up lead to a file on
their way and no farther. -/
theorem Rooted.followSteps_through_file (rooted : disk.Rooted) {along : List String}
    (straight : ".." ∉ along) {entry : DiskEntry}
    (found : disk.entry? (reached.follow along) = some entry) (file : entry ≠ .directory)
    (step : String) (further : List String) :
    disk.followSteps reached (along ++ step :: further) = .error .notDirectory := by
  induction along generalizing reached with
  | nil => exact followSteps_of_file found file step further
  | cons next along inductionHypothesis =>
    cases here : disk.entry? reached with
    | none =>
      -- What is on the way to the file would be missing.
      obtain ⟨more, out⟩ := DiskPath.exists_follow_eq_append straight reached
      rw [out] at found
      rcases List.eq_nil_or_concat' more with rfl | ⟨between, last, rfl⟩
      · rw [List.append_nil, here] at found
        cases found
      · rw [rooted.of_append between (found ▸ Option.some_ne_none _)] at here
        cases here
    | some other =>
      by_cases directory : other = .directory
      · rw [List.cons_append, Disk.followSteps, checkDirectory_eq_ok.mpr (directory ▸ here)]
        exact inductionHypothesis (fun up => straight (List.mem_cons_of_mem _ up)) found
      · exact followSteps_of_file here directory next (along ++ step :: further)

/-- What is read depends only on what is where the path leads. -/
theorem read_congr (leads : disk.resolve path = .ok target)
    (otherLeads : other.resolve path = .ok target)
    (same : other.entry? target = disk.entry? target) : other.read path = disk.read path := by
  rw [read, read, leads, otherLeads]
  dsimp only [bind, Except.bind]
  rw [same]

theorem read_of_entry_eq_none (leads : disk.resolve path = .ok target)
    (missing : disk.entry? target = none) : disk.read path = .error .notFound := by
  rw [read, leads]
  dsimp only [bind, Except.bind]
  rw [missing]

theorem read_of_resolve_eq_error {reason : DiskError} (fails : disk.resolve path = .error reason) :
    disk.read path = .error reason := by
  rw [read, fails]
  rfl

/-! ### Making directories -/

/-- What is new where directories have been made is a directory on the way. -/
theorem entry_makeSteps (made : disk.makeSteps reached steps = .ok other) (path : DiskPath) :
    other.entry? path = disk.entry? path ∨
      disk.entry? path = none ∧ other.entry? path = some .directory ∧
        ∃ along further, steps = along ++ further ∧ path = reached.follow along := by
  induction steps generalizing disk reached with
  | nil =>
    cases made
    exact .inl rfl
  | cons step steps inductionHypothesis =>
    rw [makeSteps] at made
    split at made
    · rcases inductionHypothesis made with same | ⟨missing, new, along, further, rfl, out⟩
      · exact .inl same
      · exact .inr ⟨missing, new, step :: along, further, rfl, out⟩
    · cases made
    · rename_i missing
      have new := disk.entry_put_self .directory
        (isBeginning_eq_false (ne_directory_of_eq_none missing))
      by_cases same : path = reached.step step
      · refine .inr ⟨same ▸ missing, ?_, [step], steps, rfl, same⟩
        rw [same]
        exact keeps_makeSteps made _ new
      · rw [← disk.entry_put_of_ne .directory same]
        rcases inductionHypothesis made with same | ⟨missing, new, along, further, rfl, out⟩
        · exact .inl same
        · exact .inr ⟨missing, new, step :: along, further, rfl, out⟩

/-- Once directories have been made, the last of them is there, and a name in it can be followed. -/
theorem followSteps_of_makeSteps (made : disk.makeSteps reached steps = .ok other)
    (standing : disk.entry? reached = some .directory) :
    other.entry? (reached.follow steps) = some .directory ∧
      ∀ name, other.followSteps reached (steps ++ [name]) =
        .ok ((reached.follow steps).step name) := by
  induction steps generalizing disk reached with
  | nil =>
    cases made
    refine ⟨standing, fun name => ?_⟩
    rw [List.nil_append, followSteps, checkDirectory_eq_ok.mpr standing]
    rfl
  | cons step steps inductionHypothesis =>
    have still := keeps_makeSteps made _ standing
    have next : other.entry? ((reached.step step).follow steps) = some .directory ∧
        ∀ name, other.followSteps (reached.step step) (steps ++ [name]) =
          .ok (((reached.step step).follow steps).step name) := by
      rw [makeSteps] at made
      split at made
      · exact inductionHypothesis made ‹_›
      · cases made
      · have free := isBeginning_eq_false (ne_directory_of_eq_none ‹_›)
        exact inductionHypothesis made (entry_put_self .directory free)
    refine ⟨next.1, fun name => ?_⟩
    rw [List.cons_append, followSteps, checkDirectory_eq_ok.mpr still]
    exact next.2 name

end Disk

end ChatFlow
