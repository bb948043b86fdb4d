import NameTagger.Proofs.Training.Lock

/-!
# The model behind a training run

A run is a success if something is at the place of the model when the trainer has come back.  What
was there before the run counts as well.

* `result_run_of_info`: the result of a run whose trainer came back;
* `exists_of_success`: what a success says about the trainer;
* `run_product`, `run_product_stale`: what a run tells about the model file, and about an older one.
-/

namespace NameTagger

namespace Training

variable {files : Files} {name : String}

/-- A fault of the lock or of the trainer leaves no success. -/
theorem exists_of_success_conclude {counts : Counts} {target : Target} {work : Work}
    {result : Result} (h : (conclude (.ofCounts counts) target work).result = .ok result)
    (hsuccess : result.success = true) : ∃ returned, work.outcome = .ok returned := by
  cases houtcome : work.outcome with
  | ok returned => exact ⟨returned, rfl⟩
  | error fault =>
    rw [result_conclude_of_error _ target houtcome] at h
    split at h
    · rw [← Except.ok.inj h] at hsuccess
      cases hsuccess
    · cases h

/-- The work of a trainer comes back if the lock was taken and released, and the trainer came
back. -/
theorem exists_of_outcome_locked {trainer : Trainer} {task : Task} {processId : Nat}
    {returned : Float × Info} (h : (locked processId trainer task files).outcome = .ok returned) :
    ∃ taken info, takeLock processId task.target files = .ok taken ∧
      (releaseLock task.target (trainer task taken).files).2 = .ok () ∧
      (trainer task taken).outcome = .ok info := by
  cases htake : takeLock processId task.target files with
  | error fault =>
    rw [locked_of_error htake] at h
    cases h
  | ok taken =>
    rw [outcome_locked htake] at h
    cases hrelease : (releaseLock task.target (trainer task taken).files).2 with
    | error fault =>
      rw [hrelease] at h
      cases h
    | ok _ =>
      cases hinfo : (trainer task taken).outcome with
      | error fault =>
        rw [hrelease, hinfo] at h
        cases h
      | ok info => exact ⟨taken, info, rfl, hrelease, hinfo⟩

section

variable {job : Job} {corpus : Corpus} (hne : corpus ≠ [])
include hne

/-- Where the trainer came back, the model file is looked for in the files that it left. -/
theorem result_run_of_return {trainer : Trainer} (htrainer : job.trainer? = some trainer)
    {start : Start} (hstart : (run job corpus files).start? = some start)
    (hrelease : (releaseLock job.target (trainer start.task start.files).files).2 = .ok ())
    {info : Info} (h : (trainer start.task start.files).outcome = .ok info) :
    ∃ counts, (run job corpus files).result =
      (inspect { Result.ofCounts counts with seconds := (trainer start.task start.files).seconds }
        job.target info (releaseLock job.target (trainer start.task start.files).files).1).map
          (·.2) := by
  obtain ⟨_, vocabulary, instances, messages, htrainer', -, htask, htake, hrun⟩ :=
    exists_of_start?_run hne hstart
  obtain rfl := Option.some.inj (htrainer.symm.trans htrainer')
  have htarget : start.task.target = job.target := by rw [htask]
  rw [← htarget] at htake hrelease
  have houtcome : (locked job.processId trainer start.task files).outcome =
      .ok ((trainer start.task start.files).seconds, info) := by
    rw [outcome_locked htake, hrelease, h]
    rfl
  refine ⟨countsOf corpus vocabulary instances, ?_⟩
  rw [hrun, Run.after, result_conclude_of_ok _ _ houtcome, files_locked htake, htarget]

/-- The result then tells what is at the place of the model. -/
theorem result_run_of_info {trainer : Trainer} (htrainer : job.trainer? = some trainer)
    (hname : job.target = .path name) {start : Start}
    (hstart : (run job corpus files).start? = some start)
    (hrelease : (releaseLock job.target (trainer start.task start.files).files).2 = .ok ())
    {info : Info} (h : (trainer start.task start.files).outcome = .ok info) :
    ∃ counts, (run job corpus files).result =
      .ok (.of counts (trainer start.task start.files).seconds
        (productOf name info ((trainer start.task start.files).files.find name))) := by
  obtain ⟨counts, hresult⟩ := result_run_of_return hne htrainer hstart hrelease h
  refine ⟨counts, ?_⟩
  rw [hresult, hname, inspect_path, find_releaseLock_target]

/-- Behind a success there is a trainer that was called and came back, and its lock was released. -/
theorem exists_of_success {trainer : Trainer} (htrainer : job.trainer? = some trainer)
    {result : Result} (h : (run job corpus files).result = .ok result)
    (hsuccess : result.success = true) :
    ∃ start info, (run job corpus files).start? = some start ∧
      (trainer start.task start.files).outcome = .ok info ∧
      (releaseLock job.target (trainer start.task start.files).files).2 = .ok () := by
  rcases run_cases job hne files with ⟨hnone, -⟩ | ⟨fault, messages, -, hrun⟩ |
    ⟨called, vocabulary, instances, messages, hcalled, -, hrun⟩
  · rw [hnone] at htrainer
    cases htrainer
  · rw [hrun] at h
    cases h
  · obtain rfl := Option.some.inj (htrainer.symm.trans hcalled)
    let task : Task := ⟨instances, vocabulary, job.target, job.hyperparameters⟩
    have hresult : (conclude (.ofCounts (countsOf corpus vocabulary instances)) job.target
        (locked job.processId trainer task files)).result = .ok result := by
      rw [← h, hrun, Run.after]
    obtain ⟨returned, hreturned⟩ := exists_of_success_conclude hresult hsuccess
    obtain ⟨taken, info, htake, hrelease, hinfo⟩ := exists_of_outcome_locked hreturned
    refine ⟨⟨task, taken⟩, info, ?_, hinfo, hrelease⟩
    rw [hrun, start?_after, start?_conclude, start?_locked, htake]
    rfl

/-- A trainer finds the place of the model as the run found it. -/
theorem find_of_start?_run (hname : job.target = .path name) {start : Start}
    (hstart : (run job corpus files).start? = some start) :
    start.files.find name = files.find name := by
  obtain ⟨-, -, -, -, -, -, -, htake, -⟩ := exists_of_start?_run hne hstart
  rw [hname] at htake
  exact find_takeLock_target htake

end

/-! ### Runs that come back -/

/-- The work of a trainer that fails in no other way than that of training does not, either. -/
theorem isTrainingFailure_of_locked {trainer : Trainer} {task : Task} {processId : Nat}
    (htrainer : ∀ task files fault, (trainer task files).outcome = .error fault →
      isTrainingFailure fault = true) {fault : Fault}
    (h : (locked processId trainer task files).outcome = .error fault) :
    isTrainingFailure fault = true := by
  cases htake : takeLock processId task.target files with
  | error refused =>
    rw [locked_of_error htake] at h
    rw [← Except.error.inj h]
    exact isTrainingFailure_of_takeLock htake
  | ok taken =>
    rw [outcome_locked htake] at h
    cases hrelease : (releaseLock task.target (trainer task taken).files).2 with
    | error refused =>
      rw [hrelease] at h
      rw [← Except.error.inj h]
      exact isTrainingFailure_of_releaseLock hrelease
    | ok _ =>
      rw [hrelease] at h
      cases houtcome : (trainer task taken).outcome with
      | error raised =>
        rw [houtcome] at h
        rw [← Except.error.inj h]
        exact htrainer task taken raised houtcome
      | ok info =>
        rw [houtcome] at h
        cases h

/-- A run with groups and a place for its model comes back, unless its trainer fails in another way
than that of training. -/
theorem exists_result_run {job : Job} (hname : job.target = .path name) {groups : List String}
    (hgroups : job.groups.names = .ok groups)
    (htrainer : ∀ trainer ∈ job.trainer?, ∀ task files fault,
      (trainer task files).outcome = .error fault → isTrainingFailure fault = true)
    (corpus : Corpus) (files : Files) :
    ∃ result, (run job corpus files).result = .ok result := by
  by_cases hne : corpus = []
  · rw [hne]
    exact ⟨_, rfl⟩
  rcases run_cases job hne files with ⟨-, hrun⟩ | ⟨fault, messages, hfault, -⟩ |
    ⟨trainer, vocabulary, instances, messages, hcalled, -, hrun⟩
  · rw [hrun]
    exact ⟨_, rfl⟩
  · obtain ⟨vocabulary, instances, hprepare, -⟩ := prepare_ofNames groups corpus
    rw [prepare_of_names hgroups, hprepare] at hfault
    cases hfault
  · let task : Task := ⟨instances, vocabulary, job.target, job.hyperparameters⟩
    rw [hrun, Run.after]
    cases houtcome : (locked job.processId trainer task files).outcome with
    | error fault =>
      rw [result_conclude_of_error _ _ houtcome,
        if_pos (isTrainingFailure_of_locked (htrainer trainer hcalled) houtcome)]
      exact ⟨_, rfl⟩
    | ok returned =>
      rw [result_conclude_of_ok _ _ houtcome, hname, inspect_path]
      exact ⟨_, rfl⟩

/-! ### The model file -/

/-- A run is a success only if its trainer came back and something is then at the place of the
model, whose size it tells.  That is the work of the trainer if nothing was there before the run.
If the trainer came back and nothing is there, the result says so; but if the trainer left the place
alone, the run is a success exactly if something was there before. -/
theorem run_product {job : Job} {trainer : Trainer} (htrainer : job.trainer? = some trainer)
    (hname : job.target = .path name) (hspares : trainer.Spares job.target.lockPath)
    {corpus : Corpus} (hne : corpus ≠ []) (files : Files) :
    (∀ result, (run job corpus files).result = .ok result → result.success = true →
      ∃ start info node, (run job corpus files).start? = some start ∧
        start.files.find name = files.find name ∧
        (trainer start.task start.files).outcome = .ok info ∧
        (trainer start.task start.files).files.find name = .ok node ∧
        result.modelPath? = some name ∧ result.modelSize = node.size) ∧
    ∀ start info, (run job corpus files).start? = some start →
      (trainer start.task start.files).outcome = .ok info →
      ∃ result, (run job corpus files).result = .ok result ∧
        ((trainer start.task start.files).files.contains name = false →
          result.success = false ∧
          result.errorMessage? = some ("Trainer did not write a model to " ++ name)) ∧
        ((trainer start.task start.files).files.find name = start.files.find name →
          (result.success = true ↔ files.contains name = true)) := by
  constructor
  · intro result hresult hsuccess
    obtain ⟨start, info, hstart, hinfo, hrelease⟩ :=
      exists_of_success hne htrainer hresult hsuccess
    obtain ⟨counts, hrun⟩ := result_run_of_info hne htrainer hname hstart hrelease hinfo
    obtain rfl := Except.ok.inj (hresult.symm.trans hrun)
    cases hfind : (trainer start.task start.files).files.find name with
    | error refusal =>
      rw [hfind] at hsuccess
      cases hsuccess
    | ok node =>
      exact ⟨start, info, node, hstart, find_of_start?_run hne hname hstart, hinfo, hfind, rfl, rfl⟩
  · intro start info hstart hinfo
    obtain ⟨_, _, _, _, _, _, htask, htake, -⟩ := exists_of_start?_run hne hstart
    have hrelease : (releaseLock job.target (trainer start.task start.files).files).2 = .ok () := by
      have htarget : start.task.target = job.target := by rw [htask]
      rw [← htarget] at hspares htake ⊢
      exact release_of_spares hspares htake
    obtain ⟨counts, hrun⟩ := result_run_of_info hne htrainer hname hstart hrelease hinfo
    refine ⟨_, hrun, ?_, ?_⟩
    · intro hcontains
      rw [Files.contains] at hcontains
      cases hfind : (trainer start.task start.files).files.find name with
      | error refusal => exact ⟨rfl, rfl⟩
      | ok node =>
        rw [hfind] at hcontains
        cases hcontains
    · intro hfind
      rw [hfind, find_of_start?_run hne hname hstart, Files.contains]
      cases files.find name <;> simp [Result.of, productOf, Except.toBool]

/-- A trainer that does nothing makes no model in an empty directory. -/
theorem run_product_empty :
    let job : Job := ⟨.path "m", .defaults, .all, some Engine.idle.trainer, 1⟩
    let corpus : Corpus := [[⟨"Smith", "Surname"⟩]]
    ∃ result, (run job corpus (.empty [])).result = .ok result ∧ result.success = false ∧
      result.errorMessage? = some "Trainer did not write a model to m" := by
  intro job corpus
  have hne : corpus ≠ [] := List.cons_ne_nil _ _
  have htrainer : job.trainer? = some Engine.idle.trainer := rfl
  have hgroups : job.groups.names = .ok Feature.Group.names := GroupChoice.names_ofNames _
  have hspares : Engine.idle.trainer.Spares job.target.lockPath :=
    ⟨fun _ _ => rfl, fun _ _ h => h⟩
  have hfree : (Files.empty []).find "m.lock" = .error .missing :=
    Files.find_of_notMem rfl (by decide) (by decide) (by decide) (by decide)
  obtain ⟨taken, htake⟩ : ∃ taken, takeLock 1 (.path "m") (.empty []) = .ok taken :=
    exists_takeLock 1 rfl (by decide) (by decide) (by decide) hfree
  obtain ⟨task, hstart⟩ := exists_start?_run hne htrainer hgroups htake
  obtain ⟨-, hreturn⟩ := run_product htrainer rfl hspares hne (.empty [])
  obtain ⟨result, hresult, hmissing, -⟩ := hreturn _ .unknown hstart rfl
  refine ⟨result, hresult, hmissing ?_⟩
  have hnothing : (Files.empty []).find "m" = .error .missing :=
    Files.find_of_notMem rfl (by decide) (by decide) (by decide) (by decide)
  have hfind : taken.find "m" = (Files.empty []).find "m" := find_takeLock_target htake
  rw [Files.contains]
  exact congrArg Except.toBool (hfind.trans hnothing)

/-- A model file from before makes a success of a trainer that does nothing. -/
theorem run_product_stale :
    let job : Job := ⟨.path "m", .defaults, .all, some Engine.idle.trainer, 1⟩
    let corpus : Corpus := [[⟨"Smith", "Surname"⟩]]
    let files : Files := (Files.empty []).put ["m"] (.file "old".toUTF8)
    ∃ start result, (run job corpus files).start? = some start ∧
      (Engine.idle.trainer start.task start.files).files = start.files ∧
      (run job corpus files).result = .ok result ∧ result.success = true ∧
      result.modelSize = 3 := by
  intro job corpus files
  have hne : corpus ≠ [] := List.cons_ne_nil _ _
  have htrainer : job.trainer? = some Engine.idle.trainer := rfl
  have hgroups : job.groups.names = .ok Feature.Group.names := GroupChoice.names_ofNames _
  have hfree : files.find "m.lock" = .error .missing :=
    Files.find_of_notMem rfl (by decide) (by decide) (by decide) (by decide)
  have hold : files.find "m" = .ok (.file "old".toUTF8) :=
    Files.find_of_notMem rfl (by decide) (by decide) (by decide) (by decide)
  obtain ⟨taken, htake⟩ : ∃ taken, takeLock 1 (.path "m") files = .ok taken :=
    exists_takeLock 1 rfl (by decide) (by decide) (by decide) hfree
  obtain ⟨task, hstart⟩ := exists_start?_run hne htrainer hgroups htake
  have hrelease : (releaseLock job.target taken).2 = .ok () :=
    (find_releaseLock (isRemovable_takeLock htake)).1
  obtain ⟨counts, hresult⟩ := result_run_of_info hne htrainer rfl hstart hrelease rfl
  have hfind : taken.find "m" = .ok (.file "old".toUTF8) := (find_takeLock_target htake).trans hold
  have hfound : (Engine.idle.trainer task taken).files.find "m" = .ok (.file "old".toUTF8) := hfind
  rw [hfound] at hresult
  exact ⟨⟨task, taken⟩, _, hstart, rfl, hresult, rfl, rfl⟩

end Training

end NameTagger
