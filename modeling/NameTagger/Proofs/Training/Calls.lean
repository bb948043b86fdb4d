import NameTagger.Proofs.Instance.Unmerged
import NameTagger.Proofs.Training.Prepare

/-!
# A training library gets exactly the corpus

On their way to a library the features and labels of a corpus become numbers and names again, and
the weights of a token are summed up by the names of its features.  None of this shows: the library
is told the features and labels of each name as they are.

* `Call.ofSequence`, `Call.ofCorpus`: the calls that tell a library a name and a corpus;
* `run_of_prepare`: a run, once its corpus is prepared;
* `start?_run`: what a trainer is given, and when;
* `run_calls`: the calls of a run, and what becomes of what the library comes back with.
-/

namespace NameTagger

namespace Training

/-! ### The calls for a corpus -/

/-- The call that tells a library a name: the names and weights of the features of each token, and
the labels. -/
def Call.ofSequence (groups : List String) (sequence : Sequence) : Call :=
  .append
    ((Feature.extractAll (Vocabulary.cells sequence) groups).map fun features =>
      features.map fun feature => (feature.name, feature.weight))
    sequence.labels

/-- The calls that tell a library a corpus and have it trained: one for each name, in order. -/
def Call.ofCorpus (groups : List String) (corpus : Corpus) (hyperparameters : Hyperparameters)
    (target : Target) : List Call :=
  corpus.map (ofSequence groups) ++
    [.setParameters hyperparameters.parameters, .train target]

theorem Task.calls_eq_ofCorpus {task : Task} {groups : List String} {corpus : Corpus}
    (h : List.Forall₂ (fun inst sequence => inst.Renders task.vocabulary
      (Feature.extractAll (Vocabulary.cells sequence) groups) sequence.labels)
      task.instances corpus) :
    task.calls = Call.ofCorpus groups corpus task.hyperparameters task.target := by
  rw [calls_eq h, Call.ofCorpus]
  congr 1
  refine List.map_congr_left fun sequence _ => ?_
  rw [Call.ofSequence, List.map_congr_left fun _ => vector_of_mem_extractAll]

/-! ### When the trainer is called -/

theorem start?_after (messages : List String) (r : Run) : (r.after messages).start? = r.start? :=
  rfl

theorem start?_conclude (result : Result) (target : Target) (work : Work) :
    (conclude result target work).start? = work.start? := by
  rw [conclude]
  split
  · rfl
  · split <;> rfl

/-- A trainer is called if the lock is free. -/
theorem start?_locked (processId : Nat) (trainer : Trainer) (task : Task) (files : Files) :
    (locked processId trainer task files).start? =
      (takeLock processId task.target files).toOption.map (Start.mk task) := by
  rw [locked]
  cases takeLock processId task.target files <;> rfl

/-- A run whose corpus is prepared goes as far as the work of its trainer. -/
theorem run_of_prepare {job : Job} {trainer : Trainer} (htrainer : job.trainer? = some trainer)
    {corpus : Corpus} (hne : corpus ≠ []) {vocabulary : Vocabulary}
    {instances : List (Instance Float)}
    (hprepare : prepare job.groups corpus = .ok (vocabulary, instances)) (files : Files) :
    ∃ messages, run job corpus files =
      (conclude (.ofCounts (countsOf corpus vocabulary instances)) job.target
        (locked job.processId trainer ⟨instances, vocabulary, job.target, job.hyperparameters⟩
          files)).after messages := by
  have hempty : corpus.isEmpty = false := by simpa using hne
  let counts := countsOf corpus vocabulary instances
  refine ⟨"Converting training data..." ::
    (progress corpus.length ++ preparedMessages counts job.hyperparameters), ?_⟩
  rw [run, hempty, htrainer]
  simp only [Bool.false_eq_true, if_false, runWith, hprepare]
  rfl

/-- A run calls its trainer once the corpus is prepared, if there is anything to learn. -/
theorem start?_run {job : Job} {trainer : Trainer} (htrainer : job.trainer? = some trainer)
    {corpus : Corpus} (hne : corpus ≠ []) {vocabulary : Vocabulary}
    {instances : List (Instance Float)}
    (hprepare : prepare job.groups corpus = .ok (vocabulary, instances)) (files : Files) :
    (run job corpus files).start? =
      (takeLock job.processId job.target files).toOption.map
        (Start.mk ⟨instances, vocabulary, job.target, job.hyperparameters⟩) := by
  obtain ⟨messages, hrun⟩ := run_of_prepare htrainer hne hprepare files
  rw [hrun, start?_after, start?_conclude, start?_locked]

/-- A trainer is given the second of two corpora behind the first. -/
theorem start?_runGeneric (job : Job) (first second : Corpus) (files : Files) :
    (runGeneric job first second files).start? = (run job (first ++ second) files).start? := by
  rw [runGeneric, start?_after]

/-! ### The calls of a run -/

/-- A run whose lock is free has a library learn exactly its corpus: one call for each name, in
order, with the features of each token, no two of which share a name, and with its labels; then the
parameters, then the order to train.  The run goes on with what the library comes back with: its
files, from which the lock is taken away, and its outcome. -/
theorem run_calls {job : Job} {engine : Engine} (hengine : job.trainer? = some engine.trainer)
    {groups : List String} (hgroups : job.groups.names = .ok groups) {corpus : Corpus}
    (hne : corpus ≠ []) (files : Files) :
    ∃ task : Task,
      task.calls = Call.ofCorpus groups corpus job.hyperparameters job.target ∧
      (run job corpus files).start? =
        (takeLock job.processId job.target files).toOption.map (Start.mk task) ∧
      (∀ first second, first ++ second = corpus →
        (runGeneric job first second files).start? = (run job corpus files).start?) ∧
      (∀ locked, engine.trainer task locked =
        (engine job.hyperparameters.algorithm
          (Call.ofCorpus groups corpus job.hyperparameters job.target) locked).report) ∧
      (∀ locked, takeLock job.processId job.target files = .ok locked →
        ∃ messages, run job corpus files =
          (conclude (.ofCounts (countsOf corpus task.vocabulary task.instances)) job.target
            ((engine job.hyperparameters.algorithm
              (Call.ofCorpus groups corpus job.hyperparameters job.target) locked).report.work
                ⟨task, locked⟩)).after messages) ∧
      ∀ sequence ∈ corpus, ∀ features ∈
          Feature.extractAll (W := Float) (Vocabulary.cells sequence) groups,
        (features.map Feature.name).Nodup := by
  obtain ⟨vocabulary, instances, hprepare, hinstances⟩ := prepare_ofNames groups corpus
  rw [← prepare_of_names hgroups] at hprepare
  let task : Task := ⟨instances, vocabulary, job.target, job.hyperparameters⟩
  have hcalls : task.calls = Call.ofCorpus groups corpus job.hyperparameters job.target :=
    Task.calls_eq_ofCorpus hinstances
  have htrainer (locked : Files) : engine.trainer task locked =
      (engine job.hyperparameters.algorithm
        (Call.ofCorpus groups corpus job.hyperparameters job.target) locked).report := by
    rw [← hcalls]
    rfl
  refine ⟨task, hcalls, start?_run hengine hne hprepare files, ?_, htrainer, ?_, ?_⟩
  · rintro first second rfl
    exact start?_runGeneric job first second files
  · intro taken htake
    obtain ⟨messages, hrun⟩ := run_of_prepare hengine hne hprepare files
    refine ⟨messages, ?_⟩
    rw [hrun, ← htrainer, locked, htake]
  · exact fun _ _ _ hfeatures => Feature.nodup_names_of_mem_extractAll hfeatures

/-- A library that accepts all calls and writes no model. -/
def Engine.idle : Engine := fun _ _ files => ⟨[], files, 0.0, .ok .unknown⟩

/-- The same name in two corpora is told twice. -/
theorem run_calls_twice :
    ∃ task : Task,
      task.calls = Call.ofCorpus Feature.Group.names
        [[⟨"Mr.", "Title"⟩, ⟨"Smith", "Surname"⟩], [⟨"Mr.", "Title"⟩, ⟨"Smith", "Surname"⟩]]
        .defaults (.path "model") ∧
      (runGeneric ⟨.path "model", .defaults, .all, some Engine.idle.trainer, 1⟩
        [[⟨"Mr.", "Title"⟩, ⟨"Smith", "Surname"⟩]] [[⟨"Mr.", "Title"⟩, ⟨"Smith", "Surname"⟩]]
        (.empty [])).start? =
          (takeLock 1 (.path "model") (.empty [])).toOption.map (Start.mk task) := by
  let job : Job := ⟨.path "model", .defaults, .all, some Engine.idle.trainer, 1⟩
  let corpus : Corpus := [[⟨"Mr.", "Title"⟩, ⟨"Smith", "Surname"⟩]]
  have hne : corpus ++ corpus ≠ [] := List.cons_ne_nil _ _
  have hgroups : job.groups.names = .ok Feature.Group.names :=
    GroupChoice.names_ofNames Feature.Group.names
  have hengine : job.trainer? = some Engine.idle.trainer := rfl
  obtain ⟨task, hcalls, hrun, hgeneric, -⟩ := run_calls hengine hgroups hne (.empty [])
  exact ⟨task, hcalls, (hgeneric corpus corpus rfl).trans hrun⟩

end Training

end NameTagger
