import NameTagger.Proofs.Instance.Learn
import NameTagger.Training.Run

/-!
# What a training library is handed

* `prepare_ofNames`: a corpus always has instances, and each stands for its name;
* `Task.appendCall_eq`, `Task.getElem?_calls`: the call that hands over such an instance, and its
  place among all calls;
* `Task.calls_eq`: all calls for a corpus.
-/

namespace NameTagger.Training

/-- With a list of names of groups, every corpus has a vocabulary and an instance for each name. -/
theorem prepare_ofNames (groups : List String) (corpus : Corpus) :
    ∃ vocabulary instances, prepare (.ofNames groups) corpus = .ok (vocabulary, instances) ∧
      List.Forall₂ (fun inst sequence => inst.Renders vocabulary
        (Feature.extractAll (Vocabulary.cells sequence) groups) sequence.labels)
        instances corpus := by
  obtain ⟨vocabulary, instances, hlearn, -, hinstances⟩ :=
    Vocabulary.learnFrom_growing (W := Float) Vocabulary.isGrowing_empty groups #[] corpus
  refine ⟨vocabulary, instances, ?_, hinstances⟩
  have hcorpus : Vocabulary.empty.learnCorpus corpus groups = (vocabulary, .ok instances) := by
    rw [Vocabulary.learnCorpus, hlearn, List.nil_append]
  simp only [prepare, GroupChoice.names_ofNames, bind, Except.bind, hcorpus]

/-- The instances of a corpus depend on the names of a choice of groups. -/
theorem prepare_of_names {choice : GroupChoice} {groups : List String}
    (h : choice.names = .ok groups) (corpus : Corpus) :
    prepare choice corpus = prepare (.ofNames groups) corpus := by
  rw [prepare, prepare, h, GroupChoice.names_ofNames]

namespace Task

variable {task : Task} {features : List (List (Feature Float))} {gold : List String}

/-- A library is handed the features and the labels that an instance stands for. -/
theorem appendCall_eq {inst : Instance Float}
    (h : inst.Renders task.vocabulary features gold) :
    task.appendCall inst = .append (features.map Feature.vector) gold := by
  rw [appendCall, labelsOf, h.toVectors, h.filterMap_labels]

/-- The instances are handed over first and in order. -/
theorem getElem?_calls {i : Nat} {inst : Instance Float} (hi : task.instances[i]? = some inst) :
    task.calls[i]? = some (task.appendCall inst) := by
  obtain ⟨hlt, -⟩ := List.getElem?_eq_some_iff.1 hi
  rw [calls, List.getElem?_append_left (by rwa [List.length_map]), List.getElem?_map, hi]
  rfl

/-- The calls for a corpus: one for each name, then the parameters and the order to train. -/
theorem calls_eq {groups : List String} {corpus : Corpus}
    (h : List.Forall₂ (fun inst sequence => inst.Renders task.vocabulary
      (Feature.extractAll (Vocabulary.cells sequence) groups) sequence.labels)
      task.instances corpus) :
    task.calls =
      corpus.map (fun sequence => .append
        ((Feature.extractAll (Vocabulary.cells sequence) groups).map Feature.vector)
        sequence.labels) ++
      [.setParameters task.hyperparameters.parameters, .train task.target] := by
  rw [calls]
  congr 1
  generalize task.instances = instances at h
  induction h with
  | nil => rfl
  | cons hinst _ ih => rw [List.map_cons, List.map_cons, appendCall_eq hinst, ih]

end Task

end NameTagger.Training
