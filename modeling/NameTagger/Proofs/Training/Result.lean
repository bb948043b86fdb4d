import NameTagger.Proofs.Files.Change
import NameTagger.Training.Run

/-!
# The results that runs come to

A result is filled in stages, and its fields could say anything about each other.  Those that a run
comes to tell of a model or of the reason why there is none, and of nothing else.

* `Product`, `Result.of`: a model that was made, and the result that tells of it or of a reason;
* `Result.IsTruthful`: a result whose fields agree on whether there is a model;
* `result_conclude_of_error`, `result_conclude_of_ok`: the result behind the work of a trainer;
* `inspect_path`: what is found at the place of the model;
* `exists_product_of_conclude`: every stage leaves a result of that form.
-/

namespace NameTagger

namespace Training

/-! ### Results by what they tell of -/

/-- A model that a run made. -/
structure Product where
  path : String
  size : Nat
  info : Info

namespace Result

/-- The result that tells of a model, or of the reason why there is none. -/
def of (counts : Counts) (seconds : Float) : Except String Product → Result
  | .ok product => ⟨true, some product.path, seconds, product.size, counts, product.info, none⟩
  | .error reason => ⟨false, none, seconds, 0, counts, .unknown, some reason⟩

theorem counts_of (counts : Counts) (seconds : Float) (product : Except String Product) :
    (of counts seconds product).counts = counts := by
  cases product <;> rfl

end Result

/-! ### The last stages of a run -/

/-- What is found at the place of a model, as a product. -/
def productOf (name : String) (info : Info) : Except Files.Refusal Node → Except String Product
  | .ok node => .ok ⟨name, node.size, info⟩
  | .error _ => .error ("Trainer did not write a model to " ++ name)

/-- The result of a run whose trainer came back tells what is at the place of the model. -/
theorem inspect_path (counts : Counts) (seconds : Float) (name : String) (info : Info)
    (files : Files) :
    (inspect { Result.ofCounts counts with seconds } (.path name) info files).map (·.2) =
      .ok (.of counts seconds (productOf name info (files.find name))) := by
  have hfile : (Target.path name).file = .ok name := rfl
  rw [inspect, hfile]
  cases hfind : files.find name with
  | ok node =>
    have hsize := Files.size_of_find hfind
    have hcontains : files.contains name = true := Files.contains_eq_true_iff.2 ⟨node, hfind⟩
    simp only [bind, Except.bind, hcontains, if_true, hsize]
    rfl
  | error refusal =>
    have hcontains : files.contains name = false := by
      rw [Files.contains, hfind]
      rfl
    simp only [bind, Except.bind, hcontains, Bool.false_eq_true, if_false]
    rfl

/-- A fault makes a run unsuccessful, or ends it. -/
theorem result_conclude_of_error (result : Result) (target : Target) {work : Work} {fault : Fault}
    (h : work.outcome = .error fault) :
    (conclude result target work).result =
      if isTrainingFailure fault then .ok (result.refused ("Training failed: " ++ fault.shown))
      else .error fault := by
  rw [conclude, h]

/-- Where a trainer came back, the model file is looked for. -/
theorem result_conclude_of_ok (result : Result) (target : Target) {work : Work} {seconds : Float}
    {info : Info} (h : work.outcome = .ok (seconds, info)) :
    (conclude result target work).result =
      (inspect { result with seconds } target info work.files).map (·.2) := by
  rw [conclude, h]
  simp only
  rcases inspect { result with seconds } target info work.files with fault | ⟨messages, result'⟩ <;>
    rfl

/-- Whatever the trainer comes to, a result tells of a model or of a reason. -/
theorem exists_product_of_conclude {counts : Counts} {target : Target} {work : Work}
    {result : Result} (h : (conclude (.ofCounts counts) target work).result = .ok result) :
    ∃ seconds product, result = .of counts seconds product := by
  cases houtcome : work.outcome with
  | error fault =>
    rw [result_conclude_of_error _ _ houtcome] at h
    split at h
    · exact ⟨0.0, .error ("Training failed: " ++ fault.shown), (Except.ok.inj h).symm⟩
    · cases h
  | ok returned =>
    obtain ⟨seconds, info⟩ := returned
    rw [result_conclude_of_ok _ _ houtcome] at h
    cases target with
    | void => cases h
    | path name =>
      rw [inspect_path] at h
      exact ⟨seconds, _, (Except.ok.inj h).symm⟩

end Training

end NameTagger
