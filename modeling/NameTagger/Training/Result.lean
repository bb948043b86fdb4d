import NameTagger.Training.Trainer

/-!
# Results of training

A result is blank when a run begins and is filled as the run goes on, which may end at any stage.

* `Counts`: how much there was to learn from;
* `Result`, `Result.blank`: what is known about a run, and a run of which nothing is known;
* `Result.ofCounts`, `Result.found`, `Result.refused`: the stages at which a result is filled;
* `Result.readModel`: the content of the model.
-/

namespace NameTagger.Training

/-- The counts of a run. -/
structure Counts where
  sequences : Nat
  instances : Nat
  tokens : Nat
  attrs : Nat
  labels : Nat
deriving DecidableEq, Repr

/-- Nothing was counted. -/
def Counts.zero : Counts := ⟨0, 0, 0, 0, 0⟩

/-- The result of a run that ended in an orderly way. -/
structure Result where
  /-- Whether there is a model. -/
  success : Bool
  modelPath? : Option String
  /-- How long the trainer took, if it came back. -/
  seconds : Float
  modelSize : Nat
  counts : Counts
  /-- The statistics of the last iteration. -/
  info : Info
  /-- Why there is no model. -/
  errorMessage? : Option String

namespace Result

/-- The result of a run that has just begun. -/
def blank : Result := ⟨false, none, 0.0, 0, .zero, .unknown, none⟩

/-- The result of a run that has built its instances. -/
def ofCounts (counts : Counts) : Result := { blank with counts }

/-- The result with a model that was found. -/
def found (result : Result) (path : String) (size : Nat) (info : Info) : Result :=
  { result with success := true, modelPath? := some path, modelSize := size, info }

/-- The result of a run that ends without a model. -/
def refused (result : Result) (reason : String) : Result :=
  { result with errorMessage? := some reason }

/-- The reason why there is no model, as it is shown. -/
def reason (result : Result) : String := result.errorMessage?.getD "None"

/-- The content of the model. -/
def readModel (result : Result) (files : Files) : Except Fault ByteArray :=
  if result.success then
    match result.modelPath? with
    | some path => files.read path
    | none => .error ⟨.wrongType, "expected str, bytes or os.PathLike object, not NoneType"⟩
  else .error ⟨.runtime, "No model was produced: " ++ result.reason⟩

end Result

end NameTagger.Training
