import NameTagger.Lexicon.Numbering
import NameTagger.Settings.Basic

/-!
# Hyperparameters of a training run

* `Hyperparameters`, with their defaults;
* `numberOf`, `integerOf`: the number that a setting denotes;
* `Hyperparameters.ofJson`: the hyperparameters in a configuration;
* `Hyperparameters.parameters`: what a training library is told.
-/

namespace NameTagger

/-- What a training run can be told. -/
structure Hyperparameters where
  /-- The weight of the quadratic penalty. -/
  c2 : Float
  maxIterations : Int
  /-- The improvement below which the run ends. -/
  epsilon : Float
  algorithm : String
deriving Repr

namespace Hyperparameters

/-- The hyperparameters where nothing else is chosen. -/
def defaults : Hyperparameters := ⟨1.0, 100, 0.0001, "l2sgd"⟩

/-- The fault for a value that is no number. -/
def noNumber : Fault := ⟨.wrongType, "not a number"⟩

/-- A truth value as a number. -/
def ofBool (b : Bool) : Int := if b then 1 else 0

/-- The binary number that a value denotes. -/
def numberOf : Json → Except Fault Float
  | .bool b => .ok (Decimal.ofInteger (ofBool b))
  | .int n => Settings.binaryOf n
  | .float x => .ok x
  | .str s =>
      match Decimal.number? s with
      | some x => .ok x
      | none => .error ⟨.value, "could not convert string to float: " ++ Text.quoted s⟩
  | _ => .error noNumber

/-- The integer that a value denotes, without the part behind the point. -/
def integerOf : Json → Except Fault Int
  | .bool b => .ok (ofBool b)
  | .int n => .ok n
  | .float x => SourceId.ofFloat x
  | .str s => SourceId.ofText s
  | _ => .error noNumber

/-- The value of a key as `read` takes it, or a default. -/
def setting {α : Type} (fields : Json.Fields) (key : String) (read : Json → Except Fault α)
    (default : α) : Except Fault α :=
  match Json.Fields.get? fields key with
  | some value => read value
  | none => .ok default

/-- The fields of a value that ought to be an object. -/
def fieldsOf : Json → Except Fault Json.Fields
  | .obj fields => .ok fields
  | _ => .error ⟨.missingMember, "object has no attribute 'get'"⟩

/-- The fields of the training section; a configuration that counts as a no has none. -/
def section_ (config : Json) : Except Fault Json.Fields :=
  if config.isTrue then do
    let fields ← fieldsOf config
    match Json.Fields.get? fields "training" with
    | some training => fieldsOf training
    | none => .ok []
  else .ok []

/-- The hyperparameters in a configuration.  It does not choose the algorithm. -/
def ofJson (config : Json) : Except Fault Hyperparameters := do
  let training ← section_ config
  let c2 ← setting training "c2" numberOf defaults.c2
  let maxIterations ← setting training "max_iterations" integerOf defaults.maxIterations
  let epsilon ← setting training "epsilon" numberOf defaults.epsilon
  return { defaults with c2, maxIterations, epsilon }

/-- The name of the stopping threshold, which depends on the algorithm. -/
def thresholdName (h : Hyperparameters) : String :=
  if h.algorithm = "l2sgd" then "delta" else "epsilon"

/-- The parameters of a training library. -/
def parameters (h : Hyperparameters) : List (String × Json) :=
  [("c2", .float h.c2), ("max_iterations", .int h.maxIterations),
    (h.thresholdName, .float h.epsilon)]

/-- The hyperparameters in words. -/
def describe (h : Hyperparameters) : String :=
  "(" ++ h.algorithm ++ ", c2=" ++ Decimal.messageText h.c2 ++ ", max_iterations=" ++
    toString h.maxIterations ++ ", epsilon=" ++ Decimal.messageText h.epsilon ++ ")"

end Hyperparameters

end NameTagger
