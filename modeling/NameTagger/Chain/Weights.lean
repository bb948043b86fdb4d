import Std.Data.HashMap
import NameTagger.Instance.Basic

/-!
# The weights of a chain model

A linear chain scores a labeling by the weights of the features of each token under its label and by
the weights of neighbouring labels.

* `Weights`, `Weights.ofList`, `Weights.get`: the weights of pairs of names; a missing one is zero;
* `emissionRow`, `emission`: the score of each label at each token.
-/

namespace NameTagger.Chain

/-- The weights of pairs of names. -/
structure Weights (W : Type) where
  /-- The pairs in the order in which they first came. -/
  entries : List ((String × String) × W)
  index : Std.HashMap (String × String) W

namespace Weights

variable {W : Type}

/-- Set a weight: a present pair keeps its place, a new one goes to the end. -/
def put (pair : String × String) (weight : W) :
    List ((String × String) × W) → List ((String × String) × W)
  | [] => [(pair, weight)]
  | (other, w) :: rest =>
      if other = pair then (pair, weight) :: rest else (other, w) :: put pair weight rest

/-- The weights of a list, where the last entry of a pair counts. -/
def ofList (listed : List ((String × String) × W)) : Weights W where
  entries := listed.foldl (fun entries (pair, w) => put pair w entries) []
  index := Std.HashMap.ofList listed

/-- The weight of a pair. -/
def get [OfNat W 0] (weights : Weights W) (a b : String) : W := (weights.index[(a, b)]?).getD 0

end Weights

variable {W : Type} [Add W] [Mul W] [OfNat W 0] [BEq W]

/-- The score of a label for the features of a token.  A weight of zero is passed over, whatever the
value of its feature. -/
def labelScore (states : Weights W) (features : Vector W) (label : String) : W :=
  features.foldl (fun score (attr, value) =>
    let weight := states.get attr label
    if weight == 0 then score else score + weight * value) 0

/-- The score of each label for the features of a token. -/
def emissionRow (states : Weights W) (labels : List String) (features : Vector W) : List W :=
  labels.map (labelScore states features)

/-- The score of each label at each token. -/
def emission (states : Weights W) (labels : List String) (tokens : List (Vector W)) :
    List (List W) :=
  tokens.map (emissionRow states labels)

end NameTagger.Chain
