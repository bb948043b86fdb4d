import NameTagger.Feature.Extract
import NameTagger.Lexicon

/-!
# Instances

An instance is what a model sees of a name: for each token the numbers of its features with their
weights, and the number of a label.

* `Instance`, `Instance.size`;
* `Instance.ofFeatures`, `Instance.recognize`: the instance of a name that is to be labeled;
  features without a number are left out, and every label is the placeholder;
* `Instance.sumByName`, `Instance.toVectors`: the weights of each token by the names of the
  features, with repeated features summed up.
-/

namespace NameTagger

/-- The numbers of the features of a token, with their weights. -/
abbrev Item (W : Type) := List (Nat × W)

/-- A name as a model sees it. -/
structure Instance (W : Type) where
  items : List (Item W)
  /-- The number of the label of each token. -/
  labels : List Nat
  /-- Whether the labels were given; else they mean nothing. -/
  training : Bool
deriving DecidableEq, Repr

/-- Weights by the names of features, in the order in which the names first came. -/
abbrev Vector (W : Type) := List (String × W)

namespace Instance

variable {W : Type}

/-- The number of tokens. -/
def size (inst : Instance W) : Nat := inst.items.length

/-- The label number where no label is given. -/
def placeholder : Nat := 0

/-- The features that have a number. -/
def known (attrs : Lexicon) (features : List (Feature W)) : Item W :=
  features.filterMap fun feature => (attrs.id? feature.name).map fun id => (id, feature.weight)

/-- The instance of tokens with some features that are to be labeled. -/
def ofFeatures (attrs : Lexicon) (features : List (List (Feature W))) : Instance W where
  items := features.map (known attrs)
  labels := features.map fun _ => placeholder
  training := false

/-- The instance of a name that is to be labeled. -/
def recognize [OfScientific W] (attrs : Lexicon) (cells : List Feature.Cell)
    (groups : List String) : Instance W :=
  ofFeatures attrs (Feature.extractAll cells groups)

/-- Add a weight to that of a name; a new name begins with nothing and goes to the end. -/
def addWeight [Add W] [OfNat W 0] (name : String) (weight : W) : Vector W → Vector W
  | [] => [(name, 0 + weight)]
  | (other, sum) :: rest =>
      if other = name then (other, sum + weight) :: rest
      else (other, sum) :: addWeight name weight rest

/-- Weights by names, where some numbers have one; those without a name are left out. -/
def sumByName [Add W] [OfNat W 0] {ι : Type} (name? : ι → Option String)
    (weights : List (ι × W)) : Vector W :=
  weights.foldl (fun sums (id, weight) =>
    match name? id with
    | some name => addWeight name weight sums
    | none => sums) []

/-- The weights of an item by the names of its features. -/
def toVector [Add W] [OfNat W 0] (attrs : Lexicon) (item : Item W) : Vector W :=
  sumByName attrs.string? item

/-- The weights of each token by the names of its features. -/
def toVectors [Add W] [OfNat W 0] (attrs : Lexicon) (inst : Instance W) : List (Vector W) :=
  inst.items.map (toVector attrs)

@[simp] theorem size_recognize [OfScientific W] (attrs : Lexicon) (cells : List Feature.Cell)
    (groups : List String) : (recognize (W := W) attrs cells groups).size = cells.length := by
  simp [recognize, ofFeatures, size]

end Instance

end NameTagger
