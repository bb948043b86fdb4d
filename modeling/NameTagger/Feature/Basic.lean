import NameTagger.Decimal.Layout
import NameTagger.Text.Quoted

/-!
# Features

A feature is a name with a weight.  The weights of a model are binary numbers; nothing here depends
on that, so `W` may be any type that has the decimals in use.

* `Feature`, `Feature.of`: a feature whose name is cut to 128 characters;
* `Feature.valued`: a feature whose name is a label and a value;
* `Feature.describe`: a list of features in words.
-/

namespace NameTagger

/-- A named weight. -/
structure Feature (W : Type) where
  name : String
  weight : W
deriving DecidableEq, Repr

namespace Feature

variable {W : Type}

/-- The most characters of a name. -/
def longestName : Nat := 128

/-- A name cut to the characters that are kept. -/
def cut (name : List Char) : String := String.ofList (name.take longestName)

/-- The feature with a name, which is cut. -/
def of (name : String) (weight : W) : Feature W := ⟨cut name.toList, weight⟩

/-- The feature whose name is a label followed by a value. -/
def valued (label : String) (value : List Char) (weight : W) : Feature W :=
  ⟨cut (label.toList ++ value), weight⟩

/-- A feature with the weight one. -/
def plain [OfScientific W] (name : String) : Feature W := of name 1.0

/-- A whole number as a weight. -/
def count [OfScientific W] (n : Nat) : W := OfScientific.ofScientific n false 0

/-- A feature in words. -/
def describeOne (f : Feature Float) : String :=
  "Feature(name=" ++ Text.quoted f.name ++ ", weight=" ++ Decimal.messageText f.weight ++ ")"

/-- A list of features in words. -/
def describe (features : List (Feature Float)) : String :=
  "FeatureSet([" ++ String.intercalate ", " (features.map describeOne) ++ "])"

end Feature

end NameTagger
