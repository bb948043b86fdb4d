import Mathlib.Algebra.BigOperators.Group.List.Basic
import Mathlib.Algebra.Ring.Defs
import NameTagger.Chain.Weights
import NameTagger.Proofs.Instance.Vector

/-!
# The score of a token under a label

Before a label is scored, the weights of a token are summed up by the names of its features, and
weights of zero in the model are passed over.  In exact arithmetic neither matters: each entry of an
item counts by itself.

* `Feature.score`: the score of features under a label, each by itself;
* `labelScore_eq_sum`: passing over a weight of zero changes no score;
* `sum_addWeight`, `labelScore_vector`: summing up by names changes no score;
* `Instance.named`, `emission_toVectors`: the scores of the tokens of any instance, where numbers
  without a name count nothing.
-/

namespace NameTagger

open Chain

variable {W : Type}

/-! ### Scores of summed weights -/

section

variable [Semiring W] (states : Weights W) (label : String)

/-- A weight of zero may be passed over, since it adds nothing. -/
theorem Chain.labelScore_eq_sum [BEq W] [LawfulBEq W] (features : Vector W) :
    labelScore states features label =
      (features.map fun entry => states.get entry.1 label * entry.2).sum := by
  suffices h : ∀ score : W, features.foldl (fun score entry =>
      if states.get entry.1 label == 0 then score
      else score + states.get entry.1 label * entry.2) score =
        score + (features.map fun entry => states.get entry.1 label * entry.2).sum from
    (h 0).trans (zero_add _)
  induction features with
  | nil => exact fun score => (add_zero score).symm
  | cons entry features ih =>
    intro score
    rw [List.foldl_cons, ih, List.map_cons, List.sum_cons]
    by_cases hzero : states.get entry.1 label = 0
    · simp [hzero]
    · simp [hzero, add_assoc]

/-- Adding to the weight of a name adds as much to a score as the name by itself. -/
theorem Chain.sum_addWeight (name : String) (weight : W) (sums : Vector W) :
    ((Instance.addWeight name weight sums).map
        fun entry => states.get entry.1 label * entry.2).sum =
      (sums.map fun entry => states.get entry.1 label * entry.2).sum +
        states.get name label * weight := by
  induction sums with
  | nil => simp [Instance.addWeight]
  | cons entry sums ih =>
    obtain ⟨other, sum⟩ := entry
    rw [Instance.addWeight]
    split
    · next heq =>
      subst heq
      simp only [List.map_cons, List.sum_cons, mul_add]
      rw [add_right_comm]
    · simp only [List.map_cons, List.sum_cons]
      rw [ih, add_assoc]

end

section

variable [CommSemiring W]

/-- The score of features under a label, each by itself with its own weight. -/
def Feature.score (states : Weights W) (features : List (Feature W)) (label : String) : W :=
  (features.map fun feature => feature.weight * states.get feature.name label).sum

variable [BEq W] [LawfulBEq W]

/-- Features that share a name count as they would apart. -/
theorem Chain.labelScore_vector (states : Weights W) (features : List (Feature W))
    (label : String) :
    labelScore states (Feature.vector features) label = Feature.score states features label := by
  suffices h : ∀ sums : Vector W, ((features.foldl (fun sums feature =>
      Instance.addWeight feature.name feature.weight sums) sums).map
        fun entry => states.get entry.1 label * entry.2).sum =
      (sums.map fun entry => states.get entry.1 label * entry.2).sum +
        Feature.score states features label by
    rw [labelScore_eq_sum, Feature.vector, h, List.map_nil, List.sum_nil, zero_add]
  induction features with
  | nil => exact fun sums => (add_zero _).symm
  | cons feature features ih =>
    intro sums
    rw [List.foldl_cons, ih, sum_addWeight, Feature.score, Feature.score, List.map_cons,
      List.sum_cons, add_assoc, mul_comm]

end

/-! ### Scores of an instance -/

namespace Instance

/-- The features of an item by their names; a number without a name gives none. -/
def named (attrs : Lexicon) (item : Item W) : List (Feature W) :=
  item.filterMap fun entry => (attrs.string? entry.1).map fun name => ⟨name, entry.2⟩

theorem toVector_eq_vector [Add W] [OfNat W 0] (attrs : Lexicon) (item : Item W) :
    toVector attrs item = Feature.vector (named attrs item) := by
  rw [toVector, sumByName, Feature.vector]
  generalize ([] : Vector W) = sums
  induction item generalizing sums with
  | nil => rfl
  | cons entry item ih =>
    obtain ⟨id, weight⟩ := entry
    rw [List.foldl_cons, ih, named, named]
    cases hname : attrs.string? id with
    | none =>
      rw [List.filterMap_cons_none (by rw [hname]; rfl)]
      simp only [hname]
    | some name =>
      rw [List.filterMap_cons_some (by rw [hname]; rfl), List.foldl_cons]
      simp only [hname]

/-- The features of an item that was made of features are those with a number. -/
theorem named_known (attrs : Lexicon) (features : List (Feature W)) :
    named attrs (known attrs features) =
      features.filter fun feature => attrs.contains feature.name := by
  have h := denotes_known attrs features
  generalize known attrs features = item at h ⊢
  generalize (features.filter fun feature => attrs.contains feature.name) = kept at h ⊢
  induction h with
  | nil => rfl
  | @cons entry feature item kept hentry _ ih =>
    obtain ⟨hname, hweight⟩ := hentry
    rw [named, List.filterMap_cons_some (by rw [hname]; rfl), hweight]
    exact congrArg _ ih

/-- The named features of a name that is to be labeled are those with a number. -/
theorem map_named_recognize [OfScientific W] (attrs : Lexicon) (cells : List Feature.Cell)
    (groups : List String) :
    (recognize attrs cells groups).items.map (named attrs) =
      (Feature.extractAll cells groups).map fun (features : List (Feature W)) =>
        features.filter fun feature => attrs.contains feature.name := by
  rw [recognize, ofFeatures, List.map_map]
  exact List.map_congr_left fun features _ => named_known attrs features

variable [CommSemiring W] [BEq W] [LawfulBEq W]

/-- The score of each label at each token of an instance: every entry of an item counts, also where
several share a name, and numbers without a name count nothing. -/
theorem emission_toVectors (states : Weights W) (labels : List String) (attrs : Lexicon)
    (inst : Instance W) :
    emission states labels (inst.toVectors attrs) =
      inst.items.map fun item => labels.map (Feature.score states (named attrs item)) := by
  rw [emission, toVectors, List.map_map]
  refine List.map_congr_left fun item _ => List.map_congr_left fun label _ => ?_
  rw [toVector_eq_vector, labelScore_vector]

end Instance

end NameTagger
