import Mathlib.Data.List.Forall2
import NameTagger.Instance.Basic
import NameTagger.Proofs.Lexicon

/-!
# Items and the features they stand for

The numbers of an item are a detour: what a library sees of a token depends on the names and weights
of its features alone, whatever lexicon numbers them.

* `forall_mem_left`, `forall_mem_right`: what follows for each side of a list of pairs;
* `Feature.vector`: the weights of features by their names; they are kept as they are if no name is
  repeated;
* `Denotes`: an item has the number and the weight of each of some features, in order;
* `Denotes.eq_known`, `Denotes.toVector`: there is one such item, and what a library sees of it;
* `Denotes.mem_iff`: the numbers in it are those of the names of the features;
* `denotes_known`: the item of a token that is to be labeled stands for the features with a number.
-/

namespace NameTagger

variable {W : Type}

section Sides

variable {α β : Type} {R : α → β → Prop} {as : List α} {bs : List β}

theorem forall_mem_left (h : List.Forall₂ R as bs) {p : α → Prop} (hp : ∀ a b, R a b → p a) :
    ∀ a ∈ as, p a :=
  ((List.forall₂_and_left as bs).1 (h.imp fun a b hab => ⟨hp a b hab, hab⟩)).1

theorem forall_mem_right (h : List.Forall₂ R as bs) {p : β → Prop} (hp : ∀ a b, R a b → p b) :
    ∀ b ∈ bs, p b :=
  forall_mem_left (List.Forall₂.flip h) fun b a hab => hp a b hab

end Sides

/-- The weights of features by their names, with repeated ones summed up. -/
def Feature.vector [Add W] [OfNat W 0] (features : List (Feature W)) : Vector W :=
  features.foldl (fun sums feature => Instance.addWeight feature.name feature.weight sums) []

/-- A new name goes to the end. -/
theorem Instance.addWeight_of_notMem [Add W] [OfNat W 0] {name : String} {sums : Vector W}
    (h : name ∉ sums.map Prod.fst) (weight : W) :
    addWeight name weight sums = sums ++ [(name, 0 + weight)] := by
  induction sums with
  | nil => rfl
  | cons entry sums ih =>
    rw [List.map_cons, List.mem_cons, not_or] at h
    rw [addWeight, if_neg (Ne.symm h.1), ih h.2, List.cons_append]

/-- Features with different names are told as they are, if zero is neutral to their weights. -/
theorem Feature.vector_eq_map [Add W] [OfNat W 0] {features : List (Feature W)}
    (hnames : (features.map Feature.name).Nodup)
    (hweights : ∀ feature ∈ features, 0 + feature.weight = feature.weight) :
    Feature.vector features = features.map fun feature => (feature.name, feature.weight) := by
  suffices h : ∀ sums : Vector W, (∀ feature ∈ features, feature.name ∉ sums.map Prod.fst) →
      features.foldl (fun sums feature =>
          Instance.addWeight feature.name feature.weight sums) sums =
        sums ++ features.map fun feature => (feature.name, feature.weight) from
    h [] fun _ _ => List.not_mem_nil
  -- the names that come later are new to all sums before them
  induction features with
  | nil => exact fun sums _ => (List.append_nil sums).symm
  | cons feature features ih =>
    intro sums hnew
    obtain ⟨hname, hnames⟩ := List.nodup_cons.1 hnames
    obtain ⟨hweight, hweights⟩ := List.forall_mem_cons.1 hweights
    obtain ⟨hfirst, hnew⟩ := List.forall_mem_cons.1 hnew
    rw [List.foldl_cons, Instance.addWeight_of_notMem hfirst, hweight, ih hnames hweights,
      List.append_assoc, List.singleton_append, List.map_cons]
    intro other hother hmem
    rw [List.map_append, List.map_singleton, List.mem_append, List.mem_singleton] at hmem
    rcases hmem with hold | heq
    · exact hnew other hother hold
    · exact hname (List.mem_map.2 ⟨other, hother, heq⟩)

namespace Instance

/-- An item has the number of each feature with its weight, in order. -/
def Denotes (attrs : Lexicon) (item : Item W) (features : List (Feature W)) : Prop :=
  List.Forall₂ (fun entry feature =>
    attrs.string? entry.1 = some feature.name ∧ entry.2 = feature.weight) item features

namespace Denotes

variable {attrs attrs' : Lexicon} {item : Item W} {features : List (Feature W)}

/-- Later additions to a lexicon do not matter. -/
theorem mono (h : Denotes attrs item features) (hattrs : attrs.Extends attrs') :
    Denotes attrs' item features :=
  List.Forall₂.imp (fun _ _ ⟨hname, hweight⟩ => ⟨hattrs.string? hname, hweight⟩) h

/-- A feature that an item stands for has a number. -/
theorem contains (h : Denotes attrs item features) :
    ∀ feature ∈ features, attrs.contains feature.name = true := by
  refine forall_mem_right h fun entry feature hentry => ?_
  rw [Lexicon.contains, (Lexicon.id?_eq_some_iff attrs _ _).2 hentry.1]
  rfl

/-- There is one item only that stands for given features. -/
theorem eq_known (h : Denotes attrs item features) : item = known attrs features := by
  induction h with
  | nil => rfl
  | @cons entry feature item features hhead _ ih =>
    obtain ⟨id, weight⟩ := entry
    obtain ⟨hname, rfl⟩ := hhead
    have hid : attrs.id? feature.name = some id := (Lexicon.id?_eq_some_iff attrs _ _).2 hname
    rw [known, List.filterMap_cons_some (by rw [hid]; rfl), ih]
    rfl

/-- The numbers of an item are those of the lexicon. -/
theorem lt_size (h : Denotes attrs item features) : ∀ entry ∈ item, entry.1 < attrs.size :=
  forall_mem_left h fun _ _ hentry => Lexicon.lt_size_of_string? hentry.1

/-- The number of a name is in an item with a weight just if a feature of this name and weight was
there. -/
theorem mem_iff (h : Denotes attrs item features) {id : Nat} {name : String}
    (hid : attrs.string? id = some name) (weight : W) :
    (id, weight) ∈ item ↔ ⟨name, weight⟩ ∈ features := by
  induction h with
  | nil => exact iff_of_false List.not_mem_nil List.not_mem_nil
  | @cons entry feature item features hhead _ ih =>
    obtain ⟨hname, hweight⟩ := hhead
    have hsame : id = entry.1 ↔ name = feature.name := by
      constructor
      · rintro rfl
        exact Option.some.inj (hid.symm.trans hname)
      · rintro rfl
        rw [← Lexicon.id?_eq_some_iff] at hid hname
        exact Option.some.inj (hid.symm.trans hname)
    have hfirst : (id, weight) = entry ↔ ⟨name, weight⟩ = feature := by
      rw [Prod.ext_iff, Feature.mk.injEq, hsame, hweight]
    rw [List.mem_cons, List.mem_cons, hfirst, ih]

theorem toVector [Add W] [OfNat W 0] (h : Denotes attrs item features) :
    toVector attrs item = Feature.vector features := by
  rw [Instance.toVector, sumByName, Feature.vector]
  -- both sides add the same weights to any that came before
  generalize ([] : Vector W) = sums
  induction h generalizing sums with
  | nil => rfl
  | @cons entry feature item features hhead _ ih =>
    obtain ⟨id, weight⟩ := entry
    obtain ⟨hname, rfl⟩ := hhead
    have hid : attrs.string? id = some feature.name := hname
    rw [List.foldl_cons, List.foldl_cons, ← ih]
    simp only [hid]

end Denotes

/-- The same for the items of several tokens. -/
theorem map_toVector [Add W] [OfNat W 0] {attrs : Lexicon} {items : List (Item W)}
    {tokens : List (List (Feature W))} (h : List.Forall₂ (Denotes attrs) items tokens) :
    items.map (toVector attrs) = tokens.map Feature.vector := by
  induction h with
  | nil => rfl
  | cons hitem _ ih => rw [List.map_cons, List.map_cons, hitem.toVector, ih]

/-- Features without a number are left out, and the others are kept in order. -/
theorem denotes_known (attrs : Lexicon) (features : List (Feature W)) :
    Denotes attrs (known attrs features)
      (features.filter fun feature => attrs.contains feature.name) := by
  induction features with
  | nil => exact .nil
  | cons feature features ih =>
    cases hid : attrs.id? feature.name with
    | none =>
      rw [known, List.filterMap_cons_none (by rw [hid]; rfl),
        List.filter_cons_of_neg (by simp [Lexicon.contains, hid])]
      exact ih
    | some id =>
      rw [known, List.filterMap_cons_some (by rw [hid]; rfl),
        List.filter_cons_of_pos (by simp [Lexicon.contains, hid])]
      exact .cons ⟨(Lexicon.id?_eq_some_iff attrs _ _).1 hid, rfl⟩ ih

/-- What a library sees of tokens that are to be labeled: the features with a number. -/
theorem toVectors_ofFeatures [Add W] [OfNat W 0] (attrs : Lexicon)
    (features : List (List (Feature W))) :
    (ofFeatures attrs features).toVectors attrs = features.map fun token =>
      Feature.vector (token.filter fun feature => attrs.contains feature.name) := by
  rw [toVectors, ofFeatures, List.map_map]
  exact List.map_congr_left fun token _ => (denotes_known attrs token).toVector

theorem toVectors_recognize [OfScientific W] [Add W] [OfNat W 0] (attrs : Lexicon)
    (cells : List Feature.Cell) (groups : List String) :
    (recognize attrs cells groups).toVectors attrs =
      (Feature.extractAll cells groups).map fun (features : List (Feature W)) =>
        Feature.vector (features.filter fun feature => attrs.contains feature.name) :=
  toVectors_ofFeatures attrs _

end Instance

end NameTagger
