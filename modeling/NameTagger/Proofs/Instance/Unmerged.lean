import NameTagger.Proofs.Decimal.Sum
import NameTagger.Proofs.Feature.Parts
import NameTagger.Proofs.Instance.Build

/-!
# Features of a token are not merged

A library is told the weights of a token by the names of its features, and features of one name
would be summed up.  As no two features of a token share a name, whatever the texts are, each one is
told with its own weight.

* `Instance.IsBuilt`: an instance by the lexicon that numbered its features;
* `IsBuilt.denotes`, `IsBuilt.exists_item`: the features that it stands for;
* `Feature.vector_of_sublist`: features are told as they are;
* `toVectors_unmerged`: what a library sees of a name that is to be labeled, and of a labeled one.
-/

namespace NameTagger

/-! ### Instances and their features -/

namespace Instance

variable {W : Type} [OfScientific W]

/-- An instance of a name, by the lexicon that numbered the features: it was recognized, or it was
learned and the lexicon is what became of another one by it. -/
inductive IsBuilt (cells : List Feature.Cell) (groups : List String) :
    Lexicon → Instance W → Prop
  | recognized (attrs : Lexicon) : IsBuilt cells groups attrs (recognize attrs cells groups)
  | learned {v v' : Vocabulary} {gold? : Option (List String)} {inst : Instance W}
      (h : v.learn cells gold? groups = (v', .ok inst)) : IsBuilt cells groups v'.attrs inst

/-- An instance stands for the features that have a number; of a labeled name these are all. -/
theorem IsBuilt.denotes {cells : List Feature.Cell} {groups : List String} {attrs : Lexicon}
    {inst : Instance W} (h : IsBuilt cells groups attrs inst) :
    List.Forall₂ (Denotes attrs) inst.items
      ((Feature.extractAll cells groups).map fun features =>
        features.filter fun feature => attrs.contains feature.name) := by
  cases h with
  | recognized =>
    rw [recognize, ofFeatures, List.forall₂_map_left_iff, List.forall₂_map_right_iff,
      List.forall₂_same]
    exact fun features _ => denotes_known attrs features
  | learned h =>
    obtain ⟨gold, -, -, hrenders⟩ := Vocabulary.learn_eq_ok h
    rw [List.forall₂_map_right_iff]
    refine hrenders.items.imp fun item features hitem => ?_
    rwa [List.filter_eq_self.2 hitem.contains]

/-- The item of a token has the number and the weight of each feature that has a number. -/
theorem IsBuilt.exists_item {cells : List Feature.Cell} {groups : List String} {attrs : Lexicon}
    {inst : Instance W} (h : IsBuilt cells groups attrs inst) (i : Fin cells.length) :
    ∃ item, inst.items[(i : Nat)]? = some item ∧
      ∀ (id : Nat) (name : String), attrs.string? id = some name →
        (id ∈ item.map Prod.fst ↔
          name ∈ (Feature.extractAt (W := W) cells i groups).map Feature.name) ∧
        ∀ weight, (id, weight) ∈ item ↔ ⟨name, weight⟩ ∈ Feature.extractAt cells i groups := by
  obtain ⟨hlength, hdenotes⟩ := List.forall₂_iff_get.1 h.denotes
  have hi : (i : Nat) < inst.items.length := by
    rw [hlength, List.length_map, Feature.length_extractAll]
    exact i.isLt
  have hitem : Denotes attrs inst.items[(i : Nat)]
      ((Feature.extractAt cells i groups).filter fun feature => attrs.contains feature.name) := by
    simpa [Feature.extractAll, Feature.extractAt] using hdenotes i hi (by simp)
  refine ⟨inst.items[(i : Nat)], List.getElem?_eq_getElem hi, fun id name hid => ?_⟩
  have hknown : attrs.contains name = true := by
    rw [Lexicon.contains, (Lexicon.id?_eq_some_iff attrs _ _).2 hid]
    rfl
  have hmem (weight : W) : (id, weight) ∈ inst.items[(i : Nat)] ↔
      ⟨name, weight⟩ ∈ Feature.extractAt cells i groups := by
    rw [hitem.mem_iff hid, List.mem_filter, and_iff_left hknown]
  refine ⟨?_, hmem⟩
  simp only [List.mem_map, Prod.exists, exists_and_right, exists_eq_right, hmem]
  constructor
  · rintro ⟨weight, hfeature⟩
    exact ⟨_, hfeature, rfl⟩
  · rintro ⟨feature, hfeature, rfl⟩
    exact ⟨feature.weight, hfeature⟩

end Instance

/-! ### Weights -/

/-- Zero is neutral to the weights of features. -/
theorem Feature.IsWeight.zero_add {weight : Float} (h : IsWeight weight) :
    0 + weight = weight := by
  cases h with
  | one => decide +kernel
  | neighbour => decide +kernel
  | place => decide +kernel
  | count n => exact Decimal.zero_add_count n

/-- Some of the features of a token are told as they are. -/
theorem Feature.vector_of_sublist {cells : List Feature.Cell} {groups : List String}
    {features part : List (Feature Float)} (h : features ∈ Feature.extractAll cells groups)
    (hpart : part.Sublist features) :
    Feature.vector part = part.map fun feature => (feature.name, feature.weight) := by
  refine Feature.vector_eq_map ((nodup_names_of_mem_extractAll h).sublist (hpart.map _)) ?_
  intro feature hfeature
  exact ((fits_of_mem_extractAll h).weights feature (hpart.subset hfeature)).zero_add

/-- The features of a token are told as they are. -/
theorem vector_of_mem_extractAll {cells : List Feature.Cell} {groups : List String}
    {features : List (Feature Float)} (h : features ∈ Feature.extractAll cells groups) :
    Feature.vector features = features.map fun feature => (feature.name, feature.weight) :=
  Feature.vector_of_sublist h (.refl features)

/-! ### What a library sees -/

/-- No two features of a token share a name, whatever position it is taken at.  So a library sees of
each token of a name that is to be labeled the features that have a number, in order and with their
own weights; of a name that was learned it sees all features, and lexicons that grow learn every
name with a label for each token.  Only a token whose place cannot be told prevents that. -/
theorem toVectors_unmerged (cells : List Feature.Cell) (groups : List String) :
    (∀ at_ features, Feature.extract (W := Float) cells at_ groups = .ok features →
        (features.map Feature.name).Nodup) ∧
      (∀ misplacement, Feature.misplaced? cells groups = some misplacement →
        ∀ attrs labels? gold?, (labels? = none ∨ gold?.map List.length = some cells.length) →
          Instance.build (W := Float) attrs labels? cells gold? groups =
            ⟨attrs, labels?, .error misplacement.fault⟩) ∧
      (Feature.misplaced? cells groups = none → ∃ tokens : List (List (Feature Float)),
        tokens = Feature.extractAll cells groups ∧
        Feature.extractSequence cells groups = .ok tokens ∧
        (∀ attrs gold?, ∃ inst,
          Instance.build attrs none cells gold? groups = ⟨attrs, none, .ok inst⟩ ∧
          inst.toVectors attrs = tokens.map fun features =>
            (features.filter fun feature => attrs.contains feature.name).map fun feature =>
              (feature.name, feature.weight)) ∧
        (∀ attrs labels gold? attrs' labels? inst,
          Instance.build attrs (some labels) cells gold? groups = ⟨attrs', labels?, .ok inst⟩ →
            inst.toVectors attrs' = tokens.map fun features =>
              features.map fun feature => (feature.name, feature.weight)) ∧
        ∀ attrs labels gold, attrs.frozen = false → labels.frozen = false →
          gold.length = cells.length → ∃ attrs' labels' inst,
            Instance.build (W := Float) attrs (some labels) cells (some gold) groups =
              ⟨attrs', some labels', .ok inst⟩) := by
  refine ⟨fun at_ features h => ?_, fun misplacement h attrs labels? gold? hgold =>
    Instance.build_of_misplaced h attrs hgold, fun hplaced => ⟨_, rfl, ?_, fun attrs gold? => ?_,
      fun attrs labels gold? attrs' labels? inst h => ?_,
      fun attrs labels gold hattrs hlabels hgold => ?_⟩⟩
  · exact Feature.nodup_names_extract h
  · rw [Feature.extractSequence_eq, hplaced]
  · refine ⟨Instance.recognize attrs cells groups, ?_, ?_⟩
    · rw [Instance.build_none, hplaced]
    · rw [Instance.toVectors_recognize]
      exact List.map_congr_left fun features hfeatures =>
        Feature.vector_of_sublist hfeatures List.filter_sublist
  · obtain ⟨labels', -, hlearn⟩ := Instance.learn_of_build h
    obtain ⟨gold, -, -, hrenders⟩ := Vocabulary.learn_eq_ok hlearn
    rw [hrenders.toVectors]
    exact List.map_congr_left fun _ => vector_of_mem_extractAll
  · obtain ⟨v, inst, hlearn⟩ := Vocabulary.learnFeatures_growing (v := ⟨attrs, labels⟩)
      ⟨hattrs, hlabels⟩ (Feature.extractAll (W := Float) cells groups) gold
    refine ⟨v.attrs, v.labels, inst, ?_⟩
    rw [Instance.build_some attrs labels hgold, hplaced]
    simp only [hlearn]
    rfl

/-- Two tokens whose texts imitate a mark and the name of a feature. -/
theorem toVectors_unmerged_imitated :
    let cells := (Token.ofTexts ["BOS", "prev_1:BOS"]).map Feature.Cell.ofToken
    Feature.misplaced? cells ["context"] = none ∧ ["Given", "Surname"].length = cells.length ∧
      ∃ attrs labels inst,
        Instance.build .empty (some .empty) cells (some ["Given", "Surname"]) ["context"] =
          ⟨attrs, some labels, .ok inst⟩ ∧
        inst.toVectors attrs =
          [[("prev_1:BOS", (0.5 : Float)), ("prev_2:BOS", 0.5), ("next_1:prev_1:BOS", 0.8),
              ("next_2:EOS", 0.5), ("bias", 1.0)],
            [("prev_1:BOS", 0.8), ("prev_2:BOS", 0.5), ("next_1:EOS", 0.5), ("next_2:EOS", 0.5),
              ("bias", 1.0)]] := by
  intro cells
  have hplaced : Feature.misplaced? cells ["context"] = none := by decide +kernel
  have hlength : ["Given", "Surname"].length = cells.length := by decide +kernel
  obtain ⟨-, -, hnone⟩ := toVectors_unmerged cells ["context"]
  obtain ⟨tokens, rfl, -, -, hlearned, hlearn⟩ := hnone hplaced
  obtain ⟨attrs, labels, inst, hbuild⟩ := hlearn .empty .empty _ rfl rfl hlength
  refine ⟨hplaced, hlength, attrs, labels, inst, hbuild, ?_⟩
  rw [hlearned _ _ _ _ _ _ hbuild]
  decide +kernel

end NameTagger
