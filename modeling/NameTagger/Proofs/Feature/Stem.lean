import Mathlib.Data.List.Flatten
import Mathlib.Data.List.Forall2
import Mathlib.Data.List.Nodup
import NameTagger.Feature.Extract

/-!
# The names of the features of a token

The name of a feature begins with a stem, which ends with the first colon.  Texts come behind the
stem, so that the stems of all features are known beforehand; they differ from each other.

* `stem`, `stem_valued`: the stem of a name does not depend on the text in it;
* `IsWeight`: the weights that features have;
* `Fits`: the stems and the weights of some features are as they are expected;
* `ofGroup?_fits`, `extract?_fits`: the features of a group, and those of a token;
* `nodup_names_of_mem_extractAll`: no two features of a token share a name.
-/

namespace NameTagger.Feature

/-! ### Stems -/

/-- Characters up to the first colon. -/
def uptoColon : List Char → List Char
  | [] => []
  | c :: s => if c = ':' then [c] else c :: uptoColon s

/-- The beginning of a name up to the first colon; without one it is the whole name. -/
def stem (name : String) : String := String.ofList (uptoColon name.toList)

theorem uptoColon_append {label : List Char} (h : ':' ∈ label) (value : List Char) :
    uptoColon (label ++ value) = uptoColon label := by
  induction label with
  | nil => cases h
  | cons c label ih =>
    by_cases hc : c = ':'
    · simp [uptoColon, hc]
    · have hlabel : ':' ∈ label := (List.mem_cons.1 h).resolve_left (Ne.symm hc)
      simp [uptoColon, hc, ih hlabel]

/-- A label that is kept as a stem, whatever comes behind it. -/
def IsLabel (label : String) : Prop :=
  ':' ∈ label.toList ∧ label.toList.length ≤ longestName ∧ stem label = label

instance (label : String) : Decidable (IsLabel label) := inferInstanceAs (Decidable (_ ∧ _ ∧ _))

/-- A name that is not cut and has a given stem. -/
def HasStem (name label : String) : Prop :=
  name.toList.length ≤ longestName ∧ stem name = label

instance (name label : String) : Decidable (HasStem name label) :=
  inferInstanceAs (Decidable (_ ∧ _))

variable {W : Type}

/-- A text behind a label does not change the stem. -/
theorem stem_valued {label : String} (h : IsLabel label) (value : List Char) (weight : W) :
    stem (valued label value weight).name = label := by
  obtain ⟨hcolon, hshort, hstem⟩ := h
  rw [valued, cut, List.take_append, List.take_of_length_le hshort, stem, String.toList_ofList,
    uptoColon_append hcolon]
  exact hstem

theorem stem_of {name : String} (h : name.toList.length ≤ longestName) (weight : W) :
    stem (of name weight).name = stem name := by
  rw [of, cut, List.take_of_length_le h, String.ofList_toList]

/-- What becomes of each item of a list. -/
theorem forall₂_of_mapM {α β : Type} {f : α → Option β} {l : List α} {bs : List β}
    (h : l.mapM f = some bs) : List.Forall₂ (fun a b => f a = some b) l bs := by
  induction l generalizing bs with
  | nil =>
    obtain rfl : [] = bs := by simpa using h
    exact .nil
  | cons a l ih =>
    rw [List.mapM_cons] at h
    obtain ⟨b, hb, h⟩ := Option.bind_eq_some_iff.1 h
    obtain ⟨bs, hbs, h⟩ := Option.bind_eq_some_iff.1 h
    obtain rfl := Option.some.inj h
    exact .cons hb (ih hbs)

/-- Each item of a list becomes something. -/
theorem exists_mem_of_mapM {α β : Type} {f : α → Option β} {l : List α} {bs : List β}
    (h : l.mapM f = some bs) {a : α} (ha : a ∈ l) : ∃ b ∈ bs, f a = some b := by
  have hitems := forall₂_of_mapM h
  clear h
  induction hitems with
  | nil => cases ha
  | cons hb _ ih =>
    rcases List.mem_cons.1 ha with rfl | ha
    · exact ⟨_, List.mem_cons_self, hb⟩
    · obtain ⟨b, hmem, hb⟩ := ih ha
      exact ⟨b, List.mem_cons_of_mem _ hmem, hb⟩

/-! ### Weights -/

variable [OfScientific W]

/-- The weights that features have. -/
inductive IsWeight : W → Prop
  | one : IsWeight 1.0
  | neighbour : IsWeight 0.8
  | place : IsWeight 0.5
  | count (n : Nat) : IsWeight (count n)

/-- The names of features have stems out of a list, in its order, and their weights are such as
features have. -/
structure Fits (stems : List String) (features : List (Feature W)) : Prop where
  sublist : (features.map fun feature => stem feature.name).Sublist stems
  weights : ∀ feature ∈ features, IsWeight feature.weight

namespace Fits

variable {stems stems' : List String} {features features' : List (Feature W)}

theorem nil (stems : List String) : Fits (W := W) stems [] :=
  ⟨List.nil_sublist stems, List.forall_mem_nil _⟩

theorem append (h : Fits stems features) (h' : Fits stems' features') :
    Fits (stems ++ stems') (features ++ features') := by
  refine ⟨?_, List.forall_mem_append.2 ⟨h.weights, h'.weights⟩⟩
  rw [List.map_append]
  exact h.sublist.append h'.sublist

theorem mono (h : Fits stems features) (hstems : stems.Sublist stems') : Fits stems' features :=
  ⟨h.sublist.trans hstems, h.weights⟩

theorem ite {condition : Prop} [Decidable condition] (h : Fits stems features) :
    Fits stems (if condition then [] else features) := by
  split
  · exact nil stems
  · exact h

/-- A feature that shows a text behind a label. -/
theorem valued {label : String} (h : IsLabel label) (value : List Char) {weight : W}
    (hweight : IsWeight weight) : Fits [label] [valued label value weight] := by
  refine ⟨?_, List.forall_mem_singleton.2 hweight⟩
  rw [List.map_singleton, stem_valued h]

theorem plain {name label : String} (h : HasStem name label) :
    Fits (W := W) [label] [plain name] := by
  obtain ⟨hshort, hstem⟩ := h
  refine ⟨?_, List.forall_mem_singleton.2 .one⟩
  rw [List.map_singleton, Feature.plain, stem_of hshort, hstem]

theorem when {name label : String} (h : HasStem name label) (condition : Bool) :
    Fits (W := W) [label] (when condition name) := by
  rw [Feature.when]
  split
  · exact plain h
  · exact nil _

theorem map {α : Type} {label : α → String} {f : α → Feature W} {l : List α}
    (h : ∀ a ∈ l, Fits [label a] [f a]) : Fits (l.map label) (l.map f) := by
  induction l with
  | nil => exact nil _
  | cons a l ih =>
    obtain ⟨hhead, htail⟩ := List.forall_mem_cons.1 h
    exact hhead.append (ih htail)

/-- The features of several items, each of which has its own stem. -/
theorem mapM {α : Type} {label : α → String} {f : α → Option (Feature W)} {l : List α}
    (h : ∀ a ∈ l, ∀ feature, f a = some feature → Fits [label a] [feature])
    (hl : l.mapM f = some features) : Fits (l.map label) features := by
  have hitems := forall₂_of_mapM hl
  clear hl
  induction hitems with
  | nil => exact nil _
  | cons hfeature _ ih =>
    obtain ⟨hhead, htail⟩ := List.forall_mem_cons.1 h
    exact (hhead _ hfeature).append (ih htail)

/-- The features of several items, each of which has stems of its own. -/
theorem mapM_flatten {α : Type} {labels : α → List String} {f : α → Option (List (Feature W))}
    {parts : List (List (Feature W))} {l : List α}
    (h : ∀ a ∈ l, ∀ features, f a = some features → Fits (labels a) features)
    (hl : l.mapM f = some parts) : Fits (l.flatMap labels) parts.flatten := by
  have hitems := forall₂_of_mapM hl
  clear hl
  induction hitems with
  | nil => exact nil _
  | cons hfeatures _ ih =>
    obtain ⟨hhead, htail⟩ := List.forall_mem_cons.1 h
    rw [List.flatMap_cons, List.flatten_cons]
    exact (hhead _ hfeatures).append (ih htail)

end Fits

/-! ### The features of the groups -/

/-- The stems of the features of a group. -/
def Group.stems : Group → List String
  | .identity => ["token:", "lower:", "nopunc:"]
  | .shape => ["shape:"]
  | .affix =>
      (affixLengths.map fun n => "prefix_" ++ toString n ++ ":") ++
        affixLengths.map fun n => "suffix_" ++ toString n ++ ":"
  | .case => ["is_capitalized", "is_all_caps", "is_all_lower"]
  | .length => ["length", "length:"]
  | .character =>
      ["has_digit", "has_punct", "has_hyphen", "has_dot", "ends_with_dot", "is_numeric"]
  | .context =>
      ((distances contextWindow).map fun k => "prev_" ++ toString k ++ ":") ++
        (distances contextWindow).map fun k => "next_" ++ toString k ++ ":"
  | .position => ["is_first", "is_last", "singleton", "position:", "position_index:"]

theorem identity_fits (text : List Char) : Fits (W := W) Group.identity.stems (identity text) :=
  (Fits.valued (by decide) text .one).append
    ((Fits.valued (by decide) _ .one).append (Fits.valued (by decide) _ .one).ite)

theorem shape_fits (text : List Char) : Fits (W := W) Group.shape.stems (shape text) :=
  (Fits.valued (by decide) _ .one).ite

theorem affix_fits (text : List Char) : Fits (W := W) Group.affix.stems (affix text) := by
  have hbeginning : ∀ n ∈ affixLengths, IsLabel ("prefix_" ++ toString n ++ ":") := by
    decide +kernel
  have hsuffix : ∀ n ∈ affixLengths, IsLabel ("suffix_" ++ toString n ++ ":") := by
    decide +kernel
  have hlong : (affixLengths.filter (· ≤ (Form.bare text).length)).Sublist affixLengths :=
    List.filter_sublist
  refine Fits.append ?_ ?_
  · exact (Fits.map fun n hn => .valued (hbeginning n (hlong.subset hn)) _ .one).mono (hlong.map _)
  · exact (Fits.map fun n hn => .valued (hsuffix n (hlong.subset hn)) _ .one).mono (hlong.map _)

theorem case_fits (text : List Char) : Fits (W := W) Group.case.stems (case text) :=
  ((Fits.when (by decide) _).append (Fits.when (by decide) _)).append (Fits.when (by decide) _)

theorem hasStem_of_lengthBucket? {n : Nat} {name : String} (h : lengthBucket? n = some name) :
    HasStem name "length:" := by
  rw [lengthBucket?] at h
  split_ifs at h <;> obtain rfl := Option.some.inj h <;> decide

theorem length_fits (text : List Char) : Fits (W := W) Group.length.stems (length text) := by
  have hbucket : Fits (W := W) ["length:"] ((lengthBucket? text.length).map plain).toList := by
    cases hname : lengthBucket? text.length with
    | none => exact .nil _
    | some name => exact .plain (hasStem_of_lengthBucket? hname)
  have hcount : Fits (W := W) ["length"] [of "length" (count text.length)] :=
    ⟨by rw [List.map_singleton, stem_of (by decide)]; decide,
      List.forall_mem_singleton.2 (.count _)⟩
  exact hcount.append hbucket

theorem character_fits (text : List Char) :
    Fits (W := W) Group.character.stems (character text) :=
  (((((Fits.when (by decide) _).append (Fits.when (by decide) _)).append
    (Fits.when (by decide) _)).append (Fits.when (by decide) _)).append
      (Fits.when (by decide) _)).append (Fits.when (by decide) _)

/-- The feature for a neighbour is the mark of the end, or it shows the text of the neighbour. -/
theorem neighbour?_eq_some {cells : List Cell} {label endMark : String} {k : Nat} {i : Int}
    {inside : Bool} {feature : Feature W}
    (h : neighbour? cells label endMark k i inside = some feature) :
    inside = false ∧ feature = valued (label ++ toString k ++ ":") endMark.toList 0.5 ∨
      inside = true ∧ ∃ cell, Cell.at? cells i = some cell ∧
        feature = valued (label ++ toString k ++ ":") cell.shown 0.8 := by
  rw [neighbour?] at h
  cases inside with
  | false => exact .inl ⟨rfl, (Option.some.inj h).symm⟩
  | true =>
    obtain ⟨cell, hcell, hfeature⟩ := Option.map_eq_some_iff.1 h
    exact .inr ⟨rfl, cell, hcell, hfeature.symm⟩

/-- The features for the neighbours before a position and for those behind it. -/
theorem context?_eq_some {cells : List Cell} {position : Int} {window : Nat}
    {features : List (Feature W)} (h : context? cells position window = some features) :
    ∃ before behind, before? cells position window = some before ∧
      behind? cells position window = some behind ∧ before ++ behind = features := by
  obtain ⟨before, hbefore, h⟩ := Option.bind_eq_some_iff.1 h
  obtain ⟨behind, hbehind, h⟩ := Option.bind_eq_some_iff.1 h
  exact ⟨before, behind, hbefore, hbehind, Option.some.inj h⟩

theorem neighbour?_fits {cells : List Cell} {label endMark : String} {k : Nat} {i : Int}
    {inside : Bool} (h : IsLabel (label ++ toString k ++ ":")) {feature : Feature W}
    (hfeature : neighbour? cells label endMark k i inside = some feature) :
    Fits [label ++ toString k ++ ":"] [feature] := by
  rcases neighbour?_eq_some hfeature with ⟨-, rfl⟩ | ⟨-, cell, -, rfl⟩
  · exact .valued h _ .place
  · exact .valued h _ .neighbour

theorem context?_fits {cells : List Cell} {position : Int} {features : List (Feature W)}
    (h : context? cells position contextWindow = some features) :
    Fits Group.context.stems features := by
  obtain ⟨before, behind, hbefore, hbehind, rfl⟩ := context?_eq_some h
  have hprev : ∀ k ∈ distances contextWindow, IsLabel ("prev_" ++ toString k ++ ":") := by
    decide +kernel
  have hnext : ∀ k ∈ distances contextWindow, IsLabel ("next_" ++ toString k ++ ":") := by
    decide +kernel
  exact (Fits.mapM (fun k hk _ hfeature => neighbour?_fits (hprev k hk) hfeature) hbefore).append
    (Fits.mapM (fun k hk _ hfeature => neighbour?_fits (hnext k hk) hfeature) hbehind)

/-- A token stands in a part of the name, or alone. -/
theorem plain_thirdName_fits (cell : Cell) (total : Nat) :
    Fits (W := W) ["singleton", "position:"] [plain (thirdName cell total)] := by
  rw [thirdName]
  cases third? cell.position total with
  | none => exact (Fits.plain (by decide)).mono (by decide : ["singleton"].Sublist _)
  | some third =>
    have hthird : HasStem ("position:" ++ third.name) "position:" := by
      cases third <;> decide
    exact (Fits.plain hthird).mono (by decide)

theorem position_fits (cell : Cell) (total : Nat) :
    Fits (W := W) Group.position.stems (position cell total) :=
  ((Fits.when (by decide) _).append (Fits.when (by decide) _)).append
    ((plain_thirdName_fits cell total).append (Fits.valued (by decide) _ .place))

/-- The features of a group have the stems of the group. -/
theorem ofGroup?_fits {cells : List Cell} {at_ : Int} {cell : Cell} {group : Group}
    {features : List (Feature W)} (h : ofGroup? cells at_ cell group = some features) :
    Fits group.stems features := by
  cases group with
  | identity => exact Option.some.inj h ▸ identity_fits _
  | shape => exact Option.some.inj h ▸ shape_fits _
  | affix => exact Option.some.inj h ▸ affix_fits _
  | case => exact Option.some.inj h ▸ case_fits _
  | length => exact Option.some.inj h ▸ length_fits _
  | character => exact Option.some.inj h ▸ character_fits _
  | context => exact context?_fits h
  | position => exact Option.some.inj h ▸ position_fits _ _

/-! ### The features of a token -/

/-- The stems of the features of a token. -/
def stems : List String := Group.all.flatMap Group.stems ++ ["bias"]

theorem nodup_stems : stems.Nodup := by decide +kernel

theorem extract?_fits {cells : List Cell} {at_ : Int} {groups : List String}
    {features : List (Feature W)} (h : extract? cells at_ groups = some features) :
    Fits stems features := by
  obtain ⟨cell, -, h⟩ := Option.bind_eq_some_iff.1 h
  obtain ⟨parts, hparts, h⟩ := Option.bind_eq_some_iff.1 h
  obtain rfl := Option.some.inj h
  have henabled : ((enabled groups).flatMap Group.stems).Sublist (Group.all.flatMap Group.stems) :=
    List.filter_sublist.flatMap Group.stems
  exact ((Fits.mapM_flatten (fun _ _ _ => ofGroup?_fits) hparts).mono henabled).append
    (Fits.plain (by decide))

theorem fits_of_mem_extractAll {cells : List Cell} {groups : List String}
    {features : List (Feature W)} (h : features ∈ extractAll cells groups) :
    Fits stems features := by
  obtain ⟨i, rfl⟩ := List.mem_ofFn.1 h
  exact extract?_fits (Option.some_get _).symm

/-- No two features of a token share a name. -/
theorem Fits.nodup_names {features : List (Feature W)} (h : Fits stems features) :
    (features.map Feature.name).Nodup := by
  have hstems : ((features.map Feature.name).map stem).Nodup := by
    rw [List.map_map]
    exact nodup_stems.sublist h.sublist
  exact hstems.of_map stem

theorem nodup_names_of_mem_extractAll {cells : List Cell} {groups : List String}
    {features : List (Feature W)} (h : features ∈ extractAll cells groups) :
    (features.map Feature.name).Nodup :=
  (fits_of_mem_extractAll h).nodup_names

end NameTagger.Feature
