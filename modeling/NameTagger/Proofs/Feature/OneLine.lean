import NameTagger.Proofs.Feature.Stem
import NameTagger.Proofs.Text.OneLine

/-!
# Features that are named on one line

The name of a feature quotes the texts of a token and of its neighbours, in several forms.  None of
them brings in white space that the texts do not have.

* `Cell.IsOneLine`: a cell whose text is on one line;
* `IsOneLine`: a name that is on one line and not too long, whatever was cut off;
* `identity_oneLine` to `position_oneLine`: the features of each group;
* `oneLine_of_mem_extractAll`: the features of a token;
* `name_ne_empty_of_mem_extractAll`: none of them is without a name.
-/

namespace NameTagger

open Text

/-! ### Forms of a text -/

theorem Form.isOneLine_bare {s : List Char} (h : IsOneLine s) : IsOneLine (bare s) :=
  h.lower.mono (List.filter_subset_self _)

/-- The signs of a shape are letters. -/
theorem Form.isOneLine_shape {s : List Char} (h : IsOneLine s) : IsOneLine (shape s) := by
  refine .of_blank fun d hd hblank => ?_
  obtain ⟨c, hc, rfl⟩ := List.mem_map.1 hd
  rw [shapeChar] at hblank ⊢
  split_ifs at hblank ⊢
  · cases hblank
  · cases hblank
  · cases hblank
  · exact h.blank c hc hblank

theorem isOneLine_toDigits (n : Nat) : IsOneLine (Nat.toDigits 10 n) := by
  refine .of_blank fun c hc hblank => ?_
  have hdigit := Nat.isDigit_of_mem_toDigits (by decide) (by decide) hc
  obtain ⟨span, hspan, hfirst, hlast⟩ := exists_span_of_mem hblank
  -- the digits lie between two spans of white space
  have hapart : ∀ span ∈ blankSpans, span.last < '0'.toNat ∨ '9'.toNat < span.first := by decide
  obtain ⟨hzero, hnine⟩ := Bool.and_eq_true_iff.1 hdigit
  have hzero' : '0'.toNat ≤ c.toNat := UInt32.le_iff_toNat_le.1 (of_decide_eq_true hzero)
  have hnine' : c.toNat ≤ '9'.toNat := UInt32.le_iff_toNat_le.1 (of_decide_eq_true hnine)
  have := hapart span hspan
  omega

/-- A number is written with digits, behind a sign if it is negative. -/
theorem isOneLine_toString_int (i : Int) : IsOneLine (toString i).toList := by
  cases i with
  | ofNat n =>
    show IsOneLine (Nat.repr n).toList
    rw [Nat.toList_repr]
    exact isOneLine_toDigits n
  | negSucc n =>
    show IsOneLine ("-" ++ Nat.repr (n + 1)).toList
    rw [String.toList_append, Nat.toList_repr]
    exact IsOneLine.append (by decide) (isOneLine_toDigits _)

namespace Feature

/-- A cell with a text on one line. -/
def Cell.IsOneLine (cell : Cell) : Prop :=
  ∃ text, cell.text = some text ∧ Text.IsOneLine text.toList

theorem Cell.IsOneLine.own {cell : Cell} (h : cell.IsOneLine) : Text.IsOneLine cell.own := by
  obtain ⟨text, htext, hline⟩ := h
  rw [Cell.own, htext]
  exact hline

theorem Cell.IsOneLine.shown {cell : Cell} (h : cell.IsOneLine) : Text.IsOneLine cell.shown := by
  obtain ⟨text, htext, hline⟩ := h
  rw [Cell.shown, htext]
  exact hline

/-! ### Names -/

variable {W : Type}

/-- The name of a feature is on one line and not too long. -/
structure IsOneLine (feature : Feature W) : Prop where
  short : feature.name.toList.length ≤ longestName
  name : Text.IsOneLine feature.name.toList

/-- A part of a name that is cut off does no harm. -/
theorem isOneLine_cut {name : List Char} (h : Text.IsOneLine name) (weight : W) :
    IsOneLine ⟨cut name, weight⟩ := by
  refine ⟨?_, ?_⟩
  · rw [cut, String.toList_ofList]
    exact List.length_take_le _ _
  · rw [cut, String.toList_ofList]
    exact h.mono (List.take_subset _ _)

theorem valued_oneLine {label : String} (hlabel : Text.IsOneLine label.toList)
    {value : List Char} (hvalue : Text.IsOneLine value) (weight : W) :
    IsOneLine (valued label value weight) :=
  isOneLine_cut (hlabel.append hvalue) weight

variable [OfScientific W]

theorem plain_oneLine {name : String} (h : Text.IsOneLine name.toList) :
    IsOneLine (W := W) (plain name) :=
  isOneLine_cut h _

theorem when_oneLine {name : String} (h : Text.IsOneLine name.toList) (condition : Bool) :
    ∀ feature ∈ when (W := W) condition name, IsOneLine feature := by
  rw [when]
  split
  · exact List.forall_mem_singleton.2 (plain_oneLine h)
  · exact List.forall_mem_nil _

/-! ### The features of the groups -/

section

variable {text : List Char} (h : Text.IsOneLine text)
include h

theorem identity_oneLine : ∀ feature ∈ identity (W := W) text, IsOneLine feature := by
  refine List.forall_mem_cons.2 ⟨valued_oneLine (by decide) h _,
    List.forall_mem_cons.2 ⟨valued_oneLine (by decide) h.lower _, ?_⟩⟩
  split
  · exact List.forall_mem_nil _
  · exact List.forall_mem_singleton.2
      (valued_oneLine (by decide) (Form.isOneLine_bare h) _)

theorem shape_oneLine : ∀ feature ∈ shape (W := W) text, IsOneLine feature := by
  rw [shape]
  split
  · exact List.forall_mem_nil _
  · exact List.forall_mem_singleton.2
      (valued_oneLine (by decide) (Form.isOneLine_shape h) _)

theorem affix_oneLine : ∀ feature ∈ affix (W := W) text, IsOneLine feature := by
  have hbare := Form.isOneLine_bare h
  have hfront (n : Int) : Text.IsOneLine ((Form.front? n (Form.bare text)).getD []) := by
    rw [Form.front?]
    split
    · exact hbare.mono (List.nil_subset _)
    · exact hbare.mono (List.take_subset _ _)
  have hback (n : Int) : Text.IsOneLine ((Form.back? n (Form.bare text)).getD []) := by
    rw [Form.back?]
    split
    · exact hbare.mono (List.nil_subset _)
    · exact hbare.mono (List.drop_subset _ _)
  have hbeginning : ∀ n ∈ affixLengths, Text.IsOneLine ("prefix_" ++ toString n ++ ":").toList := by
    decide +kernel
  have hend : ∀ n ∈ affixLengths, Text.IsOneLine ("suffix_" ++ toString n ++ ":").toList := by
    decide +kernel
  refine List.forall_mem_append.2 ⟨?_, ?_⟩
  · refine List.forall_mem_map.2 fun n hn => ?_
    exact valued_oneLine (hbeginning n (List.mem_of_mem_filter hn)) (hfront n) _
  · refine List.forall_mem_map.2 fun n hn => ?_
    exact valued_oneLine (hend n (List.mem_of_mem_filter hn)) (hback n) _

end

theorem case_oneLine (text : List Char) : ∀ feature ∈ case (W := W) text, IsOneLine feature :=
  List.forall_mem_append.2 ⟨List.forall_mem_append.2
    ⟨when_oneLine (by decide) _, when_oneLine (by decide) _⟩, when_oneLine (by decide) _⟩

theorem length_oneLine (text : List Char) :
    ∀ feature ∈ length (W := W) text, IsOneLine feature := by
  refine List.forall_mem_cons.2 ⟨isOneLine_cut (by decide) _, fun feature hfeature => ?_⟩
  obtain ⟨name, hname, rfl⟩ := Option.map_eq_some_iff.1 (Option.mem_toList.1 hfeature)
  rw [lengthBucket?] at hname
  split_ifs at hname <;> obtain rfl := Option.some.inj hname <;> exact plain_oneLine (by decide)

theorem character_oneLine (text : List Char) :
    ∀ feature ∈ character (W := W) text, IsOneLine feature := by
  simp only [character, List.forall_mem_append]
  exact ⟨⟨⟨⟨⟨when_oneLine (by decide) _, when_oneLine (by decide) _⟩,
    when_oneLine (by decide) _⟩, when_oneLine (by decide) _⟩, when_oneLine (by decide) _⟩,
      when_oneLine (by decide) _⟩

/-- What holds of each item that a list was turned into. -/
theorem forall_mem_of_mapM {α β : Type} {f : α → Option β} {l : List α} {bs : List β}
    {P : β → Prop} (h : ∀ a ∈ l, ∀ b, f a = some b → P b) (hl : l.mapM f = some bs) :
    ∀ b ∈ bs, P b := by
  have hitems := forall₂_of_mapM hl
  clear hl
  induction hitems with
  | nil => exact List.forall_mem_nil _
  | cons hitem _ ih =>
    obtain ⟨hhead, htail⟩ := List.forall_mem_cons.1 h
    exact List.forall_mem_cons.2 ⟨hhead _ hitem, ih htail⟩

section

variable {cells : List Cell} (hcells : ∀ cell ∈ cells, cell.IsOneLine)
include hcells

theorem Cell.isOneLine_of_at? {i : Int} {cell : Cell} (h : Cell.at? cells i = some cell) :
    cell.IsOneLine := by
  rw [Cell.at?] at h
  split_ifs at h
  · exact hcells cell (List.mem_of_getElem? h)
  · exact hcells cell (List.mem_of_getElem? h)

theorem neighbour?_oneLine {label endMark : String} {k : Nat} {i : Int} {inside : Bool}
    (hlabel : Text.IsOneLine (label ++ toString k ++ ":").toList)
    (hmark : Text.IsOneLine endMark.toList) {feature : Feature W}
    (hfeature : neighbour? cells label endMark k i inside = some feature) : IsOneLine feature := by
  rcases neighbour?_eq_some hfeature with ⟨-, rfl⟩ | ⟨-, cell, hcell, rfl⟩
  · exact valued_oneLine hlabel hmark _
  · exact valued_oneLine hlabel (Cell.isOneLine_of_at? hcells hcell).shown _

theorem context?_oneLine {position : Int} {features : List (Feature W)}
    (h : context? cells position contextWindow = some features) :
    ∀ feature ∈ features, IsOneLine feature := by
  obtain ⟨before, behind, hbefore, hbehind, rfl⟩ := context?_eq_some h
  have hprev : ∀ k ∈ distances contextWindow,
      Text.IsOneLine ("prev_" ++ toString k ++ ":").toList := by decide +kernel
  have hnext : ∀ k ∈ distances contextWindow,
      Text.IsOneLine ("next_" ++ toString k ++ ":").toList := by decide +kernel
  refine List.forall_mem_append.2 ⟨?_, ?_⟩
  · exact forall_mem_of_mapM (fun k hk _ hfeature =>
      neighbour?_oneLine hcells (hprev k hk) (by decide) hfeature) hbefore
  · exact forall_mem_of_mapM (fun k hk _ hfeature =>
      neighbour?_oneLine hcells (hnext k hk) (by decide) hfeature) hbehind

end

theorem position_oneLine (cell : Cell) (total : Nat) :
    ∀ feature ∈ position (W := W) cell total, IsOneLine feature := by
  have hthird : Text.IsOneLine (thirdName cell total).toList := by
    rw [thirdName]
    cases third? cell.position total with
    | none => decide
    | some third => cases third <;> decide
  refine List.forall_mem_append.2 ⟨List.forall_mem_append.2
    ⟨when_oneLine (by decide) _, when_oneLine (by decide) _⟩, ?_⟩
  exact List.forall_mem_cons.2 ⟨plain_oneLine hthird, List.forall_mem_singleton.2
    (valued_oneLine (by decide) (isOneLine_toString_int cell.position) _)⟩

theorem ofGroup?_oneLine {cells : List Cell} (hcells : ∀ cell ∈ cells, cell.IsOneLine)
    {at_ : Int} {cell : Cell} (hcell : cell.IsOneLine) {group : Group}
    {features : List (Feature W)} (h : ofGroup? cells at_ cell group = some features) :
    ∀ feature ∈ features, IsOneLine feature := by
  cases group with
  | identity => exact Option.some.inj h ▸ identity_oneLine hcell.own
  | shape => exact Option.some.inj h ▸ shape_oneLine hcell.own
  | affix => exact Option.some.inj h ▸ affix_oneLine hcell.own
  | case => exact Option.some.inj h ▸ case_oneLine cell.own
  | length => exact Option.some.inj h ▸ length_oneLine cell.own
  | character => exact Option.some.inj h ▸ character_oneLine cell.own
  | context => exact context?_oneLine hcells h
  | position => exact Option.some.inj h ▸ position_oneLine cell cells.length

/-! ### The features of a token -/

theorem extract?_oneLine {cells : List Cell} (hcells : ∀ cell ∈ cells, cell.IsOneLine) {at_ : Int}
    {groups : List String} {features : List (Feature W)}
    (h : extract? cells at_ groups = some features) : ∀ feature ∈ features, IsOneLine feature := by
  obtain ⟨cell, hcell, h⟩ := Option.bind_eq_some_iff.1 h
  obtain ⟨parts, hparts, h⟩ := Option.bind_eq_some_iff.1 h
  obtain rfl := Option.some.inj h
  have hown := Cell.isOneLine_of_at? hcells hcell
  have hline := forall_mem_of_mapM (fun _ _ _ => ofGroup?_oneLine hcells hown) hparts
  refine List.forall_mem_append.2 ⟨fun feature hfeature => ?_,
    List.forall_mem_singleton.2 (plain_oneLine (by decide))⟩
  obtain ⟨part, hpart, hmem⟩ := List.mem_flatten.1 hfeature
  exact hline part hpart feature hmem

theorem oneLine_of_mem_extractAll {cells : List Cell} (hcells : ∀ cell ∈ cells, cell.IsOneLine)
    {groups : List String} {features : List (Feature W)} (h : features ∈ extractAll cells groups) :
    ∀ feature ∈ features, IsOneLine feature := by
  obtain ⟨i, rfl⟩ := List.mem_ofFn.1 h
  exact extract?_oneLine hcells (Option.some_get _).symm

/-- Every feature has a name, as the stems are not empty. -/
theorem name_ne_empty_of_mem_extractAll {cells : List Cell} {groups : List String}
    {features : List (Feature W)} (h : features ∈ extractAll cells groups) :
    ∀ feature ∈ features, feature.name ≠ "" := by
  intro feature hfeature hname
  have hstem : stem feature.name ∈ stems :=
    (fits_of_mem_extractAll h).sublist.subset (List.mem_map_of_mem hfeature)
  rw [hname] at hstem
  exact absurd hstem (by decide +kernel)

end Feature

end NameTagger
