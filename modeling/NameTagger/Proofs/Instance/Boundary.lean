import NameTagger.Proofs.Feature.Near
import NameTagger.Proofs.Instance.Unmerged

/-!
# Marks of the ends of a name

Where a token has no neighbour, a mark stands in the place of the neighbour's text.  The mark is not
kept apart from texts: a neighbour that is spelled like it gives a feature of the same name, and
there is one number for both.  No other neighbour does, however long its text is, and the weight
tells the two apart.

* `cut_eq_cut_iff`: no other name is cut to one that is shorter than names may be;
* `IsMark`, `IsMark.name_valued_eq_iff`: no other text gives the name of a mark;
* `exists_neighbours`: the features of a token for its neighbours;
* `Shows`: when the features of a token, and the item that stands for them, show a mark;
* `IsMark.shows`: this is told by the neighbour for which the mark would stand;
* `shows_ends`: the marks for both ends of a name.
-/

namespace NameTagger.Feature

variable {W : Type}

/-! ### Names and marks -/

/-- A name that is not as long as names may be is not what is left of another one. -/
theorem cut_eq_cut_iff {name mark : List Char} (h : mark.length < longestName) :
    cut name = cut mark ↔ name = mark := by
  refine ⟨fun heq => ?_, congrArg cut⟩
  have htake : name.take longestName = mark := by
    rw [cut, cut, String.ofList_inj, List.take_of_length_le h.le] at heq
    exact heq
  have hshort : name.length < longestName := by
    rw [← htake, List.length_take] at h
    omega
  rwa [List.take_of_length_le hshort.le] at htake

/-- The name with which a mark stands for a neighbour at a distance. -/
def markName (label mark : String) (k : Nat) : String := label ++ toString k ++ ":" ++ mark

/-- A mark behind a label that is kept as a stem; both together are shorter than names may be. -/
def IsMark (label mark : String) (k : Nat) : Prop :=
  IsLabel (label ++ toString k ++ ":") ∧ (markName label mark k).length < longestName

instance (label mark : String) (k : Nat) : Decidable (IsMark label mark k) :=
  inferInstanceAs (Decidable (_ ∧ _))

/-- A mark is not cut, and no other text behind its label gives the same name. -/
theorem IsMark.name_valued_eq_iff {label mark : String} {k : Nat} (h : IsMark label mark k)
    (value : List Char) (weight : W) :
    (valued (label ++ toString k ++ ":") value weight).name = markName label mark k ↔
      value = mark.toList := by
  have hmark : markName label mark k =
      cut ((label ++ toString k ++ ":").toList ++ mark.toList) := by
    rw [← String.toList_append, cut, List.take_of_length_le, String.ofList_toList]
    · rfl
    · exact h.2.le
  have hshort : ((label ++ toString k ++ ":").toList ++ mark.toList).length < longestName := by
    rw [← String.toList_append]
    exact h.2
  rw [hmark, valued, cut_eq_cut_iff hshort, List.append_right_inj]

variable [OfScientific W]

/-! ### The features of the neighbours -/

section

variable {cells : List Cell} {i : Fin cells.length} {groups : List String} {k : Nat}

/-- With the neighbours switched on, the features of a token show each of them. -/
theorem exists_neighbours (hgroups : Group.context.name ∈ groups)
    (hk : k ∈ distances contextWindow) :
    (∃ feature ∈ extractAt (W := W) cells i groups,
      neighbour? cells "prev_" "BOS" k ((i : Nat) - k) (0 ≤ ((i : Nat) : Int) - k) = some feature) ∧
      ∃ feature ∈ extractAt (W := W) cells i groups,
        neighbour? cells "next_" "EOS" k ((i : Nat) + k) (((i : Nat) : Int) + k < cells.length) =
          some feature := by
  have hpart : ofGroup? (W := W) cells i cells[i] .context = some (partAt cells i .context) :=
    (Option.some_get _).symm
  obtain ⟨before, behind, hbefore, hbehind, hboth⟩ := context?_eq_some hpart
  have hall : ∀ feature ∈ before ++ behind, feature ∈ extractAt cells i groups := by
    intro feature hfeature
    rw [extractAt_eq, List.mem_append, List.mem_flatMap]
    exact .inl ⟨.context, mem_enabled.2 hgroups, hboth ▸ hfeature⟩
  constructor
  · obtain ⟨feature, hmem, heq⟩ := exists_mem_of_mapM hbefore hk
    exact ⟨feature, hall feature (List.mem_append_left _ hmem), heq⟩
  · obtain ⟨feature, hmem, heq⟩ := exists_mem_of_mapM hbehind hk
    exact ⟨feature, hall feature (List.mem_append_right _ hmem), heq⟩

end

/-! ### The mark in the place of a neighbour -/

section

variable {cells : List Cell} {label mark : String} {k : Nat} {at_ : Int} {inside : Bool}
  {feature : Feature W}

/-- The feature for a neighbour has the name of the mark if there is no neighbour, or one that is
spelled like the mark. -/
theorem IsMark.name_eq_iff (hmark : IsMark label mark k)
    (h : neighbour? cells label mark k at_ inside = some feature) :
    feature.name = markName label mark k ↔
      inside = false ∨
        inside = true ∧ (Cell.at? cells at_).map Cell.shown = some mark.toList := by
  rcases neighbour?_eq_some h with ⟨rfl, rfl⟩ | ⟨rfl, cell, hcell, rfl⟩
  · exact iff_of_true ((hmark.name_valued_eq_iff _ _).2 rfl) (.inl rfl)
  · rw [hmark.name_valued_eq_iff, hcell, Option.map_some, Option.some_inj]
    simp

/-- The feature for a neighbour has the stem of the mark, whatever it shows. -/
theorem IsMark.stem_eq (hmark : IsMark label mark k)
    (h : neighbour? cells label mark k at_ inside = some feature) :
    stem feature.name = stem (markName label mark k) := by
  have hstem (value : List Char) (weight : W) :
      stem (valued (label ++ toString k ++ ":") value weight).name =
        stem (markName label mark k) := by
    rw [← (hmark.name_valued_eq_iff mark.toList weight).2 rfl, stem_valued hmark.1,
      stem_valued hmark.1]
  rcases neighbour?_eq_some h with ⟨-, rfl⟩ | ⟨-, cell, -, rfl⟩
  · exact hstem _ _
  · exact hstem _ _

end

/-- Only the mark has the weight of a mark. -/
theorem weight_eq_iff {cells : List Cell} {label mark : String} {k : Nat} {at_ : Int}
    {inside : Bool} {feature : Feature Float}
    (h : neighbour? cells label mark k at_ inside = some feature) :
    feature.weight = 0.5 ↔ inside = false := by
  have hweights : ¬ (0.8 : Float) = 0.5 := by decide +kernel
  rcases neighbour?_eq_some h with ⟨rfl, rfl⟩ | ⟨rfl, cell, -, rfl⟩
  · exact iff_of_true rfl rfl
  · exact iff_of_false hweights nofun

/-- When the features of a token have the name of a mark: where the neighbour is beyond the end, and
where it is spelled like the mark.  The weight of a mark is there in the first case only; the item
that stands for the features has the number of the name in both. -/
structure Shows (cells : List Cell) (groups : List String) (i : Fin cells.length) (name : String)
    (beyond alike : Prop) : Prop where
  name_mem : name ∈ (extractAt (W := Float) cells i groups).map Feature.name ↔ beyond ∨ alike
  mem : ⟨name, (0.5 : Float)⟩ ∈ extractAt cells i groups ↔ beyond
  exists_item : ∀ (attrs : Lexicon) (inst : Instance Float),
    Instance.IsBuilt cells groups attrs inst →
      ∃ item, inst.items[(i : Nat)]? = some item ∧ ∀ id, attrs.string? id = some name →
        (id ∈ item.map Prod.fst ↔ beyond ∨ alike) ∧ ((id, 0.5) ∈ item ↔ beyond)

theorem Shows.congr {cells : List Cell} {groups : List String} {i : Fin cells.length}
    {name : String} {beyond beyond' alike alike' : Prop}
    (h : Shows cells groups i name beyond alike) (hbeyond : beyond ↔ beyond')
    (halike : alike ↔ alike') : Shows cells groups i name beyond' alike' := by
  rwa [← hbeyond, ← halike]

/-- A mark is shown by the one feature that there is for the neighbour. -/
theorem IsMark.shows {cells : List Cell} {groups : List String} {i : Fin cells.length}
    {label mark : String} {k : Nat} {at_ : Int} {inside : Bool} {feature : Feature Float}
    (hmark : IsMark label mark k) (hfeature : feature ∈ extractAt cells i groups)
    (h : neighbour? cells label mark k at_ inside = some feature) :
    Shows cells groups i (markName label mark k) (inside = false)
      (inside = true ∧ (Cell.at? cells at_).map Cell.shown = some mark.toList) := by
  have hunique : ∀ other ∈ extractAt cells i groups, other.name = markName label mark k →
      other = feature := fun other hother hname =>
    eq_of_stem_eq hother hfeature (hname ▸ (hmark.stem_eq h).symm)
  have hnames : markName label mark k ∈ (extractAt (W := Float) cells i groups).map Feature.name ↔
      inside = false ∨
        inside = true ∧ (Cell.at? cells at_).map Cell.shown = some mark.toList := by
    rw [← hmark.name_eq_iff h, List.mem_map]
    constructor
    · rintro ⟨other, hother, hname⟩
      exact hunique other hother hname ▸ hname
    · exact fun hname => ⟨feature, hfeature, hname⟩
  have hmem : ⟨markName label mark k, (0.5 : Float)⟩ ∈ extractAt cells i groups ↔
      inside = false := by
    rw [← weight_eq_iff h]
    constructor
    · exact fun hother => congrArg weight (hunique _ hother rfl).symm
    · intro hweight
      have hname := (hmark.name_eq_iff h).2 (.inl ((weight_eq_iff h).1 hweight))
      rwa [← hname, ← hweight]
  refine ⟨hnames, hmem, fun attrs inst hinst => ?_⟩
  obtain ⟨item, hitem, hids⟩ := hinst.exists_item i
  refine ⟨item, hitem, fun id hid => ?_⟩
  obtain ⟨hid, hentry⟩ := hids id _ hid
  exact ⟨hid.trans hnames, (hentry 0.5).trans hmem⟩

/-! ### The ends of a name -/

/-- The text at a place among the tokens, as a neighbour shows it. -/
theorem shown_at?_iff (tokens : List Token) (j : Nat) (mark : String) :
    (Cell.at? (tokens.map Cell.ofToken) (j : Int)).map Cell.shown = some mark.toList ↔
      tokens[j]?.map Token.text = some mark := by
  rw [Cell.at?_natCast, List.getElem?_map, Option.map_map]
  cases tokens[j]? with
  | none => exact iff_of_false nofun nofun
  | some token =>
    rw [Option.map_some, Option.map_some, Option.some_inj, Option.some_inj]
    exact String.toList_inj

/-- With the neighbours switched on, the features of a token have the name of the mark for the start
of the name just if there is no token so many places before it, or one that reads `BOS`; and in the
same way for its end and `EOS`.  A feature with this name and the weight of a mark is there in the
first case only.  So the number of the name, which an item has in both cases, is never that of a
token with a neighbour that is spelled differently, whatever lexicon numbers the features. -/
theorem shows_ends (tokens : List Token) {groups : List String}
    (hgroups : Group.context.name ∈ groups) (i : Fin (tokens.map Cell.ofToken).length) {k : Nat}
    (hnear : 1 ≤ k) (hwindow : k ≤ contextWindow) :
    Shows (tokens.map Cell.ofToken) groups i ("prev_" ++ toString k ++ ":BOS") ((i : Nat) < k)
        (∃ j, j + k = i ∧ tokens[j]?.map Token.text = some "BOS") ∧
      Shows (tokens.map Cell.ofToken) groups i ("next_" ++ toString k ++ ":EOS")
        (tokens.length ≤ i + k) (tokens[i + k]?.map Token.text = some "EOS") := by
  have hk : k ∈ distances contextWindow := mem_distances.2 ⟨hnear, hwindow⟩
  have hstart : ∀ k ∈ distances contextWindow, IsMark "prev_" "BOS" k := by decide +kernel
  have hend : ∀ k ∈ distances contextWindow, IsMark "next_" "EOS" k := by decide +kernel
  obtain ⟨⟨before, hbefore, hprev⟩, behind, hbehind, hnext⟩ :=
    exists_neighbours (W := Float) (i := i) hgroups hk
  have hstarts := (hstart k hk).shows hbefore hprev
  have hends := (hend k hk).shows hbehind hnext
  rw [markName, String.append_assoc] at hstarts hends
  have hlength : (tokens.map Cell.ofToken).length = tokens.length := List.length_map _
  constructor
  · refine hstarts.congr ?_ ?_
    · rw [decide_eq_false_iff_not]
      omega
    · rw [decide_eq_true_iff]
      constructor
      · rintro ⟨hinside, hshown⟩
        obtain ⟨j, hj⟩ := Int.eq_ofNat_of_zero_le hinside
        rw [hj, shown_at?_iff] at hshown
        exact ⟨j, by omega, hshown⟩
      · rintro ⟨j, hj, htext⟩
        have hcast : ((i : Nat) : Int) - k = (j : Nat) := by omega
        rw [hcast, shown_at?_iff]
        exact ⟨Int.natCast_nonneg j, htext⟩
  · refine hends.congr ?_ ?_
    · rw [decide_eq_false_iff_not]
      omega
    · rw [decide_eq_true_iff, ← Int.natCast_add, shown_at?_iff, and_iff_right_iff_imp]
      intro htext
      obtain ⟨token, htoken, -⟩ := Option.map_eq_some_iff.1 htext
      obtain ⟨hlt, -⟩ := List.getElem?_eq_some_iff.1 htoken
      omega

/-- The first of two tokens, the second of which is spelled like the mark for the end. -/
theorem shows_ends_spelled_alike :
    let cells := (Token.ofText "Ann EOS").map Cell.ofToken
    ∃ i : Fin cells.length, (i : Nat) = 0 ∧ Group.context.name ∈ Group.names ∧
      1 ≤ contextWindow ∧ ⟨"prev_1:BOS", (0.5 : Float)⟩ ∈ extractAt cells i Group.names ∧
      "next_1:EOS" ∈ (extractAt (W := Float) cells i Group.names).map Feature.name ∧
      ⟨"next_1:EOS", (0.5 : Float)⟩ ∉ extractAt cells i Group.names := by
  intro cells
  have hgroups : Group.context.name ∈ Group.names := by decide
  have hwindow : 1 ≤ contextWindow := by decide
  have hprev : "prev_" ++ toString 1 ++ ":BOS" = "prev_1:BOS" := by decide +kernel
  have hnext : "next_" ++ toString 1 ++ ":EOS" = "next_1:EOS" := by decide +kernel
  let i : Fin cells.length := ⟨0, by decide +kernel⟩
  obtain ⟨hstart, hend⟩ := shows_ends (Token.ofText "Ann EOS") hgroups i le_rfl hwindow
  rw [hprev] at hstart
  rw [hnext] at hend
  have hlength : (Token.ofText "Ann EOS").length = 2 := by decide +kernel
  have halike : (Token.ofText "Ann EOS")[0 + 1]?.map Token.text = some "EOS" := by decide +kernel
  refine ⟨i, rfl, hgroups, hwindow, hstart.mem.2 Nat.one_pos, hend.name_mem.2 (.inr halike), ?_⟩
  rw [hend.mem, hlength]
  decide

/-- Marks are not reserved: a token behind one that reads `BOS` has the name of a mark too. -/
theorem not_marks_only_beyond :
    ¬ ∀ tokens : List Token,
      (∃ text, tokens = Token.ofText text) ∨ (∃ texts, tokens = Token.ofTexts texts) →
        ∀ groups : List String, Group.context.name ∈ groups →
          ∀ (i : Fin (tokens.map Cell.ofToken).length) (k : Nat), 1 ≤ k → k ≤ contextWindow →
            ("prev_" ++ toString k ++ ":BOS" ∈
                (extractAt (W := Float) (tokens.map Cell.ofToken) i groups).map Feature.name ↔
              (i : Nat) < k) ∧
            ("next_" ++ toString k ++ ":EOS" ∈
                (extractAt (W := Float) (tokens.map Cell.ofToken) i groups).map Feature.name ↔
              tokens.length ≤ i + k) := by
  intro h
  have hmark : "prev_" ++ toString 1 ++ ":BOS" ∈
      (extractAt (W := Float) ((Token.ofText "BOS Smith").map Cell.ofToken)
        ⟨1, by decide +kernel⟩ ["context"]).map Feature.name := by
    decide +kernel
  have hbeyond := (h (Token.ofText "BOS Smith") (.inl ⟨_, rfl⟩) ["context"] (by decide) _ 1 le_rfl
    (by decide)).1.1 hmark
  exact absurd hbeyond (by decide)

end NameTagger.Feature
