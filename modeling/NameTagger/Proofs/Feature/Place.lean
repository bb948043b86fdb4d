import Mathlib.Data.List.FinRange
import NameTagger.Feature.Extract

/-!
# Tokens whose place cannot be told

Every position inside a name has features, unless the place of the token is asked for and cannot be
told: it is too far away, or its position has too many digits.  In a name that was numbered no token
is too far away.

* `extract_eq`: the features of a token, or what prevents them;
* `extractSequence_eq`: those of all tokens of a name;
* `misplacementAt?_eq_some_iff`: only one group asks for the place of a token;
* `misplaced?_of_numbered`: in a name that was numbered only the number of tokens counts.
-/

namespace NameTagger.Feature

variable {W : Type} [OfScientific W]

/-! ### The features of a token -/

section

variable {cells : List Cell} {at_ : Int} {cell : Cell}

theorem ofGroup_of_ne {group : Group} (h : group ≠ .position) :
    ofGroup (W := W) cells at_ cell group = found (ofGroup? cells at_ cell group) := by
  cases group with
  | position => exact absurd rfl h
  | _ => rfl

/-- Apart from the place, features fail only where a token is missing. -/
theorem mapM_ofGroup {groups : List Group} (h : Group.position ∉ groups) :
    groups.mapM (ofGroup (W := W) cells at_ cell) =
      found (groups.mapM (ofGroup? cells at_ cell)) := by
  induction groups with
  | nil => rfl
  | cons group groups ih =>
    obtain ⟨hgroup, hgroups⟩ := List.ne_and_not_mem_of_not_mem_cons h
    rw [List.mapM_cons, List.mapM_cons, ih hgroups, ofGroup_of_ne (Ne.symm hgroup)]
    cases ofGroup? (W := W) cells at_ cell group with
    | none => rfl
    | some features => cases groups.mapM (ofGroup? (W := W) cells at_ cell) <;> rfl

/-- The place comes behind all other groups. -/
theorem exists_enabled_eq (groups : List String) :
    ∃ front, Group.position ∉ front ∧
      enabled groups =
        front ++ if groups.contains Group.position.name then [.position] else [] := by
  refine ⟨Group.all.dropLast.filter fun group => groups.contains group.name,
    by simp [Group.all], ?_⟩
  show (Group.all.dropLast ++ [Group.position]).filter _ = _
  rw [List.filter_append, List.filter_singleton, Bool.cond_eq_ite]

end

/-- A token has features if there is one at the position and its place can be told. -/
theorem extract_eq (cells : List Cell) (at_ : Int) (groups : List String) :
    extract (W := W) cells at_ groups =
      match extract? cells at_ groups with
      | none => .error outOfRange
      | some features =>
          match misplacementAt? cells groups at_ with
          | some misplacement => .error misplacement.fault
          | none => .ok features := by
  rw [extract, extract?, misplacementAt?]
  rcases Cell.at? cells at_ with - | cell
  · rfl
  obtain ⟨front, hfront, henabled⟩ := exists_enabled_eq groups
  have hparts : front.mapM (ofGroup (W := W) cells at_ cell) =
      found (front.mapM (ofGroup? cells at_ cell)) := mapM_ofGroup hfront
  simp only [found, Option.elim_some, bind, Except.bind, Option.bind, henabled, misplacementOf?]
  rw [List.mapM_append, List.mapM_append, hparts]
  rcases front.mapM (ofGroup? (W := W) cells at_ cell) with - | parts
  · rfl
  by_cases hplace : groups.contains Group.position.name
  · rw [if_pos hplace, if_pos hplace]
    simp only [List.mapM_cons, List.mapM_nil, ofGroup, place]
    rcases misplacement? cell.position cells.length with - | misplacement <;> rfl
  · rw [if_neg hplace, if_neg hplace]
    rfl

/-! ### The features of a name -/

theorem misplaced?_eq_findSome? (cells : List Cell) (groups : List String) :
    misplaced? cells groups = (List.finRange cells.length).findSome? fun i : Fin cells.length =>
      misplacementAt? cells groups (i : Nat) := by
  have hcell (i : Fin cells.length) :
      misplacementAt? cells groups (i : Nat) = misplacementOf? cells groups cells[i] := by
    rw [misplacementAt?, Cell.at?_natCast, Fin.getElem_fin, List.getElem?_eq_getElem i.isLt,
      Option.bind_some]
  simp only [hcell, misplaced?]
  generalize misplacementOf? cells groups = whether
  calc
    cells.findSome? whether =
        ((List.finRange cells.length).map fun i : Fin cells.length => cells[i]).findSome?
          whether := by
      rw [show ((List.finRange cells.length).map fun i : Fin cells.length => cells[i]) = cells from
        List.map_getElem_finRange cells]
    _ = _ := List.findSome?_map

/-- A name has features if every place in it can be told; else the first one that cannot counts. -/
theorem extractSequence_eq (cells : List Cell) (groups : List String) :
    extractSequence (W := W) cells groups =
      match misplaced? cells groups with
      | some misplacement => .error misplacement.fault
      | none => .ok (extractAll cells groups) := by
  rw [misplaced?_eq_findSome?, extractSequence, extractAll, List.ofFn_eq_map]
  induction List.finRange cells.length with
  | nil => rfl
  | cons i rest ih =>
    obtain ⟨features, hfeatures⟩ :=
      Option.isSome_iff_exists.1 (extract?_isSome (W := W) cells groups i.isLt)
    rw [List.mapM_cons, ih, List.findSome?_cons, List.map_cons, extract_eq]
    simp only [hfeatures, Option.get_some]
    rcases misplacementAt? cells groups (i : Nat) with - | misplacement
    · rcases rest.findSome? _ with - | misplacement <;> rfl
    · rfl

/-! ### When a place cannot be told -/

/-- The place of a token is asked for by one group only. -/
theorem misplacementAt?_eq_some_iff (cells : List Cell) (groups : List String) (at_ : Int)
    (misplacement : Misplacement) :
    misplacementAt? cells groups at_ = some misplacement ↔
      ∃ group : Group, group.name ∈ groups ∧
        misplacementAt? cells [group.name] at_ = some misplacement := by
  simp only [misplacementAt?, Option.bind_eq_some_iff, misplacementOf?,
    Option.ite_none_right_eq_some, List.contains_iff_mem, List.mem_singleton]
  constructor
  · rintro ⟨cell, hcell, hgroup, hplace⟩
    exact ⟨.position, hgroup, cell, hcell, rfl, hplace⟩
  · rintro ⟨group, hgroup, cell, hcell, hname, hplace⟩
    exact ⟨cell, hcell, hname ▸ hgroup, hplace⟩

theorem isRemote_eq_false {position total : Int} (hnonneg : 0 ≤ position)
    (hlt : position < total) : isRemote position total = false := by
  rw [isRemote, Bool.and_eq_false_imp]
  intro hmany
  rw [decide_eq_true_iff] at hmany
  have hfactor : 2 ≤ Nat.pow 2 1024 - Nat.pow 2 970 := by decide +kernel
  have hproduct := Nat.mul_le_mul_right (total - 1).toNat hfactor
  rw [Decimal.exceedsAll, decide_eq_false_iff_not]
  omega

/-- A token that stands among the others is not too far away. -/
theorem misplacementOf?_of_lt {cells : List Cell} {cell : Cell} {i : Nat}
    (hposition : cell.position = i) (hi : i < cells.length) (groups : List String) :
    misplacementOf? cells groups cell =
      if groups.contains Group.position.name ∧ Nat.pow 10 Decimal.longestInteger ≤ i then
        some .overlong
      else none := by
  have hnear : isRemote (i : Int) cells.length = false :=
    isRemote_eq_false (Int.natCast_nonneg i) (Int.ofNat_lt.2 hi)
  rw [misplacementOf?, misplacement?, hposition, hnear, Decimal.isOverlong, Int.natAbs_natCast,
    ite_and]
  simp only [Bool.false_eq_true, if_false, decide_eq_true_eq]

/-- In a name that was numbered, all places can be told unless there are more tokens than numbers
that are written. -/
theorem misplaced?_of_numbered {tokens : List Token}
    (h : ∀ (i : Nat) (token : Token), tokens[i]? = some token → token.position = i)
    (groups : List String) :
    misplaced? (tokens.map Cell.ofToken) groups =
      if groups.contains Group.position.name ∧
          Nat.pow 10 Decimal.longestInteger < tokens.length then some .overlong
      else none := by
  have hcell (i : Nat) (hi : i < tokens.length) :
      misplacementOf? (tokens.map Cell.ofToken) groups (Cell.ofToken tokens[i]) =
        if groups.contains Group.position.name ∧ Nat.pow 10 Decimal.longestInteger ≤ i then
          some .overlong
        else none := by
    refine misplacementOf?_of_lt ?_ (by rwa [List.length_map]) groups
    rw [Cell.ofToken, h i _ (List.getElem?_eq_getElem hi)]
  split
  · next hmany =>
    obtain ⟨hgroup, hmany⟩ := hmany
    obtain ⟨misplacement, hmisplaced⟩ : ∃ misplacement,
        misplaced? (tokens.map Cell.ofToken) groups = some misplacement := by
      rw [← Option.isSome_iff_exists, misplaced?, List.findSome?_isSome_iff]
      refine ⟨_, List.mem_map_of_mem (List.getElem_mem hmany), ?_⟩
      rw [hcell _ hmany, if_pos ⟨hgroup, le_rfl⟩]
      rfl
    obtain ⟨cell, hmem, hplace⟩ := List.exists_of_findSome?_eq_some hmisplaced
    obtain ⟨token, htoken, rfl⟩ := List.mem_map.1 hmem
    obtain ⟨i, hi, rfl⟩ := List.mem_iff_getElem.1 htoken
    rw [hcell i hi, Option.ite_none_right_eq_some] at hplace
    rw [hmisplaced, ← hplace.2]
  · next hfew =>
    refine List.findSome?_eq_none_iff.2 fun cell hmem => ?_
    obtain ⟨token, htoken, rfl⟩ := List.mem_map.1 hmem
    obtain ⟨i, hi, rfl⟩ := List.mem_iff_getElem.1 htoken
    rw [hcell i hi, if_neg]
    exact fun ⟨hgroup, hlong⟩ => hfew ⟨hgroup, hlong.trans_lt hi⟩

end NameTagger.Feature
