import Mathlib.Data.List.DropRight
import Mathlib.Data.List.Induction
import NameTagger.Proofs.Token.Again

/-!
# The longest beginning of a piece

What is kept of a piece is the longest beginning of it that does not end with a comma or a point
unless it is an abbreviation, and behind which nothing else stands than commas and points.

* `IsAdmissible`, `IsLongest`: a beginning that may be kept, and the longest of them;
* `clean_concat`: what becomes of the last character of a piece;
* `isAdmissible_concat_iff`, `isAdmissible_clean_iff`: dropping one character, and then all of them,
  leaves the same beginnings to choose from;
* `clean_isLongest`: the longest of them is kept.
-/

namespace NameTagger.Token

variable {piece kept s : List Char} {c : Char}

/-- A beginning of a piece that may be kept: only commas and points follow it, and it ends with none
of them or is an abbreviation. -/
structure IsAdmissible (piece kept : List Char) : Prop where
  rest : ∃ dropped, kept ++ dropped = piece ∧ dropped ⊆ [',', '.']
  ending : kept = [] ∨ (∃ c, kept.getLast? = some c ∧ c ∉ [',', '.']) ∨ kept ∈ abbreviations

/-- The longest beginning of a piece that may be kept. -/
structure IsLongest (piece kept : List Char) : Prop where
  isAdmissible : IsAdmissible piece kept
  length_le : ∀ other, IsAdmissible piece other → other.length ≤ kept.length

theorem isTrailing_iff : isTrailing c = true ↔ c ∈ [',', '.'] := by
  simp [isTrailing]

theorem IsAdmissible.isPrefix (h : IsAdmissible piece kept) : kept <+: piece := by
  obtain ⟨dropped, hpiece, -⟩ := h.rest
  exact ⟨dropped, hpiece⟩

/-! ### One character after the other -/

/-- The last character is dropped if it is a comma or a point, but not from an abbreviation. -/
theorem clean_concat (s : List Char) (c : Char) :
    clean (s ++ [c]) =
      if isTrailing c = true ∧ s ++ [c] ∉ abbreviations then clean s else s ++ [c] := by
  have habbreviation :
      isAbbreviationReversed (c :: s.reverse) = true ↔ s ++ [c] ∈ abbreviations := by
    rw [isAbbreviationReversed_iff, List.reverse_cons, List.reverse_reverse]
  have hdrop : (isTrailing c && !isAbbreviationReversed (c :: s.reverse)) = true ↔
      isTrailing c = true ∧ s ++ [c] ∉ abbreviations := by
    rw [Bool.and_eq_true, Bool.not_eq_true', ← Bool.not_eq_true, habbreviation]
  rw [clean, List.reverse_concat, cleanReversed, if_congr hdrop rfl rfl]
  split
  · rfl
  · rw [List.reverse_cons, List.reverse_reverse]

/-- A piece whose last character is dropped may not be kept as a whole. -/
theorem not_isAdmissible_self (hc : isTrailing c = true) (hs : s ++ [c] ∉ abbreviations) :
    ¬IsAdmissible (s ++ [c]) (s ++ [c]) := by
  rintro ⟨-, hnil | ⟨d, hlast, hd⟩ | habbreviation⟩
  · exact List.concat_ne_nil c s hnil
  · rw [List.getLast?_concat] at hlast
    obtain rfl := Option.some.inj hlast
    exact hd (isTrailing_iff.1 hc)
  · exact hs habbreviation

/-- When a character is dropped, the same beginnings may be kept as before. -/
theorem isAdmissible_concat_iff (hc : isTrailing c = true) (hs : s ++ [c] ∉ abbreviations) :
    IsAdmissible (s ++ [c]) kept ↔ IsAdmissible s kept := by
  constructor
  · intro h
    obtain ⟨dropped, hpiece, htrailing⟩ := h.rest
    rcases List.eq_nil_or_concat' dropped with rfl | ⟨dropped, d, rfl⟩
    · -- then nothing would be dropped
      rw [List.append_nil] at hpiece
      exact absurd (hpiece ▸ h) (not_isAdmissible_self hc hs)
    · rw [← List.append_assoc] at hpiece
      obtain ⟨hrest, -⟩ := List.append_inj' hpiece rfl
      exact ⟨⟨dropped, hrest, (List.append_subset.1 htrailing).1⟩, h.ending⟩
  · rintro ⟨⟨dropped, rfl, htrailing⟩, hending⟩
    refine ⟨⟨dropped ++ [c], (List.append_assoc kept dropped [c]).symm, ?_⟩, hending⟩
    have hlast : [c] ⊆ [',', '.'] := List.cons_subset.2 ⟨isTrailing_iff.1 hc, List.nil_subset _⟩
    exact List.append_subset.2 ⟨htrailing, hlast⟩

/-- When nothing more is dropped, the same beginnings may be kept as at first. -/
theorem isAdmissible_clean_iff : IsAdmissible (clean piece) kept ↔ IsAdmissible piece kept := by
  -- from the end of the piece, in the order in which characters are dropped
  induction piece using List.reverseRecOn with
  | nil => rfl
  | append_singleton s c ih =>
    rw [clean_concat]
    split
    · next hdrop => rw [ih, isAdmissible_concat_iff hdrop.1 hdrop.2]
    · rfl

/-! ### The longest one -/

/-- What is left in the end may be kept. -/
theorem isAdmissible_clean (piece : List Char) : IsAdmissible piece (clean piece) := by
  refine isAdmissible_clean_iff.1 ⟨⟨[], List.append_nil _, List.nil_subset _⟩, ?_⟩
  cases hlast : (clean piece).getLast? with
  | none => exact .inl (List.getLast?_eq_none_iff.1 hlast)
  | some c =>
    right
    by_cases hc : isTrailing c = true
    · exact .inr (clean_mem_abbreviations hlast hc)
    · exact .inl ⟨c, rfl, mt isTrailing_iff.2 hc⟩

theorem IsAdmissible.isPrefix_clean (h : IsAdmissible piece kept) : kept <+: clean piece :=
  (isAdmissible_clean_iff.2 h).isPrefix

theorem isLongest_iff : IsLongest piece kept ↔ kept = clean piece := by
  constructor
  · intro h
    exact h.isAdmissible.isPrefix_clean.eq_of_length_le (h.length_le _ (isAdmissible_clean piece))
  · rintro rfl
    exact ⟨isAdmissible_clean piece, fun other hother => hother.isPrefix_clean.length_le⟩

/-- A beginning that may be kept has one point at its end at most. -/
theorem IsAdmissible.length_rtakeWhile_le (h : IsAdmissible piece kept) :
    (kept.rtakeWhile (· = '.')).length ≤ 1 := by
  rcases h.ending with rfl | ⟨c, hlast, hc⟩ | habbreviation
  · exact Nat.zero_le 1
  · obtain ⟨s, rfl⟩ := List.getLast?_eq_some_iff.1 hlast
    have hpoint : c ≠ '.' := by
      rintro rfl
      exact hc (by decide)
    rw [List.rtakeWhile_concat_neg _ _ _ (by simpa using hpoint)]
    exact Nat.zero_le 1
  · have hpoint : ∀ a ∈ abbreviations, (a.rtakeWhile (· = '.')).length ≤ 1 := by decide
    exact hpoint kept habbreviation

/-- What is kept of a piece is the longest beginning that may be kept.  So nothing more is dropped
from it, commas and points are all that was dropped, and at most one point is left at its end. -/
theorem clean_isLongest (piece : List Char) :
    (∀ kept, IsLongest piece kept ↔ kept = clean piece) ∧
      clean (clean piece) = clean piece ∧
      (∃ dropped, clean piece ++ dropped = piece ∧ dropped ⊆ [',', '.']) ∧
      ((clean piece).rtakeWhile (· = '.')).length ≤ 1 := by
  have hkept := isAdmissible_clean piece
  exact ⟨fun kept => isLongest_iff, clean_clean piece, hkept.rest, hkept.length_rtakeWhile_le⟩

/-- An abbreviation can come to light while points are dropped, but only as the whole piece. -/
example : clean "Co..,.".toList = "Co.".toList ∧ clean "X,Co..".toList = "X,Co".toList := by
  decide

end NameTagger.Token
