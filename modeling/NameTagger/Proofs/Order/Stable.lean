import Mathlib.Data.List.Sort

/-!
# Stable sorting and pruning

The first `n` items of a stable sort can be found piece by piece: it is enough to keep the first `n`
items of each piece.

* `mergeSort_cons_eq`: sorting puts the head of a list in front of the items that it may precede;
* `mergeSort_append`: two pieces are sorted one by one and merged;
* `take_mergeSort_flatten`: the first items of several pieces are among the first ones of each;
* `pairwise_mergeSort_tie`: where a list is in order by `r`, so are the ties of its sort.
-/

namespace NameTagger.Order

open List

variable {α β : Type*} {le : α → α → Bool}

theorem take_merge (n : ℕ) (l₁ l₂ : List α) :
    ((l₁.take n).merge (l₂.take n) le).take n = (l₁.merge l₂ le).take n := by
  induction n generalizing l₁ l₂ with
  | zero => simp
  | succ n ih =>
    match l₁, l₂ with
    | [], l₂ => simp [take_take]
    | a :: l₁, [] => simp [take_take]
    | a :: l₁, b :: l₂ =>
      -- one of the heads is taken, and the other list keeps one item more than is needed
      have keep (c : α) (l : List α) : (c :: l.take n).take n = (c :: l).take n := by
        cases n with
        | zero => rfl
        | succ n => simp [List.take_take]
      simp only [take_succ_cons, cons_merge_cons]
      split
      · rw [take_succ_cons, take_succ_cons, ← ih (l₁.take n), take_take, min_self, keep, ih]
      · rw [take_succ_cons, take_succ_cons, ← ih _ (l₂.take n), take_take, min_self, keep, ih]

/-! ### Sorting piece by piece -/

section

variable (trans : ∀ a b c, le a b → le b c → le a c) (total : ∀ a b, le a b || le b a)

include trans total

/-- A list that is in order by `r` is sorted with ties in that order. -/
theorem pairwise_mergeSort_tie {r : α → α → Prop} {l : List α} (h : l.Pairwise r) :
    (l.mergeSort le).Pairwise fun a b => le a b ∧ (le b a → r a b) := by
  induction l with
  | nil => simp
  | cons a l ih =>
    obtain ⟨l₁, l₂, hcons, hl, hlt⟩ := mergeSort_cons trans total a l
    obtain ⟨hr, htail⟩ := pairwise_cons.1 h
    have sorted := pairwise_mergeSort trans total (a :: l)
    rw [hcons] at sorted ⊢
    obtain ⟨ih₁, ih₂, ih₁₂⟩ := pairwise_append.1 (hl ▸ ih htail)
    obtain ⟨-, hsorted, hbefore⟩ := pairwise_append.1 sorted
    refine pairwise_append.2 ⟨ih₁, pairwise_cons.2 ⟨fun b hb => ?_, ih₂⟩, fun b hb c hc => ?_⟩
    · -- an item behind the new head was behind it before
      have hmem : b ∈ l := mem_mergeSort.1 (hl ▸ mem_append_right l₁ hb)
      exact ⟨(pairwise_cons.1 hsorted).1 b hb, fun _ => hr b hmem⟩
    · rcases mem_cons.1 hc with rfl | hc
      · have hnot : le c b = false := by simpa using hlt b hb
        exact ⟨hbefore b hb c (by simp), fun hcb => absurd hcb (by simp [hnot])⟩
      · exact ih₁₂ b hb c hc

/-- Sorting puts the head of a list in front of the items that it may precede. -/
theorem mergeSort_cons_eq (a : α) (l : List α) :
    (a :: l).mergeSort le = (l.mergeSort le).orderedInsert (fun a b => le a b) a := by
  obtain ⟨l₁, l₂, hcons, hl, hlt⟩ := mergeSort_cons trans total a l
  have sorted := pairwise_mergeSort trans total (a :: l)
  rw [hcons] at sorted
  have hge : ∀ b ∈ l₂, le a b := (pairwise_cons.1 (pairwise_append.1 sorted).2.1).1
  have drop : l₂.takeWhile (fun b => !le a b) = [] := by
    cases l₂ with
    | nil => rfl
    | cons b l₂ => simp [hge b (by simp)]
  have keep : l₂.dropWhile (fun b => !le a b) = l₂ := by
    cases l₂ with
    | nil => rfl
    | cons b l₂ => simp [hge b (by simp)]
  have hpos : ∀ b ∈ l₁, (!le a b) = true := hlt
  rw [hcons, hl, orderedInsert_eq_take_drop]
  simp only [Bool.not_eq_true, ← Bool.not_eq_true', Bool.decide_eq_true]
  rw [takeWhile_append_of_pos hpos, dropWhile_append_of_pos hpos, drop, keep, append_nil]

/-- An item is inserted into the first of two lists that are merged. -/
theorem orderedInsert_merge (a : α) (l₁ l₂ : List α) :
    (l₁.merge l₂ le).orderedInsert (fun a b => le a b) a =
      (l₁.orderedInsert (fun a b => le a b) a).merge l₂ le := by
  induction l₁ generalizing l₂ with
  | nil =>
    induction l₂ with
    | nil => simp
    | cons c l₂ ih => by_cases hac : le a c <;> simp_all
  | cons b l₁ ih₁ =>
    induction l₂ with
    | nil => simp
    | cons c l₂ ih₂ =>
      by_cases hbc : le b c <;> by_cases hab : le a b
      · have hac : le a c := trans a b c hab hbc
        simp [hbc, hab, hac]
      · simp [hbc, hab, ih₁]
      · by_cases hac : le a c
        · simp [hbc, hab, hac]
        · simpa [hbc, hab, hac] using ih₂
      · have hac : ¬ le a c := by
          intro hac
          have hcb : le c b := by simpa [hbc] using total b c
          exact hab (trans a c b hac hcb)
        simpa [hbc, hab, hac] using ih₂

theorem mergeSort_append (l₁ l₂ : List α) :
    (l₁ ++ l₂).mergeSort le = (l₁.mergeSort le).merge (l₂.mergeSort le) le := by
  induction l₁ with
  | nil => simp
  | cons a l₁ ih =>
    rw [cons_append, mergeSort_cons_eq trans total, ih, orderedInsert_merge trans total,
      ← mergeSort_cons_eq trans total]

/-- The first items of two pieces are among the first ones of each. -/
theorem take_mergeSort_append (n : ℕ) (l₁ l₂ : List α) :
    (((l₁.mergeSort le).take n ++ (l₂.mergeSort le).take n).mergeSort le).take n =
      ((l₁ ++ l₂).mergeSort le).take n := by
  have sorted (l : List α) :
      ((l.mergeSort le).take n).mergeSort le = (l.mergeSort le).take n :=
    mergeSort_of_pairwise ((pairwise_mergeSort trans total l).take)
  rw [mergeSort_append trans total, mergeSort_append trans total, sorted, sorted, take_merge]

/-- The first items of several pieces are among the first ones of each. -/
theorem take_mergeSort_flatten (n : ℕ) (ls : List (List α)) :
    (((ls.map fun l => (l.mergeSort le).take n).flatten).mergeSort le).take n =
      (ls.flatten.mergeSort le).take n := by
  induction ls with
  | nil => rfl
  | cons l ls ih =>
    rw [map_cons, flatten_cons, flatten_cons, ← take_mergeSort_append trans total, ih,
      ← take_mergeSort_append trans total n l]
    congr 3
    rw [mergeSort_of_pairwise (pairwise_mergeSort trans total l).take, take_take, min_self]

end

end NameTagger.Order
