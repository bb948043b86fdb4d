import Mathlib.Algebra.BigOperators.Fin
import Mathlib.Algebra.Order.Monoid.Defs
import Mathlib.Data.List.FinRange

/-!
# Labelings and their order

A labeling of a chain gives each token the place of a label.  All labelings of a chain are ranked:
the greater score comes first, and of equal scores the one with the smaller place at the last token
where two labelings differ.

* `Labeling`, `Labeling.total`, `Labeling.score`: a labeling, and its score by the emissions and the
  steps of a chain, as a whole and token by token;
* `Labeling.IsBackBefore`, `Labeling.Precedes`: the tie break, and the ranking;
* `Labeling.endingIn`, `Labeling.all`: the labelings with a given last label, and all of them, in
  the order of the tie break;
* `mem_all`, `length_all`, `pairwise_all`: nothing is missing and nothing is listed twice.
-/

namespace NameTagger.Chain

/-- A labeling of `T` tokens by the places of `L` labels. -/
abbrev Labeling (T L : ℕ) := Fin T → Fin L

namespace Labeling

variable {T L : ℕ}

/-! ### Scores and ranks -/

/-- The score of a labeling: those of all tokens, and the weights of the steps between them. -/
def total {W : Type} [AddCommMonoid W] (E : Fin T → Fin L → W) (step : Fin L → Fin L → W)
    (y : Labeling T L) : W :=
  ∑ t, E t (y t) + ∑ t : Fin (T - 1), step (y ⟨t, by omega⟩) (y ⟨t + 1, by omega⟩)

section

variable {W : Type} [AddCommMonoid W] (E : Fin (T + 1) → Fin L → W) (step : Fin L → Fin L → W)

/-- The score of a labeling token by token: that of the first token, and for each further one the
weight of the step to it and its own score. -/
def score (y : Labeling (T + 1) L) : W :=
  E 0 (y 0) + ∑ t : Fin T, (step (y t.castSucc) (y t.succ) + E t.succ (y t.succ))

/-- One labeling comes before another one, compared from the last token backwards: where they first
differ, its place is smaller. -/
def IsBackBefore (y z : Labeling T L) : Prop := ∃ t, y t < z t ∧ ∀ u, t < u → y u = z u

/-- One labeling is ranked before another one: its score is greater, or the scores are equal and it
comes first from the last token backwards. -/
def Precedes [LT W] (y z : Labeling (T + 1) L) : Prop :=
  score E step z < score E step y ∨ score E step y = score E step z ∧ IsBackBefore y z

end

theorem total_eq_score {W : Type} [AddCommMonoid W] (E : Fin (T + 1) → Fin L → W)
    (step : Fin L → Fin L → W) (y : Labeling (T + 1) L) : total E step y = score E step y := by
  rw [score, total, Fin.sum_univ_succ, Finset.sum_add_distrib, add_assoc,
    add_comm (∑ t : Fin T, E t.succ (y t.succ))]
  rfl

/-- The score of a labeling that goes on to one more token. -/
theorem score_snoc {W : Type} [AddCommMonoid W] (E : Fin (T + 2) → Fin L → W)
    (step : Fin L → Fin L → W) (y : Labeling (T + 1) L) (j : Fin L) :
    score E step (Fin.snoc y j : Labeling (T + 2) L) =
      score (fun t => E t.castSucc) step y + step (y (Fin.last T)) j + E (Fin.last (T + 1)) j := by
  have first : (Fin.snoc y j : Labeling (T + 2) L) 0 = y 0 := by
    rw [← Fin.castSucc_zero, Fin.snoc_castSucc]
  simp only [score, Fin.sum_univ_castSucc, first, Fin.snoc_castSucc, Fin.succ_castSucc,
    Fin.succ_last, Fin.snoc_last, Fin.castSucc_zero, add_assoc]

/-! ### The tie break -/

theorem IsBackBefore.irrefl (y : Labeling T L) : ¬ IsBackBefore y y := by
  rintro ⟨t, hlt, -⟩
  exact lt_irrefl _ hlt

theorem isBackBefore_of_last_lt {y z : Labeling (T + 1) L} (h : y (Fin.last T) < z (Fin.last T)) :
    IsBackBefore y z :=
  ⟨Fin.last T, h, fun u hu => absurd hu (Fin.le_last u).not_gt⟩

theorem isBackBefore_snoc {y z : Labeling T L} {j : Fin L} (h : IsBackBefore y z) :
    IsBackBefore (Fin.snoc y j : Labeling (T + 1) L) (Fin.snoc z j) := by
  obtain ⟨t, hlt, heq⟩ := h
  refine ⟨t.castSucc, by simpa using hlt, fun u hu => ?_⟩
  cases u using Fin.lastCases with
  | last => simp
  | cast u => simpa using heq u (by simpa using hu)

theorem Precedes.irrefl {W : Type} [AddCommMonoid W] [Preorder W] (E : Fin (T + 1) → Fin L → W)
    (step : Fin L → Fin L → W) (y : Labeling (T + 1) L) : ¬ Precedes E step y y := by
  rintro (hlt | ⟨-, hback⟩)
  · exact lt_irrefl _ hlt
  · exact IsBackBefore.irrefl y hback

/-! ### All labelings -/

/-- The labelings of `T + 1` tokens that end in a label, in the order of the tie break. -/
def endingIn (L : ℕ) : (T : ℕ) → Fin L → List (Labeling (T + 1) L)
  | 0, j => [fun _ => j]
  | T + 1, j => (List.finRange L).flatMap fun i => (endingIn L T i).map fun y => Fin.snoc y j

/-- All labelings of `T + 1` tokens, in the order of the tie break. -/
def all (T L : ℕ) : List (Labeling (T + 1) L) := (List.finRange L).flatMap (endingIn L T)

theorem last_of_mem_endingIn {y : Labeling (T + 1) L} {j : Fin L} (h : y ∈ endingIn L T j) :
    y (Fin.last T) = j := by
  cases T with
  | zero =>
    simp only [endingIn, List.mem_singleton] at h
    rw [h]
  | succ T =>
    simp only [endingIn, List.mem_flatMap, List.mem_map] at h
    obtain ⟨i, -, z, -, rfl⟩ := h
    exact Fin.snoc_last _ _

theorem mem_endingIn (y : Labeling (T + 1) L) : y ∈ endingIn L T (y (Fin.last T)) := by
  induction T with
  | zero =>
    simp only [endingIn, List.mem_singleton]
    funext t
    rw [show t = Fin.last 0 by omega]
  | succ T ih =>
    simp only [endingIn, List.mem_flatMap, List.mem_finRange, true_and, List.mem_map]
    exact ⟨_, Fin.init y, ih _, Fin.snoc_init_self y⟩

/-- No labeling is missing. -/
theorem mem_all (y : Labeling (T + 1) L) : y ∈ all T L :=
  List.mem_flatMap.2 ⟨y (Fin.last T), List.mem_finRange _, mem_endingIn y⟩

theorem pairwise_endingIn (j : Fin L) : (endingIn L T j).Pairwise IsBackBefore := by
  induction T generalizing j with
  | zero => simp [endingIn]
  | succ T ih =>
    rw [endingIn, List.pairwise_flatMap]
    refine ⟨fun i _ => ?_, (List.pairwise_lt_finRange L).imp fun {i i'} hlt => ?_⟩
    · exact List.pairwise_map.2 ((ih i).imp isBackBefore_snoc)
    · intro y' hy' z' hz'
      obtain ⟨y, hy, rfl⟩ := List.mem_map.1 hy'
      obtain ⟨z, hz, rfl⟩ := List.mem_map.1 hz'
      rw [← last_of_mem_endingIn hy, ← last_of_mem_endingIn hz] at hlt
      exact isBackBefore_snoc (isBackBefore_of_last_lt hlt)

/-- The labelings are listed in the order of the tie break. -/
theorem pairwise_all : (all T L).Pairwise IsBackBefore := by
  rw [all, List.pairwise_flatMap]
  refine ⟨fun j _ => pairwise_endingIn j, (List.pairwise_lt_finRange L).imp fun {i j} hlt => ?_⟩
  intro y hy z hz
  rw [← last_of_mem_endingIn hy, ← last_of_mem_endingIn hz] at hlt
  exact isBackBefore_of_last_lt hlt

theorem nodup_all : (all T L).Nodup :=
  pairwise_all.imp fun {y z} (h : IsBackBefore y z) (hyz : y = z) =>
    IsBackBefore.irrefl z (hyz ▸ h)

/-- There are as many labelings as choices of a label for each token. -/
theorem length_all : (all T L).length = L ^ (T + 1) := by
  have card := Finset.card_univ (α := Labeling (T + 1) L)
  have listed : (all T L).toFinset = Finset.univ := by
    ext y
    simpa using mem_all y
  rw [← listed, List.toFinset_card_of_nodup nodup_all] at card
  simpa using card

end Labeling

end NameTagger.Chain
