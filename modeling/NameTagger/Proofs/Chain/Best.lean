import Mathlib.Algebra.Order.Group.Defs
import Mathlib.Algebra.Order.Group.Int
import Mathlib.Data.Fin.VecNotation
import NameTagger.Chain.Best
import NameTagger.Proofs.Chain.Labeling
import NameTagger.Proofs.Order.Stable

/-!
# The best labelings are the first of all labelings

The search keeps the best paths to each label and forgets the others.  In exact arithmetic nothing
is lost by that: the paths that it finds are the first of all labelings in their ranking.

* `extendAll`, `allPaths`: the search that forgets nothing;
* `bestPaths_eq_top`: pruning changes nothing;
* `allPaths_eq_map`: the paths of the search without pruning are the labelings with their scores;
* `nBest?_ofFn`, `nBest?_eq_take_ranking`: the labelings that are found;
* `Labeling.IsBest`, `nBest?_isBest`: no labeling that is left out is better than one that is found.
-/

namespace NameTagger.Chain

open List

/-! ### The search without pruning -/

section

variable {W : Type} [Add W]

/-- All continuations of paths for each label, one token further on. -/
def extendAll (transition : ℕ → ℕ → W) (beams : List (List (Path W))) (row : List W) :
    List (List (Path W)) :=
  row.mapIdx fun next score => continuations transition beams next score

/-- All paths through the rows of a chain. -/
def allPaths (transition : ℕ → ℕ → W) (first : List W) (rest : List (List W)) : List (Path W) :=
  (rest.foldl (extendAll transition) (start first)).flatten

end

section

variable {W : Type} [LinearOrder W]

/-- Paths are ordered by their scores, the greater one first. -/
def isAhead (a b : Path W) : Bool := !decide (a.score < b.score)

theorem isAhead_iff {a b : Path W} : isAhead a b ↔ b.score ≤ a.score := by
  simp [isAhead]

theorem isAhead_trans (a b c : Path W) (hab : isAhead a b) (hbc : isAhead b c) : isAhead a c := by
  rw [isAhead_iff] at *
  exact hbc.trans hab

theorem isAhead_total (a b : Path W) : isAhead a b || isAhead b a := by
  rw [Bool.or_eq_true, isAhead_iff, isAhead_iff]
  exact le_total b.score a.score

theorem top_eq (n : ℕ) (paths : List (Path W)) : top n paths = (paths.mergeSort isAhead).take n :=
  top_eq_take n paths

/-- The best paths of several lists are among the best of each. -/
theorem top_flatten (n : ℕ) (beams : List (List (Path W))) :
    top n (beams.map (top n)).flatten = top n beams.flatten := by
  simp only [funext (top_eq n)]
  exact Order.take_mergeSort_flatten isAhead_trans isAhead_total n beams

theorem start_map_top {n : ℕ} (hn : 1 ≤ n) (row : List W) :
    (start row).map (top n) = start row := by
  refine (map_congr_left fun beam hbeam => ?_).trans (map_id _)
  obtain ⟨j, hj, rfl⟩ := mem_mapIdx.1 hbeam
  rw [top_eq, mergeSort_singleton, id, take_of_length_le (by simpa using hn)]

variable [AddCommMonoid W] [IsOrderedCancelAddMonoid W]

/-- Two paths keep their order when both go on to a label by the same step. -/
theorem isAhead_snoc (a b : Path W) (next : ℕ) (transition score : W) :
    isAhead (a.snoc next transition score) (b.snoc next transition score) = isAhead a b := by
  simp [isAhead, Path.snoc]

theorem map_snoc_top (n : ℕ) (paths : List (Path W)) (next : ℕ) (transition score : W) :
    (top n paths).map (fun path => path.snoc next transition score) =
      top n (paths.map fun path => path.snoc next transition score) := by
  rw [top_eq, top_eq, map_take,
    map_mergeSort fun a _ b _ => (isAhead_snoc a b next transition score).symm]

/-- The best continuations of the best paths are the best continuations of all paths. -/
theorem top_continuations (n : ℕ) (transition : ℕ → ℕ → W) (beams : List (List (Path W)))
    (next : ℕ) (score : W) :
    top n (continuations transition (beams.map (top n)) next score) =
      top n (continuations transition beams next score) := by
  unfold continuations
  rw [← top_flatten n (beams.mapIdx _)]
  congr 2
  ext1 last
  simp [Function.comp_def, map_snoc_top]

theorem extend_map_top (n : ℕ) (transition : ℕ → ℕ → W) (beams : List (List (Path W)))
    (row : List W) :
    extend n transition (beams.map (top n)) row = (extendAll transition beams row).map (top n) := by
  ext1 next
  simp [extend, extendAll, top_continuations, Function.comp_def]

theorem foldl_extend_map_top (n : ℕ) (transition : ℕ → ℕ → W) (beams : List (List (Path W)))
    (rows : List (List W)) :
    rows.foldl (extend n transition) (beams.map (top n)) =
      (rows.foldl (extendAll transition) beams).map (top n) := by
  induction rows generalizing beams with
  | nil => rfl
  | cons row rows ih => rw [foldl_cons, foldl_cons, extend_map_top, ih]

/-- Pruning changes nothing. -/
theorem bestPaths_eq_top {n : ℕ} (hn : 1 ≤ n) (transition : ℕ → ℕ → W) (first : List W)
    (rest : List (List W)) :
    bestPaths n transition first rest = top n (allPaths transition first rest) := by
  rw [bestPaths, allPaths, ← start_map_top hn, foldl_extend_map_top, top_flatten,
    start_map_top hn]

end

/-! ### Paths and labelings -/

section

variable {W : Type} [AddCommMonoid W] {T L : ℕ}

/-- A labeling as a path. -/
def Labeling.path (E : Fin (T + 1) → Fin L → W) (step : Fin L → Fin L → W)
    (y : Labeling (T + 1) L) : Path W :=
  ⟨y.score E step, (List.ofFn fun t => (y t).val).reverse⟩

theorem Labeling.path_snoc (E : Fin (T + 2) → Fin L → W) (step : Fin L → Fin L → W)
    (y : Labeling (T + 1) L) (j : Fin L) :
    Labeling.path E step (Fin.snoc y j : Labeling (T + 2) L) =
      (y.path (fun t => E t.castSucc) step).snoc j (step (y (Fin.last T)) j)
        (E (Fin.last (T + 1)) j) := by
  rw [path, path, Path.snoc, score_snoc, List.ofFn_succ', concat_eq_append, reverse_append]
  simp

theorem mapIdx_ofFn {α β : Type} (f : Fin L → α) (g : ℕ → α → β) :
    (List.ofFn f).mapIdx g = List.ofFn fun i => g i (f i) :=
  List.ext_getElem (by simp) fun i hi _ => by simp

theorem start_eq_endingIn (E : Fin 1 → Fin L → W) (step : Fin L → Fin L → W) :
    start (List.ofFn (E 0)) =
      List.ofFn fun j => (Labeling.endingIn L 0 j).map (Labeling.path E step) := by
  simp [start, mapIdx_ofFn, Labeling.endingIn, Labeling.path, Labeling.score]

theorem extendAll_eq_endingIn (E : Fin (T + 2) → Fin L → W) (step : Fin L → Fin L → W)
    {transition : ℕ → ℕ → W} (h : ∀ i j : Fin L, transition i j = step i j) :
    extendAll transition
        (List.ofFn fun i =>
          (Labeling.endingIn L T i).map (Labeling.path (fun t => E t.castSucc) step))
        (List.ofFn (E (Fin.last (T + 1)))) =
      List.ofFn fun j => (Labeling.endingIn L (T + 1) j).map (Labeling.path E step) := by
  rw [extendAll, mapIdx_ofFn]
  congr 1
  funext j
  rw [continuations, mapIdx_ofFn, List.ofFn_eq_map, ← List.flatMap_def, Labeling.endingIn,
    map_flatMap]
  congr 1
  funext i
  rw [map_map, map_map]
  refine map_congr_left fun y hy => ?_
  rw [Function.comp, Function.comp, Labeling.path_snoc, Labeling.last_of_mem_endingIn hy, h]

/-- The paths of the search without pruning, by the label that they end in. -/
theorem foldl_extendAll_eq (E : Fin (T + 1) → Fin L → W) (step : Fin L → Fin L → W)
    {transition : ℕ → ℕ → W} (h : ∀ i j : Fin L, transition i j = step i j) :
    (List.ofFn fun t : Fin T => List.ofFn (E t.succ)).foldl (extendAll transition)
        (start (List.ofFn (E 0))) =
      List.ofFn fun j => (Labeling.endingIn L T j).map (Labeling.path E step) := by
  induction T with
  | zero => exact start_eq_endingIn E step
  | succ T ih =>
    rw [List.ofFn_succ_last, foldl_append, foldl_cons, foldl_nil,
      ← extendAll_eq_endingIn E step h, ← ih]
    simp only [Fin.castSucc_zero, Fin.succ_castSucc, Fin.succ_last]

/-- The paths of the search without pruning are the labelings with their scores. -/
theorem allPaths_eq_map (E : Fin (T + 1) → Fin L → W) (step : Fin L → Fin L → W)
    {transition : ℕ → ℕ → W} (h : ∀ i j : Fin L, transition i j = step i j) :
    allPaths transition (List.ofFn (E 0)) (List.ofFn fun t : Fin T => List.ofFn (E t.succ)) =
      (Labeling.all T L).map (Labeling.path E step) := by
  rw [allPaths, foldl_extendAll_eq E step h, List.ofFn_eq_map, ← List.flatMap_def, Labeling.all,
    map_flatMap]

end

/-! ### The ranking -/

section

variable {W : Type} [AddCommMonoid W] [LinearOrder W] {T L : ℕ} (E : Fin (T + 1) → Fin L → W)
  (step : Fin L → Fin L → W)

/-- Labelings are ordered by their scores, the greater one first. -/
def Labeling.isAhead (y z : Labeling (T + 1) L) : Bool :=
  Chain.isAhead (y.path E step) (z.path E step)

theorem Labeling.isAhead_iff {y z : Labeling (T + 1) L} :
    isAhead E step y z ↔ score E step z ≤ score E step y :=
  Chain.isAhead_iff

/-- All labelings in their ranking. -/
def Labeling.ranking : List (Labeling (T + 1) L) := (all T L).mergeSort (isAhead E step)

theorem Labeling.mem_ranking (y : Labeling (T + 1) L) : y ∈ ranking E step :=
  mem_mergeSort.2 (mem_all y)

theorem Labeling.length_ranking : (ranking E step).length = L ^ (T + 1) := by
  rw [ranking, length_mergeSort, length_all]

theorem Labeling.pairwise_ranking : (ranking E step).Pairwise (Precedes E step) := by
  have sorted := Order.pairwise_mergeSort_tie
    (fun y₁ y₂ y₃ => isAhead_trans (y₁.path E step) (y₂.path E step) (y₃.path E step))
    (fun y₁ y₂ => isAhead_total (y₁.path E step) (y₂.path E step)) (pairwise_all (T := T))
  refine sorted.imp fun {y z} h => ?_
  obtain ⟨hle, htie⟩ : isAhead E step y z ∧ (isAhead E step z y → IsBackBefore y z) := h
  rcases ((isAhead_iff E step).1 hle).lt_or_eq with hlt | heq
  · exact .inl hlt
  · exact .inr ⟨heq.symm, htie ((isAhead_iff E step).2 heq.ge)⟩

theorem Labeling.nodup_ranking : (ranking E step).Nodup :=
  (pairwise_ranking E step).imp fun {y z} (h : Precedes E step y z) (hyz : y = z) =>
    Precedes.irrefl E step z (hyz ▸ h)

theorem Labeling.top_map_all (n : ℕ) :
    top n ((all T L).map (path E step)) = ((ranking E step).take n).map (path E step) := by
  rw [top_eq, ranking, map_take,
    map_mergeSort (r := isAhead E step) (s := Chain.isAhead) fun _ _ _ _ => rfl]

end

/-! ### The labelings that are found -/

section

variable {W : Type} [AddCommMonoid W] {T L : ℕ}

theorem between_transitionTable (transitions : Weights W) (labels : Fin L → String) (i j : Fin L) :
    between (transitionTable transitions (List.ofFn labels)) i j =
      transitions.get (labels i) (labels j) := by
  simp [between, transitionTable]

theorem Labeling.names_path (E : Fin (T + 1) → Fin L → W) (step : Fin L → Fin L → W)
    (labels : Fin L → String) (y : Labeling (T + 1) L) :
    (y.path E step).names (List.ofFn labels) = List.ofFn fun t => labels (y t) := by
  simp [Path.names, Labeling.path, List.ofFn_eq_map, filterMap_map]

variable [LinearOrder W]

/-- Without labels, or if none is asked for, no labeling is found. -/
theorem nBest?_eq_nil {n : ℤ} {transitions : Weights W} {labels : List String}
    (h : labels = [] ∨ n ≤ 0) (emission : List (List W)) :
    nBest? n emission transitions labels = some [] := by
  cases emission with
  | nil => rfl
  | cons first rest => simp [nBest?, h]

/-- Rows with a score for each label are searched as they are. -/
theorem nBest?_cons {n : ℤ} {transitions : Weights W} {labels : List String} (hn : 1 ≤ n)
    (hlabels : labels ≠ []) {first : List W} {rest : List (List W)}
    (hwidth : ∀ row ∈ first :: rest, row.length = labels.length) :
    nBest? n (first :: rest) transitions labels =
      some ((bestPaths n.toNat (between (transitionTable transitions labels)) first rest).map
        fun path => (path.names labels, path.score)) := by
  have wide : ((first :: rest).any fun row => row.length < labels.length) = false := by
    rw [any_eq_false]
    exact fun row hrow => by simp [hwidth row hrow]
  have uncut {row : List W} (hrow : row ∈ first :: rest) : row.take labels.length = row :=
    take_of_length_le (hwidth row hrow).le
  have rows : rest.map (fun row => row.take labels.length) = rest :=
    (map_congr_left fun row hrow => uncut (mem_cons_of_mem _ hrow)).trans (map_id _)
  have some_ : ¬ (labels = [] ∨ n ≤ 0) := by
    rintro (hnil | hle)
    · exact hlabels hnil
    · omega
  simp only [nBest?, wide, uncut mem_cons_self, rows]
  simp [some_]

end

/-- The labelings that are found are the first `n` of the ranking. -/
theorem nBest?_ofFn {W : Type} [AddCommMonoid W] [LinearOrder W] [IsOrderedCancelAddMonoid W]
    {T L : ℕ} (n : ℤ) (E : Fin (T + 1) → Fin L → W) (transitions : Weights W)
    (labels : Fin L → String) :
    let step (i j : Fin L) : W := transitions.get (labels i) (labels j)
    nBest? n (List.ofFn fun t => List.ofFn (E t)) transitions (List.ofFn labels) =
      some (((Labeling.ranking E step).take n.toNat).map fun y =>
        (List.ofFn fun t => labels (y t), y.score E step)) := by
  intro step
  by_cases hnone : List.ofFn labels = [] ∨ n ≤ 0
  · have hlen : ((Labeling.ranking E step).take n.toNat).length = 0 := by
      rw [length_take, Labeling.length_ranking]
      rcases hnone with hnil | hn
      · rw [List.ofFn_eq_nil_iff.1 hnil, zero_pow (by omega), Nat.min_zero]
      · rw [Int.toNat_of_nonpos hn, Nat.zero_min]
    rw [nBest?_eq_nil hnone, length_eq_zero_iff.1 hlen, map_nil]
  · obtain ⟨hlabels, hn⟩ := not_or.1 hnone
    have hn : 1 ≤ n := by omega
    rw [List.ofFn_succ, nBest?_cons hn hlabels (by simp [List.mem_ofFn]),
      bestPaths_eq_top (by omega),
      allPaths_eq_map E step (between_transitionTable transitions labels),
      Labeling.top_map_all, map_map]
    congr 1
    refine map_congr_left fun y _ => ?_
    rw [Function.comp, Labeling.names_path, Labeling.path]

/-- In exact arithmetic the labelings that are found are the first `n` of all labelings in their
ranking: every labeling is ranked, and only once, so that there are `L ^ (T + 1)` of them. -/
theorem nBest?_eq_take_ranking {W : Type} [AddCommMonoid W] [LinearOrder W]
    [IsOrderedCancelAddMonoid W] {T L : ℕ} (n : ℤ) (E : Fin (T + 1) → Fin L → W)
    (transitions : Weights W) (labels : Fin L → String) :
    ∃ ranking : List (Labeling (T + 1) L),
      ranking.Pairwise
        (Labeling.Precedes E fun i j => transitions.get (labels i) (labels j)) ∧
      (∀ y, y ∈ ranking) ∧ ranking.Nodup ∧ ranking.length = L ^ (T + 1) ∧
      nBest? n (List.ofFn fun t => List.ofFn (E t)) transitions (List.ofFn labels) =
        some ((ranking.take n.toNat).map fun y =>
          (List.ofFn fun t => labels (y t),
            y.score E fun i j => transitions.get (labels i) (labels j))) := by
  let step (i j : Fin L) : W := transitions.get (labels i) (labels j)
  exact ⟨Labeling.ranking E step, Labeling.pairwise_ranking E step, Labeling.mem_ranking E step,
    Labeling.nodup_ranking E step, Labeling.length_ranking E step,
    nBest?_ofFn n E transitions labels⟩

/-- Three labelings of two tokens by two labels, two of which have the same score. -/
theorem nBest?_two_tokens :
    ∃ ranking : List (Labeling 2 2), ranking.Nodup ∧ ranking.length = 4 ∧
      nBest? 3 [[1, 0], [0, 1]] (Weights.ofList [(("B", "A"), (2 : ℤ))]) ["A", "B"] =
        some ((ranking.take 3).map fun y =>
          (List.ofFn fun t => ![("A" : String), "B"] (y t),
            y.score ![![1, 0], ![0, 1]] fun i j =>
              (Weights.ofList [(("B", "A"), (2 : ℤ))]).get (![("A" : String), "B"] i)
                (![("A" : String), "B"] j))) := by
  obtain ⟨ranking, -, -, hnodup, hlength, hfound⟩ :=
    nBest?_eq_take_ranking 3 ![![1, 0], ![0, 1]] (Weights.ofList [(("B", "A"), (2 : ℤ))])
      ![("A" : String), "B"]
  exact ⟨ranking, hnodup, hlength, by simpa using hfound⟩

/-! ### The best labelings -/

/-- Some labelings are `n` of the best ones, or all if there are fewer: the better ones come first,
and none that is left out is better. -/
structure Labeling.IsBest {W : Type} [LE W] {T L : ℕ} (score : Labeling T L → W) (n : ℕ)
    (found : List (Labeling T L)) : Prop where
  nodup : found.Nodup
  length_eq : found.length = min n (L ^ T)
  descending : found.Pairwise fun y z => score z ≤ score y
  none_better : ∀ y ∈ found, ∀ z ∉ found, score z ≤ score y

theorem Labeling.isBest_take_ranking {W : Type} [AddCommMonoid W] [LinearOrder W] {T L : ℕ}
    (E : Fin (T + 1) → Fin L → W) (step : Fin L → Fin L → W) (n : ℕ) :
    IsBest (score E step) n ((ranking E step).take n) := by
  have descending : (ranking E step).Pairwise fun y z => score E step z ≤ score E step y :=
    (pairwise_ranking E step).imp fun {y z} (h : Precedes E step y z) =>
      h.elim le_of_lt fun htie => htie.1.ge
  refine ⟨(nodup_ranking E step).sublist (take_sublist n _), ?_,
    descending.sublist (take_sublist n _), ?_⟩
  · rw [length_take, length_ranking]
  · intro y hy z hz
    -- what is not among the first of the ranking is behind them
    have hrest : z ∈ (ranking E step).drop n := by
      have hmem := mem_ranking E step z
      rw [← take_append_drop n (ranking E step)] at hmem
      exact (mem_append.1 hmem).resolve_left hz
    rw [← take_append_drop n (ranking E step)] at descending
    exact (pairwise_append.1 descending).2.2 y hy z hrest

/-- The labelings that are found are the best ones, for any number of tokens but none. -/
theorem nBest?_isBest {W : Type} [AddCommMonoid W] [LinearOrder W] [IsOrderedCancelAddMonoid W]
    {T L : ℕ} (hT : 0 < T) (n : ℤ) (E : Fin T → Fin L → W) (transitions : Weights W)
    (labels : Fin L → String) :
    ∃ found : List (Labeling T L),
      Labeling.IsBest (Labeling.total E fun i j => transitions.get (labels i) (labels j)) n.toNat
        found ∧
      nBest? n (List.ofFn fun t => List.ofFn (E t)) transitions (List.ofFn labels) =
        some (found.map fun y => (List.ofFn fun t => labels (y t),
          y.total E fun i j => transitions.get (labels i) (labels j))) := by
  obtain ⟨T, rfl⟩ : ∃ k, T = k + 1 := ⟨T - 1, by omega⟩
  rw [funext (Labeling.total_eq_score E fun i j => transitions.get (labels i) (labels j))]
  exact ⟨_, Labeling.isBest_take_ranking E _ n.toNat, nBest?_ofFn n E transitions labels⟩

end NameTagger.Chain
