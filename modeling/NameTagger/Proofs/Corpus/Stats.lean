import Mathlib.Algebra.Ring.Nat
import NameTagger.Corpus.Basic
import NameTagger.Proofs.Keyed

/-!
# The numbers of a corpus

The labels of a corpus are counted one after another.  Every label is then listed once, where it
first came, with the number of its occurrences.

* `Counts.number`, `Counts.total`: the count of a string, and of all strings;
* `Counts.map_fst_ofList`, `Counts.number_ofList`, `Counts.total_ofList`: the counts of the strings
  of a list;
* `total_stats`: the labels of a corpus are as many as its tokens;
* `Stats.Adds`, `stats_append`: the numbers of two corpora add up.
-/

namespace NameTagger.Corpus

namespace Counts

/-- How often a string was counted. -/
def number (counts : Counts) (s : String) : Nat := (counts.lookup s).getD 0

/-- How many strings were counted. -/
def total (counts : Counts) : Nat := (counts.map (·.2)).sum

theorem add_eq_update (s : String) (counts : Counts) :
    counts.add s = Keyed.update s (fun n? => n?.getD 0 + 1) counts := by
  induction counts with
  | nil => rfl
  | cons count counts ih =>
    obtain ⟨t, n⟩ := count
    rw [add, Keyed.update, ih]
    rfl

theorem ofList_eq_gather (ss : List String) :
    ofList ss = Keyed.gather id (fun _ n? => n?.getD 0 + 1) ss := by
  rw [ofList, Keyed.gather]
  congr 1
  funext counts s
  exact add_eq_update s counts

/-- Strings are listed by their first occurrence. -/
theorem map_fst_ofList (ss : List String) : (ofList ss).map (·.1) = ss.eraseDups := by
  rw [ofList_eq_gather, Keyed.map_fst_gather, List.map_id]

theorem number_ofList (ss : List String) (s : String) : (ofList ss).number s = ss.count s := by
  rw [number, ofList_eq_gather]
  induction ss using List.reverseRecOn with
  | nil => rfl
  | append_singleton ss t ih =>
    rw [Keyed.gather_concat, Keyed.lookup_update, List.count_append, ← ih]
    by_cases hs : s = t
    · simp [hs]
    · simp [hs, Ne.symm hs]

theorem total_add (s : String) (counts : Counts) : (counts.add s).total = counts.total + 1 := by
  induction counts with
  | nil => rfl
  | cons count counts ih =>
    rw [total] at ih
    rw [add]
    split
    · simp only [total, List.map_cons, List.sum_cons]
      omega
    · simp only [total, List.map_cons, List.sum_cons, ih]
      omega

theorem total_ofList (ss : List String) : (ofList ss).total = ss.length := by
  induction ss using List.reverseRecOn with
  | nil => rfl
  | append_singleton ss s ih =>
    rw [ofList, List.foldl_append, ← ofList, List.length_append, ← ih]
    exact total_add s _

end Counts

/-! ### Corpora -/

theorem labels_append (a b : Corpus) : labels (a ++ b) = labels a ++ labels b :=
  List.flatMap_append

theorem length_labels (corpus : Corpus) : corpus.labels.length = corpus.stats.tokens := by
  rw [labels, List.length_flatMap]
  simp [stats, Sequence.labels, List.sum_eq_foldr]

/-- Each token counts for one label. -/
theorem total_stats (corpus : Corpus) : corpus.stats.labelCounts.total = corpus.stats.tokens := by
  rw [← length_labels]
  exact Counts.total_ofList _

/-- Numbers are those of two parts together. -/
structure Stats.Adds (whole first second : Stats) : Prop where
  sequences : whole.sequences = first.sequences + second.sequences
  tokens : whole.tokens = first.tokens + second.tokens
  number : ∀ label, whole.labelCounts.number label =
    first.labelCounts.number label + second.labelCounts.number label
  /-- No other labels are listed than those of the parts. -/
  mem_labels : ∀ label, label ∈ whole.labelCounts.map (·.1) ↔
    label ∈ first.labelCounts.map (·.1) ∨ label ∈ second.labelCounts.map (·.1)

theorem stats_append (a b : Corpus) : (stats (a ++ b)).Adds a.stats b.stats where
  sequences := List.length_append
  tokens := by
    rw [← length_labels, ← length_labels, ← length_labels, labels_append, List.length_append]
  number label := by
    simp only [stats, Counts.number_ofList, labels_append, List.count_append]
  mem_labels label := by
    simp only [stats, Counts.map_fst_ofList, labels_append, List.mem_eraseDups, List.mem_append]

end NameTagger.Corpus
