import Mathlib.Data.List.Induction
import Mathlib.Data.List.Nodup

/-!
# Lists of values by keys

Values are gathered by keys in the order in which the keys first come: the texts of a column, the
number of occurrences of a label.

* `update`: a list with a new value for a key;
* `lookup_update`, `map_fst_update`: what becomes of the values and of the keys;
* `gather`: several updates, one behind the other;
* `map_fst_gather`, `nodup_gather`: its keys are those of the items, each of them once.
-/

namespace NameTagger.Keyed

variable {α β γ ι : Type} [DecidableEq α]

/-- Give a key a new value, which may depend on the old one; a new key goes to the end. -/
def update (key : α) (f : Option β → β) : List (α × β) → List (α × β)
  | [] => [(key, f none)]
  | (k, b) :: rest => if k = key then (k, f (some b)) :: rest else (k, b) :: update key f rest

variable (key : α) (f : Option β → β) (l : List (α × β))

theorem lookup_update (k : α) :
    (update key f l).lookup k = if k = key then some (f (l.lookup k)) else l.lookup k := by
  induction l with
  | nil =>
    by_cases hk : k = key
    · simp [update, hk]
    · simp [update, hk, List.lookup_cons, beq_eq_false_iff_ne.2 hk]
  | cons entry l ih =>
    obtain ⟨first, b⟩ := entry
    rw [update]
    by_cases hfirst : first = key
    · subst hfirst
      by_cases hk : k = first
      · simp [hk]
      · simp [hk, List.lookup_cons, beq_eq_false_iff_ne.2 hk]
    · rw [if_neg hfirst, List.lookup_cons, List.lookup_cons, ih]
      by_cases hk : k = first
      · simp [hk, hfirst]
      · rw [beq_eq_false_iff_ne.2 hk]

theorem map_fst_update :
    (update key f l).map (·.1) =
      if key ∈ l.map (·.1) then l.map (·.1) else l.map (·.1) ++ [key] := by
  induction l with
  | nil => rfl
  | cons entry l ih =>
    obtain ⟨first, b⟩ := entry
    rw [update]
    by_cases hfirst : first = key
    · simp [hfirst]
    · rw [if_neg hfirst, List.map_cons, List.map_cons, ih]
      by_cases hmem : key ∈ l.map (·.1)
      · rw [if_pos hmem, if_pos (List.mem_cons_of_mem _ hmem)]
      · have hnew : key ∉ first :: l.map (·.1) :=
          List.not_mem_cons_of_ne_of_not_mem (Ne.symm hfirst) hmem
        rw [if_neg hmem, if_neg hnew, List.cons_append]

theorem lookup_map_snd (g : β → γ) (k : α) :
    (l.map fun (k, b) => (k, g b)).lookup k = (l.lookup k).map g := by
  induction l with
  | nil => rfl
  | cons entry l ih =>
    rw [List.map_cons, List.lookup_cons, List.lookup_cons, ih]
    cases k == entry.1 <;> rfl

/-! ### Gathering -/

section

variable (key : ι → α) (f : ι → Option β → β)

/-- Update a list for each of several items. -/
def gather (items : List ι) : List (α × β) :=
  items.foldl (fun l item => update (key item) (f item) l) []

theorem gather_concat (items : List ι) (item : ι) :
    gather key f (items ++ [item]) = update (key item) (f item) (gather key f items) := by
  rw [gather, List.foldl_append]
  rfl

theorem map_fst_gather (items : List ι) :
    (gather key f items).map (·.1) = (items.map key).eraseDups := by
  induction items using List.reverseRecOn with
  | nil => rfl
  | append_singleton items item ih =>
    rw [gather_concat, map_fst_update, ih, List.map_append, List.eraseDups_append,
      List.map_singleton]
    by_cases hmem : key item ∈ items.map key
    · have hnone : [key item].removeAll (items.map key) = [] :=
        List.filter_eq_nil_iff.2 (by simpa using hmem)
      rw [if_pos (List.mem_eraseDups.2 hmem), hnone, List.eraseDups_nil, List.append_nil]
    · have hsome : [key item].removeAll (items.map key) = [key item] :=
        List.filter_eq_self.2 (by simpa using hmem)
      rw [if_neg (mt List.mem_eraseDups.1 hmem), hsome]
      rfl

theorem nodup_gather (items : List ι) : ((gather key f items).map (·.1)).Nodup := by
  induction items using List.reverseRecOn with
  | nil => exact List.nodup_nil
  | append_singleton items item ih =>
    rw [gather_concat, map_fst_update]
    split
    · exact ih
    · next hnew =>
      exact List.nodup_append.2 ⟨ih, List.pairwise_singleton _ _, fun k hk k' hk' =>
        List.mem_singleton.1 hk' ▸ ne_of_mem_of_not_mem hk hnew⟩

end

end NameTagger.Keyed
