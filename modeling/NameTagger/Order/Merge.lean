import NameTagger.Order.Search

/-!
# Merging two runs

The runs are merged item by item.  Where one of them keeps winning, its items are taken by leaps;
the patience is the number of wins in a row that it takes, and grows or falls with what the leaps
bring.

* `Merging`: two runs that are being merged from one side;
* `Merging.leapFirst`, `leapSecond`, `leapBoth`: items that are taken by leaps;
* `Merging.finish`: the merged items;
* `merge`: one run out of two neighbouring ones.
-/

namespace NameTagger.Order

/-- Two runs that are being merged from one side. -/
structure Merging (α : Type) where
  /-- What is left of the run whose items come first where neither has to come before the other. -/
  first : List α
  /-- What is left of the other run. -/
  second : List α
  /-- The merged items, the last one in front. -/
  done : List α

namespace Merging

section

variable {α : Type}

/-- How many items are left. -/
def left (merging : Merging α) : Nat := merging.first.length + merging.second.length

/-- Whether the rest is known: a run is used up, or the first one has its last item left, which
comes behind all of the second. -/
def isDecided (merging : Merging α) : Bool :=
  decide (merging.first.length ≤ 1) || merging.second.isEmpty

/-- All items if the rest is known. -/
def result (merging : Merging α) : List α :=
  merging.done.reverse ++ (merging.second ++ merging.first)

/-- Take the next `n` items of the first run. -/
def takeFirst (merging : Merging α) (n : Nat) : Merging α where
  first := merging.first.drop n
  second := merging.second
  done := (merging.first.take n).reverse ++ merging.done

/-- Take the next `n` items of the second run. -/
def takeSecond (merging : Merging α) (n : Nat) : Merging α where
  first := merging.first
  second := merging.second.drop n
  done := (merging.second.take n).reverse ++ merging.done

theorem isDecided_eq_true_iff {merging : Merging α} :
    merging.isDecided = true ↔ merging.first.length ≤ 1 ∨ merging.second.length = 0 := by
  simp [isDecided]

theorem isDecided_eq_false_iff {merging : Merging α} :
    merging.isDecided = false ↔ 1 < merging.first.length ∧ 0 < merging.second.length := by
  simp [isDecided, List.length_pos_iff]

end

section

variable {α : Type} (side : Side) (isBefore : α → α → Bool)

/-- Take by leaps the items of the first run that come before the next one of the second, and then
that one; how many there were of the first. -/
def leapFirst (merging : Merging α) : Nat × Merging α :=
  match merging.isDecided, merging.second with
  | false, next :: _ =>
      let n := wantedCount side (fun item => !isBefore next item) merging.first
      let taken := merging.takeFirst n
      (n, if taken.isDecided then taken else taken.takeSecond 1)
  | _, _ => (0, merging)

/-- Take by leaps the items of the second run that come before the next one of the first, and then
that one; how many there were of the second. -/
def leapSecond (merging : Merging α) : Nat × Merging α :=
  match merging.isDecided, merging.first with
  | false, next :: _ =>
      let n := wantedCount side (fun item => isBefore item next) merging.second
      let taken := merging.takeSecond n
      (n, if taken.isDecided then taken else taken.takeFirst 1)
  | _, _ => (0, merging)

/-- Take items of both runs by leaps, those of the run at the front of the order first; the greater
number of them. -/
def leapBoth (merging : Merging α) : Nat × Merging α :=
  match side with
  | .front =>
      let (n, merging) := merging.leapFirst side isBefore
      let (k, merging) := merging.leapSecond side isBefore
      (max n k, merging)
  | .back =>
      let (n, merging) := merging.leapSecond side isBefore
      let (k, merging) := merging.leapFirst side isBefore
      (max n k, merging)

end

section

variable {α : Type} {side : Side} {isBefore : α → α → Bool}

theorem left_leapFirst_lt {merging : Merging α} (h : merging.isDecided = false) :
    (merging.leapFirst side isBefore).2.left < merging.left := by
  obtain ⟨hfirst, hsecond⟩ := isDecided_eq_false_iff.1 h
  unfold leapFirst
  split
  · dsimp only
    split
    · rename_i taken
      simp only [isDecided_eq_true_iff, takeFirst, List.length_drop] at taken
      simp only [left, takeFirst, List.length_drop]
      omega
    · simp only [left, takeFirst, takeSecond, List.length_drop]
      omega
  · rename_i second
    cases hs : merging.second with
    | nil => simp [hs] at hsecond
    | cons next rest => exact absurd hs (second next rest h)

theorem left_leapSecond_lt {merging : Merging α} (h : merging.isDecided = false) :
    (merging.leapSecond side isBefore).2.left < merging.left := by
  obtain ⟨hfirst, hsecond⟩ := isDecided_eq_false_iff.1 h
  unfold leapSecond
  split
  · dsimp only
    split
    · rename_i taken
      simp only [isDecided_eq_true_iff, takeSecond, List.length_drop] at taken
      simp only [left, takeSecond, List.length_drop]
      omega
    · simp only [left, takeFirst, takeSecond, List.length_drop]
      omega
  · rename_i first
    cases hs : merging.first with
    | nil => simp [hs] at hfirst
    | cons next rest => exact absurd hs (first next rest h)

theorem left_leapFirst_le (merging : Merging α) :
    (merging.leapFirst side isBefore).2.left ≤ merging.left := by
  cases h : merging.isDecided with
  | false => exact Nat.le_of_lt (left_leapFirst_lt h)
  | true => simp [leapFirst, h]

theorem left_leapSecond_le (merging : Merging α) :
    (merging.leapSecond side isBefore).2.left ≤ merging.left := by
  cases h : merging.isDecided with
  | false => exact Nat.le_of_lt (left_leapSecond_lt h)
  | true => simp [leapSecond, h]

/-- Leaps take an item at least. -/
theorem left_leapBoth_lt {merging : Merging α} (h : merging.isDecided = false) :
    (merging.leapBoth side isBefore).2.left < merging.left := by
  cases side with
  | front => exact Nat.lt_of_le_of_lt (left_leapSecond_le _) (left_leapFirst_lt h)
  | back => exact Nat.lt_of_le_of_lt (left_leapFirst_le _) (left_leapSecond_lt h)

end

end Merging

/-- How the next items are taken. -/
inductive Pace where
  /-- One by one; how often in a row each run has won. -/
  | stepping (firstWins secondWins : Nat)
  | leaping

/-- The pace behind a step. -/
def Pace.afterStep (patience firstWins secondWins : Nat) : Pace :=
  if patience ≤ max firstWins secondWins then .leaping else .stepping firstWins secondWins

/-- The patience at the beginning, and how many items make a leap worth while. -/
def worthLeaping : Nat := 7

section

variable {α : Type} (isBefore : α → α → Bool)

/-- The patience in the end and the merged items. -/
def Merging.finish (side : Side) (patience : Nat) (pace : Pace) (merging : Merging α) :
    Nat × List α :=
  if h : merging.isDecided = false then
    match pace with
    | .stepping firstWins secondWins =>
        let secondIsNext := match merging.first, merging.second with
          | x :: _, y :: _ => isBefore y x
          | _, _ => false
        if secondIsNext then
          finish side patience (.afterStep patience 0 (secondWins + 1)) (merging.takeSecond 1)
        else finish side patience (.afterStep patience (firstWins + 1) 0) (merging.takeFirst 1)
    | .leaping =>
        let next := merging.leapBoth side isBefore
        if next.2.isDecided then (patience, next.2.result)
        else if worthLeaping ≤ next.1 then finish side (max 1 (patience - 1)) .leaping next.2
        else finish side (patience + 1) (.stepping 0 0) next.2
  else (patience, merging.result)
termination_by merging.left
decreasing_by
  all_goals
    obtain ⟨hfirst, hsecond⟩ := Merging.isDecided_eq_false_iff.1 h
  · simp only [Merging.left, Merging.takeSecond, List.length_drop]
    omega
  · simp only [Merging.left, Merging.takeFirst, List.length_drop]
    omega
  · exact Merging.left_leapBoth_lt h
  · exact Merging.left_leapBoth_lt h

/-- Merge two runs from the front; the second one begins. -/
def mergeFront (patience : Nat) (lower upper : List α) : Nat × List α :=
  Merging.finish isBefore .front patience (.stepping 0 0) (Merging.takeSecond ⟨lower, upper, []⟩ 1)

/-- Merge two runs from the back; the first one begins. -/
def mergeBack (patience : Nat) (lower upper : List α) : Nat × List α :=
  let (patience, merged) := Merging.finish (fun x y => isBefore y x) .back patience (.stepping 0 0)
    (Merging.takeSecond ⟨upper.reverse, lower.reverse, []⟩ 1)
  (patience, merged.reverse)

/-- One run out of two neighbouring ones, and the patience behind it.  What comes before the other
run or behind it stays where it is; what remains is merged from the side of its shorter run. -/
def merge (patience : Nat) (lower upper : List α) : Nat × List α :=
  match upper with
  | [] => (patience, lower)
  | next :: _ =>
      let before := wantedCount .front (fun item => !isBefore next item) lower
      match lower.getLast? with
      | none => (patience, upper)
      | some last =>
          if lower.length ≤ before then (patience, lower ++ upper)
          else
            let behind := wantedCount .back (fun item => !isBefore item last) upper.reverse
            let (low, high) := (lower.drop before, upper.take (upper.length - behind))
            let (patience, merged) :=
              if low.length ≤ high.length then mergeFront isBefore patience low high
              else mergeBack isBefore patience low high
            (patience, lower.take before ++ merged ++ upper.drop (upper.length - behind))

end

end NameTagger.Order
