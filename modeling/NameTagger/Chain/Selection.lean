import NameTagger.Order.Sort

/-!
# Selecting by scores that may be undefined

A score that is not a number compares with no other, so that the comparisons themselves decide what
is selected.  Candidates pass through a heap of bounded size: its root leaves when a candidate
with a greater score comes.  Those that stay are put in order.

* `Candidate`, `Candidate.isBelow`: an item with its score, and which of two leaves first;
* `rise`, `sink`: the repair of a heap from one place on;
* `heapOf`, `offer`: the heap of the first candidates, and the heap behind a further one;
* `foremost`: the candidate that stays if only one does;
* `selected`: the candidates that stay, the greatest in front.
-/

namespace NameTagger.Chain

/-- An item that may be selected. -/
structure Candidate (W α : Type) where
  score : W
  /-- The number of candidates before it. -/
  place : Nat
  item : α

section

variable {W α : Type} [BEq W] [LT W] [DecidableLT W]

/-- Whether a candidate leaves before another one: its score is lower, or it is equal and the
candidate came later. -/
def Candidate.isBelow (a b : Candidate W α) : Bool :=
  if a.score == b.score then b.place < a.place else a.score < b.score

/-- The place above a place of a heap. -/
def parent (i : Nat) : Nat := (i - 1) / 2

theorem parent_lt {top i : Nat} (h : top < i) : parent i < i := by
  unfold parent
  omega

/-- Move the candidate at place `i` up, at most to place `top`, while it is below its parent. -/
def rise (heap : Array (Candidate W α)) (top i : Nat) : Array (Candidate W α) :=
  if _h : top < i then
    match heap[i]?, heap[parent i]? with
    | some candidate, some above =>
        if candidate.isBelow above then rise (heap.swapIfInBounds i (parent i)) top (parent i)
        else heap
    | _, _ => heap
  else heap
termination_by i
decreasing_by exact parent_lt ‹_›

/-- The place below `i` whose candidate leaves first; the left one if it is the only one. -/
def lowerChild (heap : Array (Candidate W α)) (i : Nat) : Nat :=
  match heap[2 * i + 1]?, heap[2 * i + 2]? with
  | some left, some right => if left.isBelow right then 2 * i + 1 else 2 * i + 2
  | _, _ => 2 * i + 1

theorem lt_lowerChild (heap : Array (Candidate W α)) (i : Nat) : i < lowerChild heap i := by
  unfold lowerChild
  split
  · split <;> omega
  · omega

/-- Move the candidate at place `i` down to a leaf and from there up again, at most to place
`top`. -/
def sink (heap : Array (Candidate W α)) (top i : Nat) : Array (Candidate W α) :=
  if 2 * i + 1 < heap.size then
    sink (heap.swapIfInBounds i (lowerChild heap i)) top (lowerChild heap i)
  else rise heap top i
termination_by heap.size - i
decreasing_by
  have := lt_lowerChild heap i
  simp only [Array.size_swapIfInBounds]
  omega

@[simp] theorem size_rise (heap : Array (Candidate W α)) (top i : Nat) :
    (rise heap top i).size = heap.size := by
  fun_induction rise heap top i <;> simp_all

@[simp] theorem size_sink (heap : Array (Candidate W α)) (top i : Nat) :
    (sink heap top i).size = heap.size := by
  fun_induction sink heap top i <;> simp_all

/-- The heap of candidates. -/
def heapOf (candidates : List (Candidate W α)) : Array (Candidate W α) :=
  (List.range (candidates.length / 2)).foldr (fun i heap => sink heap i i) candidates.toArray

/-- The heap behind a further candidate, which takes the place of the root if its score is
greater. -/
def offer (heap : Array (Candidate W α)) (candidate : Candidate W α) : Array (Candidate W α) :=
  match heap[0]? with
  | some root =>
      if root.score < candidate.score then sink (heap.setIfInBounds 0 candidate) 0 0 else heap
  | none => heap

/-- A further candidate never makes a heap larger. -/
@[simp] theorem size_offer (heap : Array (Candidate W α)) (candidate : Candidate W α) :
    (offer heap candidate).size = heap.size := by
  unfold offer
  split
  · split <;> simp
  · rfl

/-- The first candidate that no later one exceeds before another takes its place. -/
def foremost : List (Candidate W α) → Option (Candidate W α)
  | [] => none
  | first :: rest =>
      some (rest.foldl (fun best next => if best.score < next.score then next else best) first)

/-- The items of at most `n` candidates, the greatest in front. -/
def selected (n : Nat) (candidates : List (Candidate W α)) : List α :=
  let stay :=
    if n = 1 then (foremost candidates).toList
    else
      let heap := (candidates.drop n).foldl offer (heapOf (candidates.take n))
      (Order.sorted Candidate.isBelow heap.toList.reverse).reverse
  stay.map Candidate.item

end

end NameTagger.Chain
