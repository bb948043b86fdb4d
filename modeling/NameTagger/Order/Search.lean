/-!
# Searching by leaps

How many items at the front of a list are wanted is found by few questions if the wanted items come
first: leaps that double until one of them fails, then halving.  Where wanted items do not come
first, the questions themselves decide what is counted.

* `Side`, `Side.middle`: the end of an order that a list begins with, and which place halves it;
* `leap`, `halve`: the two stages of the search;
* `wantedCount`: the number of wanted items.
-/

namespace NameTagger.Order

/-- The end of an order that a list begins with. -/
inductive Side where
  | front
  | back
deriving DecidableEq, Repr

/-- The place in the middle of those from `low` up to `high`.  Of two such places it is the one
nearer to the back of the order. -/
def Side.middle (side : Side) (low high : Nat) : Nat :=
  match side with
  | .front => low + (high - low) / 2
  | .back => low + (high - low - 1) / 2

theorem Side.le_middle (side : Side) (low high : Nat) : low ≤ side.middle low high := by
  cases side <;> simp only [middle] <;> omega

theorem Side.middle_lt (side : Side) {low high : Nat} (h : low < high) :
    side.middle low high < high := by
  cases side <;> simp only [middle] <;> omega

/-- Leap from place `last` to place `next`, and from there ever further, while the places that are
reached are wanted: the last one that is, and the one behind it that is not, or the end. -/
def leap (isWanted : Nat → Bool) (size last next : Nat) : Nat × Nat :=
  if next < size then
    if isWanted next then leap isWanted size next (2 * next + 1) else (last, next)
  else (last, size)
termination_by size - next

/-- The number of wanted places if those before `low` are wanted and those from `high` on are
not. -/
def halve (side : Side) (isWanted : Nat → Bool) (low high : Nat) : Nat :=
  if low < high then
    if isWanted (side.middle low high) then halve side isWanted (side.middle low high + 1) high
    else halve side isWanted low (side.middle low high)
  else low
termination_by high - low
decreasing_by
  all_goals
    have := side.le_middle low high
    have := side.middle_lt ‹low < high›
    omega

/-- The number of wanted items of a list that begins with them. -/
def wantedCount {α : Type} (side : Side) (isWanted : α → Bool) (items : List α) : Nat :=
  let places := items.toArray
  let isWantedAt (i : Nat) : Bool := places[i]?.any isWanted
  if isWantedAt 0 then
    let (last, next) := leap isWantedAt places.size 0 1
    halve side isWantedAt (last + 1) next
  else 0

end NameTagger.Order
