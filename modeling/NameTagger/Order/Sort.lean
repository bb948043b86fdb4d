import NameTagger.Order.Merge
import NameTagger.Order.Run

/-!
# Putting items in order

The runs of a list wait on a stack until they are merged.  When the boundary of two waiting runs
lies deeper in the halving of the list than the boundary in front of the next run, they are merged
first.  Where the comparisons fit no order, they themselves decide what comes first.

* `Waiting`, `boundaryDepth`: a run that waits, and how deep the boundary of two runs lies;
* `settle`, `gather`: the runs that wait for a next one, and those that are left in the end;
* `mergeAll`: one run out of all that wait;
* `sorted`: items in order.
-/

namespace NameTagger.Order

/-- A run that waits, with the depth of the boundary between it and the run below it. -/
structure Waiting (α : Type) where
  run : List α
  depth : Nat

/-- The depth of the boundary between two neighbouring runs of a list: how many binary places it
takes to tell their middles apart, as parts of the whole.  The middles are doubled. -/
def boundaryDepth (size lowerMiddle upperMiddle : Nat) : Nat :=
  let places := size.log2 + 2
  ((List.range places).find? fun k =>
    Nat.pow 2 k * lowerMiddle / size != Nat.pow 2 k * upperMiddle / size).getD places

section

variable {α : Type} (isBefore : α → α → Bool)

/-- Merge the runs on top of the stack whose boundary is deeper than that in front of the next
run. -/
def settle (depth patience : Nat) : List (Waiting α) → Nat × List (Waiting α)
  | upper :: lower :: rest =>
      if depth < upper.depth then
        let (patience, run) := merge isBefore patience lower.run upper.run
        settle depth patience (⟨run, lower.depth⟩ :: rest)
      else (patience, upper :: lower :: rest)
  | waiting => (patience, waiting)
termination_by waiting => waiting.length

/-- The stack with a next run that begins at place `start`. -/
def await (size start patience : Nat) (waiting : List (Waiting α)) (run : List α) :
    Nat × List (Waiting α) :=
  match waiting with
  | [] => (patience, [⟨run, 0⟩])
  | top :: _ =>
      let depth := boundaryDepth size (2 * start - top.run.length) (2 * start + run.length)
      let (patience, waiting) := settle isBefore depth patience waiting
      (patience, ⟨run, depth⟩ :: waiting)

/-- The stack behind the runs of the last items of a list. -/
def gather (size patience : Nat) (waiting : List (Waiting α)) : List α → Nat × List (Waiting α)
  | [] => (patience, waiting)
  | item :: items =>
      let next := nextRun isBefore (leastRun size) (item :: items)
      let (patience, waiting) :=
        await isBefore size (size - (items.length + 1)) patience waiting next.1
      gather size patience waiting next.2
termination_by items => items.length
decreasing_by exact length_nextRun_lt ..

/-- One run out of all that wait, the last one first.  A run between two others is merged with the
shorter one. -/
def mergeAll (patience : Nat) : List (List α) → List α
  | [] => []
  | [only] => only
  | [upper, lower] => (merge isBefore patience lower upper).2
  | upper :: middle :: lower :: rest =>
      if lower.length < upper.length then
        let (patience, run) := merge isBefore patience lower middle
        mergeAll patience (upper :: run :: rest)
      else
        let (patience, run) := merge isBefore patience middle upper
        mergeAll patience (run :: lower :: rest)
termination_by runs => runs.length

/-- Items in order. -/
def sorted (items : List α) : List α :=
  let (patience, waiting) := gather isBefore items.length worthLeaping [] items
  mergeAll isBefore patience (waiting.map Waiting.run)

end

end NameTagger.Order
