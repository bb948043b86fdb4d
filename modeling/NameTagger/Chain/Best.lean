import NameTagger.Chain.Selection
import NameTagger.Chain.Weights

/-!
# The best labelings of a chain

The best paths through a chain of labels are found from the left to the right: for each label only
the best paths that end in it are kept.

* `Path`: a labeling with its score;
* `top`: the best paths of a list, where equal scores keep their order;
* `start`, `extend`, `bestPaths`: the best paths of each label, and of all;
* `nBest?`: the best labelings by their names.
-/

namespace NameTagger.Chain

/-- A path through the labels. -/
structure Path (W : Type) where
  score : W
  /-- The places of the labels, the last label first. -/
  back : List Nat
deriving DecidableEq, Repr

section

variable {W : Type} [Add W] [BEq W] [LT W] [DecidableLT W]

/-- Whether the score of a path is defined.  One that is not a number differs from itself. -/
def Path.isScored (path : Path W) : Bool := path.score == path.score

/-- The best `n` paths, the best first; equal scores keep their order.  If a score is undefined, the
paths are selected one by one. -/
def top (n : Nat) (paths : List (Path W)) : List (Path W) :=
  if paths.all Path.isScored then
    (paths.mergeSort fun a b => !decide (a.score < b.score)).take n
  else selected n (paths.mapIdx fun place path => ⟨path.score, place, path⟩)

omit [Add W] in
/-- Where every score equals itself, the best paths are the first of a stable descending sort. -/
theorem top_eq_take [ReflBEq W] (n : Nat) (paths : List (Path W)) :
    top n paths = (paths.mergeSort fun a b => !decide (a.score < b.score)).take n := by
  simp [top, Path.isScored]

/-- The paths of one label each. -/
def start (row : List W) : List (List (Path W)) := row.mapIdx fun j score => [⟨score, [j]⟩]

/-- The path that goes on to a label. -/
def Path.snoc (path : Path W) (next : Nat) (transition score : W) : Path W :=
  ⟨path.score + transition + score, next :: path.back⟩

/-- All continuations of paths to a label; `beams` holds the paths by the label they end in. -/
def continuations (transition : Nat → Nat → W) (beams : List (List (Path W))) (next : Nat)
    (score : W) : List (Path W) :=
  (beams.mapIdx fun last beam =>
    beam.map fun path => path.snoc next (transition last next) score).flatten

/-- The best `n` paths for each label, one token further on. -/
def extend (n : Nat) (transition : Nat → Nat → W) (beams : List (List (Path W)))
    (row : List W) : List (List (Path W)) :=
  row.mapIdx fun next score => top n (continuations transition beams next score)

/-- The best `n` paths through the rows of a chain. -/
def bestPaths (n : Nat) (transition : Nat → Nat → W) (first : List W) (rest : List (List W)) :
    List (Path W) :=
  top n (rest.foldl (extend n transition) (start first)).flatten

end

section

variable {W : Type} [Add W] [OfNat W 0] [BEq W] [LT W] [DecidableLT W]

/-- The weights between labels by their places. -/
def transitionTable (transitions : Weights W) (labels : List String) : Array (Array W) :=
  (labels.map fun a => (labels.map (transitions.get a)).toArray).toArray

/-- The weight between the labels at two places. -/
def between (table : Array (Array W)) (last next : Nat) : W :=
  ((table[last]?.bind fun row => row[next]?).getD 0)

/-- The labels of a path in their order. -/
def Path.names (labels : List String) (path : Path W) : List String :=
  path.back.reverse.filterMap fun i => labels[i]?

/-- The best `n` labelings of a chain, the best first; equal scores are in the order of the labels,
where the last label counts first.  A row that lacks a score for a label gives no answer. -/
def nBest? (n : Int) (emission : List (List W)) (transitions : Weights W) (labels : List String) :
    Option (List (List String × W)) :=
  match emission with
  | [] => some []
  | first :: rest =>
      if labels = [] || n ≤ 0 then some []
      else if (first :: rest).any fun row => row.length < labels.length then none
      else
        let cut (row : List W) : List W := row.take labels.length
        let table := transitionTable transitions labels
        let paths := bestPaths n.toNat (between table) (cut first) (rest.map cut)
        some (paths.map fun path => (path.names labels, path.score))

/-- How many labelings are looked for if nothing else is asked for. -/
def defaultBest : Int := 5

end

end NameTagger.Chain
