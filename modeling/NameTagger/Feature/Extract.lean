import NameTagger.Feature.Group

/-!
# The features of a token

Training and decoding both take the features of a token from here, so that a model meets the same
names in both.  They depend on the cells, the position and the set of groups that are switched on,
not on the order in which the groups are named.

* `ofGroup?`: the features of one group;
* `extract?`: the features of the groups that are switched on, and `bias` at the end;
* `extractAll`: the features of every token of a name;
* `extract`, `extractSequence`: the same, or the fault if a position has no token or the place of a
  token cannot be told;
* `misplacementAt?`, `misplaced?`: why the place of a token cannot be told.
-/

namespace NameTagger.Feature

variable {W : Type} [OfScientific W]

/-- The features of one group for the token at a position. -/
def ofGroup? (cells : List Cell) (at_ : Int) (cell : Cell) : Group → Option (List (Feature W))
  | .identity => some (identity cell.own)
  | .shape => some (shape cell.own)
  | .affix => some (affix cell.own)
  | .case => some (case cell.own)
  | .length => some (length cell.own)
  | .character => some (character cell.own)
  | .context => context? cells at_ contextWindow
  | .position => some (position cell cells.length)

/-- The groups that a list of names switches on; other names are passed over. -/
def enabled (groups : List String) : List Group :=
  Group.all.filter fun group => groups.contains group.name

/-- The features of the token at a signed position, if there is one. -/
def extract? (cells : List Cell) (at_ : Int) (groups : List String) :
    Option (List (Feature W)) := do
  let cell ← Cell.at? cells at_
  let parts ← (enabled groups).mapM (ofGroup? cells at_ cell)
  return parts.flatten ++ [plain "bias"]

theorem Cell.at?_natCast (cells : List Cell) (i : Nat) : Cell.at? cells (i : Int) = cells[i]? := by
  simp [Cell.at?]

theorem neighbour?_isSome {cells : List Cell} {label endMark : String} {k : Nat} {i : Int}
    {inside : Bool} (h : inside = true → 0 ≤ i ∧ i < cells.length) :
    (neighbour? (W := W) cells label endMark k i inside).isSome := by
  unfold neighbour?
  cases inside with
  | false => rfl
  | true =>
    obtain ⟨h0, h1⟩ := h rfl
    have : i.toNat < cells.length := by omega
    simp [Cell.at?, h0, this]

theorem isSome_mapM {α β : Type} {f : α → Option β} {l : List α} (h : ∀ a ∈ l, (f a).isSome) :
    (l.mapM f).isSome := by
  induction l with
  | nil => rfl
  | cons a l ih =>
    obtain ⟨b, hb⟩ := Option.isSome_iff_exists.1 (h a (by simp))
    obtain ⟨bs, hbs⟩ := Option.isSome_iff_exists.1 (ih fun x hx => h x (by simp [hx]))
    simp [List.mapM_cons, hb, hbs]

theorem before?_isSome {cells : List Cell} {i : Nat} (window : Nat) (h : i < cells.length) :
    (before? (W := W) cells i window).isSome := by
  refine isSome_mapM fun k _ => neighbour?_isSome fun hk => ?_
  simp only [decide_eq_true_eq] at hk
  omega

theorem behind?_isSome (cells : List Cell) (i window : Nat) :
    (behind? (W := W) cells i window).isSome := by
  refine isSome_mapM fun k _ => neighbour?_isSome fun hk => ?_
  simp only [decide_eq_true_eq] at hk
  omega

theorem context?_isSome {cells : List Cell} {i : Nat} (window : Nat) (h : i < cells.length) :
    (context? (W := W) cells i window).isSome := by
  obtain ⟨a, ha⟩ := Option.isSome_iff_exists.1 (before?_isSome (W := W) window h)
  obtain ⟨b, hb⟩ := Option.isSome_iff_exists.1 (behind?_isSome (W := W) cells i window)
  simp [context?, ha, hb]

/-- Every group has features for every position inside a name. -/
theorem ofGroup?_isSome {cells : List Cell} {i : Nat} (h : i < cells.length) (group : Group) :
    (ofGroup? (W := W) cells i cells[i] group).isSome := by
  cases group <;> first | rfl | exact context?_isSome _ h

/-- Every position inside a name has features. -/
theorem extract?_isSome (cells : List Cell) (groups : List String) {i : Nat}
    (h : i < cells.length) : (extract? (W := W) cells i groups).isSome := by
  have parts : ((enabled groups).mapM (ofGroup? (W := W) cells i cells[i])).isSome :=
    isSome_mapM fun group _ => ofGroup?_isSome h group
  obtain ⟨ps, hps⟩ := Option.isSome_iff_exists.1 parts
  simp [extract?, Cell.at?_natCast, h, hps]

/-- The features of every token of a name. -/
def extractAll (cells : List Cell) (groups : List String) : List (List (Feature W)) :=
  List.ofFn fun i : Fin cells.length =>
    (extract? cells i groups).get (extract?_isSome cells groups i.isLt)

@[simp] theorem length_extractAll (cells : List Cell) (groups : List String) :
    (extractAll (W := W) cells groups).length = cells.length := by
  simp [extractAll]

/-! ### What prevents the features of a token -/

/-- The fault of a position without a token. -/
def outOfRange : Fault := ⟨.indexRange, "list index out of range"⟩

/-- What there is at a position, or the fault if there is nothing. -/
def found {α : Type} (a? : Option α) : Except Fault α := a?.elim (.error outOfRange) .ok

/-- The neighbours of a position, or the fault if one of them is missing. -/
def context (cells : List Cell) (position : Int) (window : Nat) :
    Except Fault (List (Feature W)) :=
  found (context? cells position window)

/-- The features of one group for the token at a position, or what prevents them. -/
def ofGroup (cells : List Cell) (at_ : Int) (cell : Cell) :
    Group → Except Fault (List (Feature W))
  | .position => place cell cells.length
  | group => found (ofGroup? cells at_ cell group)

/-- The features of the token at a signed position, or what prevents them. -/
def extract (cells : List Cell) (at_ : Int) (groups : List String) :
    Except Fault (List (Feature W)) := do
  let cell ← found (Cell.at? cells at_)
  let parts ← (enabled groups).mapM (ofGroup cells at_ cell)
  return parts.flatten ++ [plain "bias"]

/-- The features of every token of a name, or what prevents those of the first that has none. -/
def extractSequence (cells : List Cell) (groups : List String) :
    Except Fault (List (List (Feature W))) :=
  (List.finRange cells.length).mapM fun (i : Fin cells.length) => extract cells (i : Nat) groups

/-- Why the place of a token cannot be told, if it is asked for. -/
def misplacementOf? (cells : List Cell) (groups : List String) (cell : Cell) :
    Option Misplacement :=
  if groups.contains Group.position.name then misplacement? cell.position cells.length else none

/-- Why the place of the token at a signed position cannot be told. -/
def misplacementAt? (cells : List Cell) (groups : List String) (at_ : Int) : Option Misplacement :=
  (Cell.at? cells at_).bind (misplacementOf? cells groups)

/-- Why the place of a token cannot be told, for the first of which it cannot. -/
def misplaced? (cells : List Cell) (groups : List String) : Option Misplacement :=
  cells.findSome? (misplacementOf? cells groups)

end NameTagger.Feature
