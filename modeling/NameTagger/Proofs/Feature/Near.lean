import Mathlib.Tactic.IntervalCases
import NameTagger.Proofs.Feature.Parts

/-!
# Features look at what is near

The features of a token depend on what is seen of it, on the texts of its neighbours and on the
number of tokens.  What else a token holds, such as its offsets, does not matter, nor does a token
that is farther away.

* `LookAlike`: two names of tokens of any kind look the same near a position;
* `neighbour?_congr`, `context?_congr`: what is shown of the neighbours;
* `ofGroup?_congr`: what a group gives;
* `extract?_near`: the features of a token, and whether its place can be told.
-/

namespace NameTagger.Feature

/-- Two names look the same near a position, where `see` is what feature extraction sees of a token:
they have as many tokens, the same is seen of those at the position, and the tokens up to `window`
places away have the same texts. -/
structure LookAlike {T : Type} (see : T → Cell) (window position : Nat) (tokens tokens' : List T) :
    Prop where
  length_eq : tokens.length = tokens'.length
  own : tokens[position]?.map see = tokens'[position]?.map see
  near : ∀ i, position ≤ i + window → i ≤ position + window →
    (tokens[i]?.map fun token => (see token).text) =
      tokens'[i]?.map fun token => (see token).text

variable {W : Type} [OfScientific W]

/-! ### Neighbours -/

theorem mem_distances {window k : Nat} : k ∈ distances window ↔ 1 ≤ k ∧ k ≤ window := by
  simp only [distances, List.mem_map, List.mem_range]
  constructor
  · rintro ⟨j, hj, rfl⟩
    omega
  · rintro ⟨h, h'⟩
    exact ⟨k - 1, by omega, by omega⟩

theorem mapM_congr {α β : Type} {f g : α → Option β} {l : List α} (h : ∀ a ∈ l, f a = g a) :
    l.mapM f = l.mapM g := by
  induction l with
  | nil => rfl
  | cons a l ih =>
    obtain ⟨ha, hl⟩ := List.forall_mem_cons.1 h
    rw [List.mapM_cons, List.mapM_cons, ha, ih hl]

/-- Of a neighbour only the text is shown. -/
theorem neighbour?_congr {cells cells' : List Cell} {label endMark : String} {k : Nat} {i : Int}
    {inside : Bool}
    (h : inside = true → (Cell.at? cells i).map Cell.text = (Cell.at? cells' i).map Cell.text) :
    neighbour? (W := W) cells label endMark k i inside =
      neighbour? cells' label endMark k i inside := by
  cases inside with
  | false => rfl
  | true =>
    have hshown (cells : List Cell) :
        neighbour? (W := W) cells label endMark k i true =
          ((Cell.at? cells i).map Cell.text).map fun text =>
            valued (label ++ toString k ++ ":") (text.getD "None").toList 0.8 := by
      rw [Option.map_map]
      rfl
    rw [hshown, hshown, h rfl]

section

variable {T : Type} {see : T → Cell} {window position : Nat} {tokens tokens' : List T}

theorem LookAlike.cell_eq (h : LookAlike see window position tokens tokens') :
    Cell.at? (tokens.map see) (position : Int) = Cell.at? (tokens'.map see) position := by
  rw [Cell.at?_natCast, Cell.at?_natCast, List.getElem?_map, List.getElem?_map]
  exact h.own

theorem LookAlike.text_eq (h : LookAlike see window position tokens tokens') {i : Nat}
    (hbehind : position ≤ i + window) (hbefore : i ≤ position + window) :
    (Cell.at? (tokens.map see) (i : Int)).map Cell.text =
      (Cell.at? (tokens'.map see) i).map Cell.text := by
  rw [Cell.at?_natCast, Cell.at?_natCast, List.getElem?_map, List.getElem?_map, Option.map_map,
    Option.map_map]
  exact h.near i hbehind hbefore

theorem context?_congr (h : LookAlike see window position tokens tokens') :
    context? (W := W) (tokens.map see) position window =
      context? (tokens'.map see) position window := by
  have hbefore : before? (W := W) (tokens.map see) position window =
      before? (tokens'.map see) position window := by
    refine mapM_congr fun k hk => neighbour?_congr fun hinside => ?_
    obtain ⟨-, hk⟩ := mem_distances.1 hk
    have hle : 0 ≤ (position : Int) - k := of_decide_eq_true hinside
    have hcast : (position : Int) - k = (position - k : Nat) := by omega
    rw [hcast]
    exact h.text_eq (by omega) (by omega)
  have hbehind : behind? (W := W) (tokens.map see) position window =
      behind? (tokens'.map see) position window := by
    refine mapM_congr fun k hk => ?_
    obtain ⟨-, hk⟩ := mem_distances.1 hk
    have hcast : (position : Int) + k = (position + k : Nat) := by omega
    -- whether there is a neighbour at all is told by the number of tokens
    rw [List.length_map, List.length_map, h.length_eq, hcast]
    exact neighbour?_congr fun _ => h.text_eq (by omega) (by omega)
  rw [context?, context?, hbefore, hbehind]

end

/-! ### The features of a token -/

section

variable {T : Type} {see : T → Cell} {position : Nat} {tokens tokens' : List T}

theorem ofGroup?_congr (h : LookAlike see contextWindow position tokens tokens') (cell : Cell)
    (group : Group) :
    ofGroup? (W := W) (tokens.map see) position cell group =
      ofGroup? (tokens'.map see) position cell group := by
  cases group with
  | context => exact context?_congr h
  | position => simp only [ofGroup?, List.length_map, h.length_eq]
  | _ => rfl

theorem extract?_congr (h : LookAlike see contextWindow position tokens tokens')
    (groups : List String) :
    extract? (W := W) (tokens.map see) position groups =
      extract? (tokens'.map see) position groups := by
  rw [extract?, extract?, h.cell_eq]
  refine Option.bind_congr fun cell _ => ?_
  rw [mapM_congr fun group _ => ofGroup?_congr h cell group]

theorem misplacementAt?_congr (h : LookAlike see contextWindow position tokens tokens')
    (groups : List String) :
    misplacementAt? (tokens.map see) groups position =
      misplacementAt? (tokens'.map see) groups position := by
  have htotal : misplacementOf? (tokens.map see) groups =
      misplacementOf? (tokens'.map see) groups := by
    funext cell
    rw [misplacementOf?, misplacementOf?, List.length_map, List.length_map, h.length_eq]
  rw [misplacementAt?, misplacementAt?, h.cell_eq, htotal]

/-- Two names that look the same near a position give the token there the same features, with the
same weights and in the same order, whatever groups are switched on; or its place cannot be told in
both, for the same reason.  Nothing else that the tokens hold is looked at, and no token that is
farther away than the neighbours are. -/
theorem extract?_near (hposition : position < tokens.length)
    (h : LookAlike see contextWindow position tokens tokens') (groups : List String) :
    (∃ features : List (Feature W),
      extract? (tokens.map see) position groups = some features ∧
        extract? (tokens'.map see) position groups = some features) ∧
      misplacementAt? (tokens.map see) groups position =
        misplacementAt? (tokens'.map see) groups position ∧
      extract (W := W) (tokens.map see) position groups =
        extract (tokens'.map see) position groups := by
  have hinside : position < (tokens.map see).length := by rwa [List.length_map]
  obtain ⟨features, hfeatures⟩ :=
    Option.isSome_iff_exists.1 (extract?_isSome (W := W) (tokens.map see) groups hinside)
  have hsame := (extract?_congr (W := W) h groups).symm
  refine ⟨⟨features, hfeatures, hsame.trans hfeatures⟩, misplacementAt?_congr h groups, ?_⟩
  rw [extract_eq, extract_eq, hsame, misplacementAt?_congr h groups]

/-- The first of four tokens, which moves the others, does not matter to the last one. -/
theorem extract?_near_last :
    let tokens := Token.ofText "Dr. Ann B. Lee"
    let tokens' := Token.ofText "Doctor  Ann, B Lee"
    3 < tokens.length ∧ LookAlike Cell.ofToken contextWindow 3 tokens tokens' ∧
      tokens.map Token.start ≠ tokens'.map Token.start ∧
      extract (W := Float) (tokens.map Cell.ofToken) (3 : Nat) Group.names =
        extract (tokens'.map Cell.ofToken) (3 : Nat) Group.names := by
  intro tokens tokens'
  have hposition : 3 < tokens.length := by decide +kernel
  have hlook : LookAlike Cell.ofToken contextWindow 3 tokens tokens' := by
    refine ⟨by decide +kernel, by decide +kernel, fun i hbehind hbefore => ?_⟩
    have hfirst : 1 ≤ i := by
      rw [contextWindow] at hbehind
      omega
    have hlast : i ≤ 5 := hbefore
    interval_cases i <;> decide +kernel
  obtain ⟨-, -, hsame⟩ := extract?_near (W := Float) hposition hlook Group.names
  exact ⟨hposition, hlook, by decide +kernel, hsame⟩

end

end NameTagger.Feature
