import NameTagger.Proofs.Feature.Place
import NameTagger.Proofs.Feature.Stem

/-!
# The features of a token, group by group

What a group gives does not depend on the other groups that are switched on.  So the features of a
token are put together from what each group gives alone.

* `extractAt`: the features of the token at a place in a name; `extract_fin`: unless the place
  cannot be told;
* `partAt`: what one group gives;
* `extractAt_eq`: the parts of the groups that are switched on, and `bias`;
* `extractAt_singleton`: what is taken with one group switched on;
* `nodup_names_extract`, `eq_of_stem_eq`: no two features of a token share a name, nor a stem;
* `extractAt_assembled`: the features with some groups switched on, by those with one.
-/

namespace NameTagger.Feature

variable {W : Type} [OfScientific W]

/-- The features of the token at a place in a name. -/
def extractAt (cells : List Cell) (i : Fin cells.length) (groups : List String) :
    List (Feature W) :=
  (extract? cells i groups).get (extract?_isSome cells groups i.isLt)

theorem extract?_eq_some (cells : List Cell) (i : Fin cells.length) (groups : List String) :
    extract? (W := W) cells i groups = some (extractAt cells i groups) :=
  (Option.some_get _).symm

/-- A token has these features, unless its place cannot be told. -/
theorem extract_fin (cells : List Cell) (i : Fin cells.length) (groups : List String) :
    extract (W := W) cells (i : Nat) groups =
      match misplacementAt? cells groups (i : Nat) with
      | some misplacement => .error misplacement.fault
      | none => .ok (extractAt cells i groups) := by
  have h := extract_eq (W := W) cells i groups
  rw [extract?_eq_some] at h
  exact h

/-- The names of the features of a token are different. -/
theorem nodup_names_extract {cells : List Cell} {at_ : Int} {groups : List String}
    {features : List (Feature W)} (h : extract cells at_ groups = .ok features) :
    (features.map Feature.name).Nodup := by
  rw [extract_eq] at h
  split at h
  · cases h
  · next found hfound =>
    split at h
    · cases h
    · obtain rfl := Except.ok.inj h
      exact (extract?_fits hfound).nodup_names

/-! ### The parts of the groups -/

/-- The features that one group gives for the token at a place in a name. -/
def partAt (cells : List Cell) (i : Fin cells.length) (group : Group) : List (Feature W) :=
  (ofGroup? cells i cells[i] group).get (ofGroup?_isSome i.isLt group)

/-- A list whose items all become something is turned into the list of these. -/
theorem mapM_eq_some {α β : Type} {f : α → Option β} {g : α → β} {l : List α}
    (h : ∀ a ∈ l, f a = some (g a)) : l.mapM f = some (l.map g) := by
  induction l with
  | nil => rfl
  | cons a l ih =>
    obtain ⟨ha, hl⟩ := List.forall_mem_cons.1 h
    rw [List.mapM_cons, ha, ih hl]
    rfl

/-- The features of a token: the parts of the groups that are switched on, and `bias`. -/
theorem extractAt_eq (cells : List Cell) (i : Fin cells.length) (groups : List String) :
    extractAt (W := W) cells i groups =
      (enabled groups).flatMap (partAt cells i) ++ [plain "bias"] := by
  have hcell : Cell.at? cells (i : Nat) = some cells[i] := by
    rw [Cell.at?_natCast, Fin.getElem_fin, List.getElem?_eq_getElem]
  have hparts : (enabled groups).mapM (ofGroup? (W := W) cells i cells[i]) =
      some ((enabled groups).map (partAt cells i)) :=
    mapM_eq_some fun _ _ => (Option.some_get _).symm
  rw [← Option.some_inj, ← extract?_eq_some, extract?, hcell]
  simp only [bind, Option.bind_some, hparts]
  rfl

theorem enabled_singleton (group : Group) : enabled [group.name] = [group] := by
  cases group <;> decide

theorem extractAt_singleton (cells : List Cell) (i : Fin cells.length) (group : Group) :
    extractAt (W := W) cells i [group.name] = partAt cells i group ++ [plain "bias"] := by
  rw [extractAt_eq, enabled_singleton, List.flatMap_singleton]

theorem nodup_names_extractAt (cells : List Cell) (i : Fin cells.length) (groups : List String) :
    ((extractAt (W := W) cells i groups).map Feature.name).Nodup :=
  nodup_names_of_mem_extractAll (List.mem_ofFn.2 ⟨i, rfl⟩)

/-- Two features of a token do not share a stem. -/
theorem eq_of_stem_eq {cells : List Cell} {i : Fin cells.length} {groups : List String}
    {feature feature' : Feature W} (h : feature ∈ extractAt cells i groups)
    (h' : feature' ∈ extractAt cells i groups) (hstem : stem feature.name = stem feature'.name) :
    feature = feature' := by
  have hfits : Fits stems (extractAt (W := W) cells i groups) :=
    extract?_fits (extract?_eq_some cells i groups)
  exact List.inj_on_of_nodup_map (nodup_stems.sublist hfits.sublist) h h' hstem

/-! ### Choices of groups -/

theorem mem_enabled {groups : List String} {group : Group} :
    group ∈ enabled groups ↔ group.name ∈ groups := by
  have hall : group ∈ Group.all := by cases group <;> decide
  simp [enabled, hall]

/-- Groups that are switched on besides others come between them. -/
theorem enabled_sublist {groups groups' : List String}
    (h : ∀ group : Group, group.name ∈ groups → group.name ∈ groups') :
    (enabled groups).Sublist (enabled groups') := by
  refine List.monotone_filter_right Group.all fun group hgroup => ?_
  rw [List.contains_iff_mem] at hgroup ⊢
  exact h group hgroup

theorem enabled_congr {groups groups' : List String}
    (h : ∀ group : Group, group.name ∈ groups ↔ group.name ∈ groups') :
    enabled groups = enabled groups' := by
  refine List.filter_congr fun group _ => ?_
  rw [Bool.eq_iff_iff, List.contains_iff_mem, List.contains_iff_mem]
  exact h group

/-- With any list of names of groups, a token has the features that it has with each of the groups
in the list alone, in the order of all groups, and `bias` once and last.  So a list counts only by
the groups that it names, and a longer one only brings in features.  It has none if one of the
groups asks for a place that cannot be told. -/
theorem extractAt_assembled (cells : List Cell) (i : Fin cells.length) (groups : List String) :
    let parts : List (Feature W) :=
      (Group.all.filter fun group => group.name ∈ groups).flatMap fun group =>
        (extractAt cells i [group.name]).dropLast
    extractAt cells i groups = parts ++ [⟨"bias", 1.0⟩] ∧
      (∀ feature ∈ parts, feature.name ≠ "bias") ∧
      (∀ groups', (∀ group : Group, group.name ∈ groups ↔ group.name ∈ groups') →
        extractAt (W := W) cells i groups = extractAt cells i groups') ∧
      (∀ groups', (∀ group : Group, group.name ∈ groups → group.name ∈ groups') →
        (extractAt (W := W) cells i groups).Sublist (extractAt cells i groups')) ∧
      (extract cells (i : Nat) groups =
        match misplacementAt? cells groups (i : Nat) with
        | some misplacement => .error misplacement.fault
        | none => .ok (extractAt (W := W) cells i groups)) ∧
      ∀ misplacement, misplacementAt? cells groups (i : Nat) = some misplacement ↔
        ∃ group : Group, group.name ∈ groups ∧
          misplacementAt? cells [group.name] (i : Nat) = some misplacement := by
  intro parts
  have hparts : parts = (enabled groups).flatMap (partAt cells i) := by
    simp only [parts, extractAt_singleton, List.dropLast_concat, enabled,
      List.contains_eq_mem]
  have heq : extractAt cells i groups = parts ++ [⟨"bias", 1.0⟩] := by
    rw [extractAt_eq, hparts]
    rfl
  refine ⟨heq, ?_, fun groups' h => ?_, fun groups' h => ?_, extract_fin cells i groups,
    misplacementAt?_eq_some_iff cells groups (i : Nat)⟩
  · -- the name at the end comes once only
    intro feature hfeature hname
    have hnodup := nodup_names_extractAt (W := W) cells i groups
    rw [heq, List.map_append, List.nodup_append] at hnodup
    exact hnodup.2.2 _ (List.mem_map_of_mem hfeature) _ (List.mem_singleton_self _) hname
  · rw [extractAt_eq, extractAt_eq, enabled_congr h]
  · rw [extractAt_eq, extractAt_eq]
    exact ((enabled_sublist h).flatMap (partAt cells i)).append_right _

/-- Two groups named out of order, one of them twice, beside a name of no group. -/
theorem extractAt_assembled_unordered :
    let cells := (Token.ofText "Ann B. Lee").map Cell.ofToken
    let groups := ["position", "nonsense", "shape", "position"]
    ∃ i : Fin cells.length, (i : Nat) = 1 ∧
      (∀ group : Group, group.name ∈ groups ↔ group.name ∈ ["shape", "position"]) ∧
      extractAt (W := Float) cells i groups = extractAt cells i ["shape", "position"] ∧
      (∀ group : Group, group.name ∈ groups → group.name ∈ Group.names) ∧
      (extractAt (W := Float) cells i groups).Sublist (extractAt cells i Group.names) := by
  intro cells groups
  have hsame : ∀ group : Group, group.name ∈ groups ↔ group.name ∈ ["shape", "position"] := by
    intro group
    cases group <;> decide
  have hall : ∀ group : Group, group.name ∈ groups → group.name ∈ Group.names := by
    intro group
    cases group <;> decide
  let i : Fin cells.length := ⟨1, by decide +kernel⟩
  obtain ⟨-, -, hcongr, hsublist, -⟩ := extractAt_assembled (W := Float) cells i groups
  exact ⟨i, rfl, hsame, hcongr _ hsame, hall, hsublist _ hall⟩

end NameTagger.Feature
