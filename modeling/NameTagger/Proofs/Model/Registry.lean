import Mathlib.Data.List.Sort
import Mathlib.Data.String.Basic
import NameTagger.Model.Registry

/-!
# The slots of a registry

What a registry says about its slots follows from which model stands under which name.

* `Model.IsFor`: a model that stands in its slot, as a model that was opened does;
* `get?_publish`, `get?_unload`: what a change does to the slots;
* `Agrees`, `agrees`: the names, their number, the models and the default model of a registry tell
  the same.
-/

namespace NameTagger

/-- A model stands in the slot of its name, with lexicons that stay as they are. -/
structure Model.IsFor (name : String) (model : Model) : Prop where
  name : model.name = name
  labels : model.labels.frozen = true
  attrs : model.attrs.frozen = true

theorem Source.Opened.isFor_model (opened : Source.Opened) (name : String) (source : Source)
    (version? : Option String) : (opened.model name source version?).IsFor name :=
  ⟨rfl, rfl, rfl⟩

namespace Registry

variable {name other : String} {model : Model} {slots : List (String × Model)} {registry : Registry}

/-! ### Looking up a name -/

theorem lookup_cons_ite (slot : String × Model) (rest : List (String × Model)) (name : String) :
    (slot :: rest).lookup name = if name = slot.1 then some slot.2 else rest.lookup name := by
  rw [List.lookup_cons]
  by_cases hname : name = slot.1
  · rw [if_pos hname, beq_iff_eq.2 hname]
  · rw [if_neg hname, beq_eq_false_iff_ne.2 hname]

theorem isSome_lookup_iff : (slots.lookup name).isSome ↔ name ∈ slots.map (·.1) := by
  rw [List.lookup_isSome_iff, List.mem_map]
  exact exists_congr fun slot => and_congr_right' (beq_iff_eq.trans eq_comm)

/-- A model that is put into its slot is found there, and the other slots stay. -/
theorem lookup_place (model : Model) (slots : List (String × Model)) (name : String) :
    (place model slots).lookup name =
      if name = model.name then some model else slots.lookup name := by
  induction slots with
  | nil => exact lookup_cons_ite (model.name, model) [] name
  | cons slot rest ih =>
    unfold place
    by_cases hslot : slot.1 = model.name
    · rw [if_pos hslot, lookup_cons_ite, lookup_cons_ite, hslot]
      split <;> rfl
    · rw [if_neg hslot, lookup_cons_ite, lookup_cons_ite, ih]
      by_cases hname : name = slot.1
      · rw [if_pos hname, if_pos hname, if_neg (hname.trans_ne hslot)]
      · rw [if_neg hname, if_neg hname]

theorem lookup_filter_ne (slots : List (String × Model)) (name other : String) :
    (slots.filter fun slot => slot.1 ≠ name).lookup other =
      if other = name then none else slots.lookup other := by
  induction slots with
  | nil => exact (ite_self none).symm
  | cons slot rest ih =>
    rw [List.filter_cons, lookup_cons_ite]
    by_cases hslot : slot.1 = name
    · rw [if_neg (by simp [hslot]), ih, hslot]
      split <;> rfl
    · rw [if_pos (by simp [hslot]), lookup_cons_ite, ih]
      by_cases hother : other = slot.1
      · rw [if_pos hother, if_pos hother, if_neg (hother.trans_ne hslot)]
      · rw [if_neg hother, if_neg hother]

/-! ### What a change does -/

theorem get?_publish (registry : Registry) (model : Model) :
    (registry.publish model).get? = Function.update registry.get? model.name (some model) := by
  funext name
  rw [Function.update_apply]
  exact lookup_place model registry.slots name

theorem get?_unload (registry : Registry) (name : String) :
    (registry.unload name).1.get? = Function.update registry.get? name none := by
  funext other
  rw [Function.update_apply]
  exact lookup_filter_ne registry.slots name other

/-! ### The names -/

theorem mem_names_iff : name ∈ registry.names ↔ (registry.get? name).isSome := by
  unfold names get?
  rw [List.mem_mergeSort, isSome_lookup_iff]

/-- What a registry says about its slots is of a piece. -/
structure Agrees (registry : Registry) : Prop where
  increasing : registry.names.Pairwise (· < ·)
  occupied : ∀ name, name ∈ registry.names ↔ ∃ model, registry.get? name = some model
  contains : ∀ name, registry.contains name = true ↔ name ∈ registry.names
  size : registry.size = registry.names.length
  /-- The default model stands in the default slot. -/
  default : ∀ model, registry.default? = .ok (some model) ↔
    ∃ name ∈ registry.names, registry.defaultSlot = .str name ∧ registry.get? name = some model
  /-- Without a default slot, or while it is empty, there is no default model. -/
  noDefault : (registry.defaultSlot = .null ∨
    ∃ name, name ∉ registry.names ∧ registry.defaultSlot = .str name) →
      registry.default? = .ok none

theorem default?_eq_some_iff : registry.default? = .ok (some model) ↔
    ∃ name ∈ registry.names, registry.defaultSlot = .str name ∧
      registry.get? name = some model := by
  unfold default?
  constructor
  · intro h
    split at h
    case h_1 name hslot =>
      have hget : registry.get? name = some model := Except.ok.inj h
      exact ⟨name, mem_names_iff.2 (Option.isSome_of_eq_some hget), hslot, hget⟩
    all_goals cases h
  · rintro ⟨name, -, hslot, hget⟩
    rw [hslot]
    exact congrArg Except.ok hget

theorem default?_eq_none (h : registry.defaultSlot = .null ∨
    ∃ name, name ∉ registry.names ∧ registry.defaultSlot = .str name) :
    registry.default? = .ok none := by
  unfold default?
  obtain hslot | ⟨name, hname, hslot⟩ := h
  · rw [hslot]
  · rw [mem_names_iff, Bool.not_eq_true, Option.isSome_eq_false_iff, Option.isNone_iff_eq_none]
      at hname
    rw [hslot]
    exact congrArg Except.ok hname

/-- A registry agrees with itself, because no name stands in its list twice. -/
theorem agrees (registry : Registry) : registry.Agrees where
  increasing := by
    have sorted : registry.names.Pairwise (· ≤ ·) := List.sortedLE_mergeSort.pairwise
    have nodup : registry.names.Nodup := (List.mergeSort_perm _ _).nodup_iff.2 registry.distinct
    exact sorted.imp₂ (fun _ _ hle hne => lt_of_le_of_ne hle hne) nodup
  occupied _ := mem_names_iff.trans Option.isSome_iff_exists
  contains _ := mem_names_iff.symm
  size := by
    unfold names Registry.size
    rw [List.length_mergeSort, List.length_map]
  default _ := default?_eq_some_iff
  noDefault := default?_eq_none

end Registry

end NameTagger
