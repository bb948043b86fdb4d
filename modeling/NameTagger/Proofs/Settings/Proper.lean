import NameTagger.Proofs.Json.Proper
import NameTagger.Proofs.Settings.Completed

/-!
# Proper settings

Settings that a library for JSON has read can be completed, and what comes of it can be written
again.

* `distinctKeys_defaults`, `proper_defaults`: the defaults;
* `proper_completed`: filling in defaults leaves settings that can be read back;
* `complete_of_proper`: no integer is too large for the binary number that it stands for.
-/

namespace NameTagger.Settings

theorem distinctKeys_defaults : (Json.obj defaults).DistinctKeys := by
  refine .obj (by decide) fun field hfield => ?_
  simp only [defaults, List.mem_cons, List.not_mem_nil, or_false] at hfield
  rcases hfield with rfl | rfl | rfl | rfl | rfl
  case inr.inr.inr.inl =>
    refine .obj (by decide) fun field hfield => ?_
    simp only [List.mem_cons, List.not_mem_nil, or_false] at hfield
    rcases hfield with rfl | rfl | rfl <;> exact .plain Json.Shape.noConfusion
  case inl => exact .obj List.nodup_nil fun _ hfield => absurd hfield List.not_mem_nil
  all_goals exact .plain Json.Shape.noConfusion

theorem proper_completedFields {defaults : List (String × Json)}
    (h : ∀ field ∈ defaults, ∀ (file name : String) (given? : Option Json),
      (∀ value ∈ given?, value.Proper) → (completedValue file name field.2 given?).1.Proper)
    {settings : Settings} (hsettings : (Json.obj settings).Proper) (file above : String) :
    (Json.obj (completedFields file above defaults settings).1).Proper := by
  induction defaults generalizing settings with
  | nil => exact hsettings
  | cons field rest ih =>
    obtain ⟨key, default⟩ := field
    rw [completedFields_cons]
    refine ih (fun field hfield => h field (List.mem_cons_of_mem _ hfield)) (hsettings.put key ?_)
    exact h (key, default) List.mem_cons_self file (above ++ key) _ fun value hvalue =>
      hsettings.of_mem (Json.Fields.mem_of_get? hvalue)

/-- What comes of a proper default and a proper value is proper, if the fields of a default that has
any are filled in properly. -/
theorem Settled.proper {file name above : String} {default : Json} {given? : Option Json}
    {outcome : Json × List String} (h : Settled file name above default given? outcome)
    (hdefault : default.Proper) (hgiven : ∀ value ∈ given?, value.Proper)
    (hfilled : ∀ field rest fields, default = .obj (field :: rest) → given? = some (.obj fields) →
      (Json.obj (completedFields file above (field :: rest) fields).1).Proper) :
    outcome.1.Proper := by
  cases h with
  | missing => exact hdefault
  | binary x n =>
    obtain ⟨hleast, hgreatest⟩ : -2 ^ 63 ≤ n ∧ n < 2 ^ 64 := by
      cases hgiven _ rfl with
      | int h => exact h
    exact .float (Decimal.isFinite_ofInteger (by omega))
  | filled field rest fields => exact hfilled field rest fields rfl rfl
  | kept => exact hgiven _ rfl
  | replaced => exact hdefault

theorem proper_completedValue {default : Json} (h : default.Proper) (file name : String)
    {given? : Option Json} (hgiven : ∀ value ∈ given?, value.Proper) :
    (completedValue file name default given?).1.Proper := by
  have hsettled := settled_completedValue file name default given?
  induction h generalizing file name given? with
  | @obj fields hkeys hvalues ih =>
    refine hsettled.proper (.obj hkeys hvalues) hgiven fun field rest given hfields hvalue => ?_
    cases hfields
    refine proper_completedFields (fun entry hentry file name given? hgiven => ?_)
      (hgiven _ hvalue) file _
    exact ih entry hentry file name hgiven (settled_completedValue file name entry.2 given?)
  | null => exact hsettled.proper .null hgiven fun _ _ _ h => nomatch h
  | bool b => exact hsettled.proper (.bool b) hgiven fun _ _ _ h => nomatch h
  | int h => exact hsettled.proper (.int h) hgiven fun _ _ _ h => nomatch h
  | float h => exact hsettled.proper (.float h) hgiven fun _ _ _ h => nomatch h
  | str s => exact hsettled.proper (.str s) hgiven fun _ _ _ h => nomatch h
  | arr h _ => exact hsettled.proper (.arr h) hgiven fun _ _ _ h => nomatch h

theorem proper_defaults : (Json.obj defaults).Proper := by
  refine .obj (by decide) fun field hfield => ?_
  simp only [defaults, List.mem_cons, List.not_mem_nil, or_false] at hfield
  rcases hfield with rfl | rfl | rfl | rfl | rfl
  · exact Json.proper_emptyObject
  · exact .str _
  · exact .bool _
  · refine .obj (by decide) fun field hfield => ?_
    simp only [List.mem_cons, List.not_mem_nil, or_false] at hfield
    rcases hfield with rfl | rfl | rfl
    · exact .float (by decide +kernel)
    · exact .int (by decide)
    · exact .float (by decide +kernel)
  · refine .arr fun item hitem => ?_
    obtain ⟨name, -, rfl⟩ := List.mem_map.1 hitem
    exact .str name

/-- Proper settings stay proper when the defaults are filled in. -/
theorem proper_completed {given : Settings} (h : (Json.obj given).Proper) (file : String) :
    (Json.obj (completed file given).1).Proper :=
  proper_completedFields (fun _ hfield file name _ hgiven =>
    proper_completedValue (proper_defaults.of_mem hfield) file name hgiven) h file ""

/-! ### No integer is too large -/

theorem exceedsFields_eq_false {defaults : List (String × Json)}
    (h : ∀ field ∈ defaults, ∀ given? : Option Json, (∀ value ∈ given?, value.Proper) →
      exceedsValue field.2 given? = false)
    {settings : Settings} (hsettings : (Json.obj settings).Proper) :
    exceedsFields defaults settings = false := by
  induction defaults with
  | nil => rfl
  | cons field rest ih =>
    obtain ⟨key, default⟩ := field
    have hfirst := h (key, default) List.mem_cons_self (Json.Fields.get? settings key)
      fun value hvalue => hsettings.of_mem (Json.Fields.mem_of_get? hvalue)
    rw [exceedsFields, hfirst, ih fun field hfield => h field (List.mem_cons_of_mem _ hfield)]
    rfl

/-- A proper integer can stand for a binary number. -/
theorem exceedsValue_eq_false {default : Json} (h : default.DistinctKeys) {given? : Option Json}
    (hgiven : ∀ value ∈ given?, value.Proper) : exceedsValue default given? = false := by
  induction h generalizing given? with
  | @plain default hshape =>
    fun_cases exceedsValue default given?
    · cases hgiven _ rfl with
      | int h => exact (Decimal.isFinite_iff.1 (Decimal.isFinite_ofInteger (by omega))).2
    · exact absurd rfl hshape
    · rfl
  | @obj fields hkeys hvalues ih =>
    unfold exceedsValue
    split
    next heq => cases heq
    next field rest given heq =>
      cases heq
      exact exceedsFields_eq_false (fun entry hentry _ hgiven => ih entry hentry hgiven)
        (hgiven _ rfl)
    · rfl

/-- Defaults can be filled in in proper settings. -/
theorem complete_of_proper {given : Settings} (h : (Json.obj given).Proper) (file : String) :
    complete file given = .ok (completed file given) := by
  have hnone : exceedsFields defaults given = false :=
    exceedsFields_eq_false (fun field hfield given? hgiven =>
      exceedsValue_eq_false (distinctKeys_defaults.of_mem hfield) hgiven) h
  rw [complete, hnone]
  rfl

end NameTagger.Settings
