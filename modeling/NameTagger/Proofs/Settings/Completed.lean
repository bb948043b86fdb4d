import NameTagger.Proofs.Json.Keys
import NameTagger.Settings.Basic

/-!
# Settings with the defaults filled in

Defaults are filled in key by key: what a key gets, and what is said about it, is a matter of its
default and of the value that is given for it.

* `Fits`: a value that may be given in place of a default;
* `Settled`, `settled_completedValue`: all that can come of one default and the value given for it;
* `Settled.exists_settled`: whatever keys lead to a default, that default is settled;
* `Covers`, `IsCompletion`, `Settled.isCompletion`: the outcome, for all keys there are;
* `warnings`, `snd_completedFields`: the warnings, in the order of the defaults.
-/

namespace NameTagger

/-- A value with fields, each of which has a default of its own. -/
def Json.HasFields : Json → Prop
  | .obj (_ :: _) => True
  | _ => False

namespace Settings

/-- A value may be given in place of a default: it has the same shape, or it is an integer where the
default is a binary number. -/
def Fits (default value : Json) : Prop :=
  value.shape = default.shape ∨ default.shape = .float ∧ value.shape = .int

instance (default value : Json) : Decidable (Fits default value) :=
  inferInstanceAs (Decidable (_ ∨ _))

/-- Whatever may not be given in place of an object is no object. -/
theorem shape_ne_obj {fields : Json.Fields} {value : Json} (h : ¬ Fits (.obj fields) value) :
    value.shape ≠ .obj := fun hshape => h (.inl hshape)

/-- What comes of a default and of the value that is given for it, if any.  Warnings call it by a
name; `above` stands before the keys inside it. -/
inductive Settled (file name above : String) : Json → Option Json → Json × List String → Prop
  | missing (default : Json) :
      Settled file name above default none (default, [missingWarning file name])
  | binary (x : Float) (n : Int) :
      Settled file name above (.float x) (some (.int n)) (.float (Decimal.ofInteger n), [])
  | filled (field : String × Json) (rest : List (String × Json)) (fields : Settings) :
      Settled file name above (.obj (field :: rest)) (some (.obj fields))
        (.obj (completedFields file above (field :: rest) fields).1,
          (completedFields file above (field :: rest) fields).2)
  | kept {default value : Json} (hplain : ¬ default.HasFields)
      (hshape : value.shape = default.shape) :
      Settled file name above default (some value) (value, [])
  | replaced {default value : Json} (h : ¬ Fits default value) :
      Settled file name above default (some value) (default, [shapeWarning file name])

theorem settled_completedValue (file name : String) (default : Json) (given? : Option Json) :
    Settled file name (name ++ ".") default given? (completedValue file name default given?) := by
  fun_cases completedValue file name default given?
  · exact .missing default
  · exact .binary _ _
  next field rest given fields warnings h =>
    have hfilled := @Settled.filled file name (name ++ ".") field rest given
    rwa [h] at hfilled
  next value hbinary hfields hshape =>
    refine .kept (fun hfilled => ?_) hshape
    cases default with
    | obj fields =>
      cases value with
      | obj given =>
        cases fields with
        | nil => exact hfilled
        | cons field rest => exact hfields field rest given rfl rfl
      | _ => cases hshape
    | _ => exact hfilled
  next value hbinary hfields hshape =>
    refine .replaced fun hfits => ?_
    rcases hfits with hsame | ⟨hfloat, hint⟩
    · exact hshape hsame
    · cases default with
      | float x =>
        cases value with
        | int n => exact hbinary x n rfl rfl
        | _ => cases hint
      | _ => cases hfloat

/-! ### One key of several -/

theorem completedFields_cons (file above key : String) (default : Json)
    (rest : List (String × Json)) (settings : Settings) :
    completedFields file above ((key, default) :: rest) settings =
      ((completedFields file above rest (Json.Fields.put key (completedValue file (above ++ key)
          default (Json.Fields.get? settings key)).1 settings)).1,
        (completedValue file (above ++ key) default (Json.Fields.get? settings key)).2 ++
          (completedFields file above rest (Json.Fields.put key (completedValue file (above ++ key)
            default (Json.Fields.get? settings key)).1 settings)).2) := rfl

/-- A key without a default stays as it was. -/
theorem get?_completedFields_of_none (file above : String) {defaults : List (String × Json)}
    {key : String} (h : Json.Fields.get? defaults key = none) (settings : Settings) :
    Json.Fields.get? (completedFields file above defaults settings).1 key =
      Json.Fields.get? settings key := by
  induction defaults generalizing settings with
  | nil => rfl
  | cons field rest ih =>
    obtain ⟨k, default⟩ := field
    rw [Json.Fields.get?_eq_none_iff, List.map_cons, List.mem_cons, not_or] at h
    rw [completedFields_cons, ih (Json.Fields.get?_eq_none_iff.2 h.2),
      Json.Fields.get?_put_of_ne h.1]

/-- A key with a default gets what comes of that default and of the value given for the key. -/
theorem get?_completedFields_of_some (file above : String) {defaults : List (String × Json)}
    (hkeys : (defaults.map Prod.fst).Nodup) {key : String} {default : Json}
    (h : Json.Fields.get? defaults key = some default) (settings : Settings) :
    Json.Fields.get? (completedFields file above defaults settings).1 key =
      some (completedValue file (above ++ key) default (Json.Fields.get? settings key)).1 := by
  induction defaults generalizing settings with
  | nil => cases h
  | cons field rest ih =>
    obtain ⟨k, d⟩ := field
    rw [List.map_cons, List.nodup_cons] at hkeys
    rw [completedFields_cons]
    by_cases hk : key = k
    · subst hk
      rw [Json.Fields.get?_cons_self, Option.some.injEq] at h
      subst h
      rw [get?_completedFields_of_none file above (Json.Fields.get?_eq_none_iff.2 hkeys.1),
        Json.Fields.get?_put_self]
    · rw [Json.Fields.get?_cons_of_ne hk] at h
      rw [ih hkeys.2 h, Json.Fields.get?_put_of_ne hk]

/-- Keys that lead to a default lead to what comes of it and of what they lead to in the given
value. -/
theorem Settled.exists_settled {file name above : String} {default inner : Json}
    {given? : Option Json} {outcome : Json × List String}
    (h : Settled file name above default given? outcome) (hdistinct : default.DistinctKeys)
    {keys : List String} (hinner : default.at? keys = some inner) :
    ∃ name' above' outcome', Settled file name' above' inner (given?.bind (·.at? keys)) outcome' ∧
      outcome.1.at? keys = some outcome'.1 := by
  induction keys generalizing default name above given? outcome with
  | nil =>
    rw [Json.at?_nil, Option.some.injEq] at hinner
    subst hinner
    refine ⟨name, above, outcome, ?_, Json.at?_nil _⟩
    simpa only [Json.at?_nil, Option.bind_fun_some] using h
  | cons key keys ih =>
    obtain ⟨defaults, field, rfl, hfield, hrest⟩ := Json.exists_of_at?_cons hinner
    cases h with
    | missing => exact ⟨name, above, _, .missing inner, hinner⟩
    | filled first rest fields =>
      obtain ⟨name', above', outcome', hsettled, hat⟩ := ih
        (settled_completedValue file (above ++ key) field (Json.Fields.get? fields key))
        (hdistinct.of_mem (Json.Fields.mem_of_get? hfield)) hrest
      refine ⟨name', above', outcome', ?_, ?_⟩
      · rwa [Option.bind_some, Json.at?_obj_cons]
      · rw [Json.at?_obj_cons,
          get?_completedFields_of_some file above hdistinct.nodup hfield, Option.bind_some]
        exact hat
    | kept hplain hshape =>
      cases defaults with
      | nil => cases hfield
      | cons first rest => exact absurd trivial hplain
    | replaced hfits =>
      refine ⟨name, above, (inner, [missingWarning file name]), ?_, hinner⟩
      rw [Option.bind_some, Json.at?_cons_of_shape (shape_ne_obj hfits)]
      exact .missing inner

/-! ### All keys -/

/-- Whatever has a default is there, in the shape of the default. -/
def Covers (default result : Json) : Prop :=
  ∀ {keys : List String} {inner : Json}, default.at? keys = some inner →
    ∃ value, result.at? keys = some value ∧ value.shape = inner.shape

/-- What a given value and its defaults come to.  Defaults and values are named by the keys that
lead to them. -/
structure IsCompletion (default given result : Json) : Prop where
  covers : Covers default result
  /-- Whatever has no default, where its siblings may have one, is as it was given. -/
  foreign {keys : List String} {fields : Json.Fields} {key : String} (keys' : List String)
    (h : default.at? keys = some (.obj fields)) (hkey : fields.get? key = none) :
    result.at? (keys ++ key :: keys') = given.at? (keys ++ key :: keys')
  /-- A value of the right shape counts. -/
  kept {keys : List String} {inner value : Json} (h : default.at? keys = some inner)
    (hplain : ¬ inner.HasFields) (hgiven : given.at? keys = some value)
    (hshape : value.shape = inner.shape) : result.at? keys = some value
  /-- An integer counts as a binary number where that is asked for. -/
  binary {keys : List String} {x : Float} {n : Int} (h : default.at? keys = some (.float x))
    (hgiven : given.at? keys = some (.int n)) :
    result.at? keys = some (.float (Decimal.ofInteger n))
  /-- A default counts where nothing is given. -/
  missing {keys : List String} {inner : Json} (h : default.at? keys = some inner)
    (hgiven : given.at? keys = none) : result.at? keys = some inner
  /-- A default counts where another shape is given. -/
  replaced {keys : List String} {inner value : Json} (h : default.at? keys = some inner)
    (hgiven : given.at? keys = some value) (hfits : ¬ Fits inner value) :
    result.at? keys = some inner

/-- What comes of a default has its shape. -/
theorem Settled.shape_eq {file name above : String} {default : Json} {given? : Option Json}
    {outcome : Json × List String} (h : Settled file name above default given? outcome) :
    outcome.1.shape = default.shape := by
  cases h with
  | kept hplain hshape => exact hshape
  | _ => rfl

/-- Below an object of defaults, a key without a default leads to what it led to before. -/
theorem Settled.at?_of_none {file name above : String} {defaults : Json.Fields}
    {given? : Option Json} {outcome : Json × List String}
    (h : Settled file name above (.obj defaults) given? outcome) {key : String}
    (hkey : defaults.get? key = none) (keys : List String) :
    outcome.1.at? (key :: keys) = given?.bind (·.at? (key :: keys)) := by
  have hdefaults : (Json.obj defaults).at? (key :: keys) = none := by
    rw [Json.at?_obj_cons, hkey, Option.bind_none]
  cases h with
  | missing => exact hdefaults
  | filled first rest fields =>
    rw [Json.at?_obj_cons, get?_completedFields_of_none file _ hkey, Option.bind_some,
      Json.at?_obj_cons]
  | kept => rw [Option.bind_some]
  | replaced hfits =>
    rw [Option.bind_some, Json.at?_cons_of_shape (shape_ne_obj hfits)]
    exact hdefaults

theorem Settled.isCompletion {file name above : String} {default given : Json}
    {outcome : Json × List String} (hroot : Settled file name above default (some given) outcome)
    (hdistinct : default.DistinctKeys) : IsCompletion default given outcome.1 := by
  -- what comes of a default inside and of what is given for it
  have settle {keys : List String} {inner : Json} (h : default.at? keys = some inner) :
      ∃ name' above' outcome', Settled file name' above' inner (given.at? keys) outcome' ∧
        outcome.1.at? keys = some outcome'.1 := hroot.exists_settled hdistinct h
  constructor
  case covers =>
    intro keys inner h
    obtain ⟨name', above', inner', hsettled, hat⟩ := settle h
    exact ⟨inner'.1, hat, hsettled.shape_eq⟩
  case foreign =>
    intro keys fields key keys' h hkey
    obtain ⟨name', above', inner', hsettled, hat⟩ := settle h
    rw [Json.at?_append, hat, Option.bind_some, Json.at?_append]
    exact hsettled.at?_of_none hkey keys'
  case kept =>
    intro keys inner value h hplain hgiven hshape
    obtain ⟨name', above', inner', hsettled, hat⟩ := settle h
    rw [hgiven] at hsettled
    cases hsettled with
    | kept => exact hat
    | binary => cases hshape
    | filled => exact absurd trivial hplain
    | replaced hfits => exact absurd (.inl hshape) hfits
  case binary =>
    intro keys x n h hgiven
    obtain ⟨name', above', inner', hsettled, hat⟩ := settle h
    rw [hgiven] at hsettled
    cases hsettled with
    | binary => exact hat
    | kept hplain hshape => cases hshape
    | replaced hfits => exact absurd (.inr ⟨rfl, rfl⟩) hfits
  case missing =>
    intro keys inner h hgiven
    obtain ⟨name', above', inner', hsettled, hat⟩ := settle h
    rw [hgiven] at hsettled
    cases hsettled
    exact hat
  case replaced =>
    intro keys inner value h hgiven hfits
    obtain ⟨name', above', inner', hsettled, hat⟩ := settle h
    rw [hgiven] at hsettled
    cases hsettled with
    | replaced => exact hat
    | binary => exact absurd (.inr ⟨rfl, rfl⟩) hfits
    | filled => exact absurd (.inl rfl) hfits
    | kept hplain hshape => exact absurd (.inl hshape) hfits

/-! ### Warnings -/

/-- The warning about a default and the value that is given for it, if one is due. -/
def warning? (file name : String) (default : Json) : Option Json → Option String
  | none => some (missingWarning file name)
  | some value => if Fits default value then none else some (shapeWarning file name)

/-- The warning about a default to which keys lead, if one is due.  There is none where no object is
given around it.  `above` stands before the keys. -/
def warningAt? (file above : String) (given : Json) (keys : List String) (default : Json) :
    Option String :=
  match given.at? keys.dropLast with
  | some (.obj _) =>
      warning? file (above ++ String.intercalate "." keys) default (given.at? keys)
  | _ => none

/-- The warnings about given settings, in the order of the defaults. -/
def warnings (file : String) (defaults given : Json) : List String :=
  defaults.inside.filterMap fun entry => warningAt? file "" given entry.1 entry.2

theorem warningAt?_singleton (file above : String) (settings : Settings) (key : String)
    (default : Json) :
    warningAt? file above (.obj settings) [key] default =
      warning? file (above ++ key) default (Json.Fields.get? settings key) := by
  rw [warningAt?, List.dropLast_singleton, Json.at?_nil, String.intercalate_singleton,
    Json.at?_obj_cons]
  simp only [Json.at?_nil, Option.bind_fun_some]

/-- Inside the value of a key, its name and a dot stand before the keys. -/
theorem warningAt?_cons (file above : String) (settings : Settings) (key : String)
    {keys : List String} (h : keys ≠ []) (default : Json) :
    warningAt? file above (.obj settings) (key :: keys) default =
      (Json.Fields.get? settings key).bind fun value =>
        warningAt? file (above ++ key ++ ".") value keys default := by
  obtain ⟨first, rest, rfl⟩ := List.exists_cons_of_ne_nil h
  rw [warningAt?, List.dropLast_cons_cons, Json.at?_obj_cons, Json.at?_obj_cons,
    String.intercalate_cons_cons]
  cases Json.Fields.get? settings key with
  | none => rfl
  | some value =>
    simp only [Option.bind_some, warningAt?, String.append_assoc]

/-- Nothing is said about what would be inside a value that is no object. -/
theorem warningAt?_of_shape {given : Json} (h : given.shape ≠ .obj) (file above : String)
    (keys : List String) (default : Json) : warningAt? file above given keys default = none := by
  rw [warningAt?]
  cases keys.dropLast with
  | nil =>
    cases given with
    | obj fields => exact absurd rfl h
    | _ => rfl
  | cons key rest => rw [Json.at?_cons_of_shape h]

/-- Setting another key changes no warning. -/
theorem warningAt?_put {key other : String} (h : other ≠ key) (file above : String) (value : Json)
    (settings : Settings) (keys : List String) (default : Json) :
    warningAt? file above (.obj (Json.Fields.put key value settings)) (other :: keys) default =
      warningAt? file above (.obj settings) (other :: keys) default := by
  cases keys with
  | nil =>
    rw [warningAt?_singleton, warningAt?_singleton, Json.Fields.get?_put_of_ne h]
  | cons first rest =>
    rw [warningAt?_cons _ _ _ _ (List.cons_ne_nil first rest),
      warningAt?_cons _ _ _ _ (List.cons_ne_nil first rest), Json.Fields.get?_put_of_ne h]

theorem warning?_of_fits {file name : String} {default value : Json} (h : Fits default value) :
    warning? file name default (some value) = none := if_pos h

mutual

/-- The warnings about the value given for a default, and about what is inside it. -/
theorem snd_completedValue (file name : String) (default : Json) (hdistinct : default.DistinctKeys)
    (given? : Option Json) :
    (completedValue file name default given?).2 =
      (warning? file name default given?).toList ++ default.inside.filterMap fun entry =>
        given?.bind fun value => warningAt? file (name ++ ".") value entry.1 entry.2 := by
  have hsettled := settled_completedValue file name default given?
  generalize completedValue file name default given? = result at hsettled ⊢
  cases hsettled with
  | missing =>
    have hinside : (default.inside.filterMap fun entry => (none : Option Json).bind fun value =>
        warningAt? file (name ++ ".") value entry.1 entry.2) = [] :=
      List.filterMap_eq_nil_iff.2 fun _ _ => rfl
    rw [hinside]
    rfl
  | binary x n => rfl
  | filled field rest fields =>
    rw [warning?_of_fits (.inl rfl : Fits (.obj (field :: rest)) (.obj fields))]
    exact snd_completedFields file (name ++ ".") (field :: rest) hdistinct fields
  | @kept _ value hplain hshape =>
    have hinside : default.inside = [] := by
      cases default with
      | obj fields =>
        cases fields with
        | nil => rfl
        | cons field rest => exact absurd trivial hplain
      | _ => rfl
    rw [warning?_of_fits (.inl hshape : Fits default value), hinside]
    rfl
  | @replaced _ value h =>
    have hwarning : warning? file name default (some value) = some (shapeWarning file name) :=
      if_neg h
    have hinside : (default.inside.filterMap fun entry => (some value).bind fun value =>
        warningAt? file (name ++ ".") value entry.1 entry.2) = [] := by
      cases default with
      | obj fields =>
        exact List.filterMap_eq_nil_iff.2 fun _ _ =>
          warningAt?_of_shape (shape_ne_obj h) _ _ _ _
      | _ => rfl
    rw [hwarning, hinside]
    rfl

/-- The warnings about fields are in the order of the defaults. -/
theorem snd_completedFields (file above : String) (defaults : List (String × Json))
    (hdistinct : (Json.obj defaults).DistinctKeys) (settings : Settings) :
    (completedFields file above defaults settings).2 =
      (Json.insideFields defaults).filterMap fun entry =>
        warningAt? file above (.obj settings) entry.1 entry.2 := by
  cases defaults with
  | nil => rfl
  | cons field rest =>
    obtain ⟨key, default⟩ := field
    have hinner : (default.inside.filterMap fun entry =>
        warningAt? file above (.obj settings) (key :: entry.1) entry.2) =
        default.inside.filterMap fun entry => (Json.Fields.get? settings key).bind fun value =>
          warningAt? file (above ++ key ++ ".") value entry.1 entry.2 :=
      List.filterMap_congr fun entry hentry =>
        warningAt?_cons file above settings key (Json.ne_nil_of_mem_inside hentry) entry.2
    -- the later defaults have other keys, so that what is set for this one does not matter to them
    have hrest (value : Json) : ((Json.insideFields rest).filterMap fun entry =>
        warningAt? file above (.obj (Json.Fields.put key value settings)) entry.1 entry.2) =
        (Json.insideFields rest).filterMap fun entry =>
          warningAt? file above (.obj settings) entry.1 entry.2 := by
      refine List.filterMap_congr fun entry hentry => ?_
      obtain ⟨other, keys, hkeys, hmem⟩ := Json.exists_key_of_mem_insideFields hentry
      have hne : other ≠ key := fun heq =>
        (List.nodup_cons.1 hdistinct.nodup).1 (heq ▸ hmem)
      rw [hkeys, warningAt?_put hne]
    rw [completedFields_cons, Json.filterMap_insideFields_cons, warningAt?_singleton, hinner,
      snd_completedFields file above rest hdistinct.tail, hrest,
      snd_completedValue file (above ++ key) default (hdistinct.of_mem List.mem_cons_self)]

end

end Settings

end NameTagger
