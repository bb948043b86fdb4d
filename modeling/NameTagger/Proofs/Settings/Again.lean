import NameTagger.Proofs.Files.Change
import NameTagger.Proofs.Settings.Load

/-!
# Settings that are saved and loaded again

Defaults are filled in once: settings in which they were filled in stay as they are, and can be
written and read again.

* `completedFields_eq_self`: fields in which nothing is missing or misshapen;
* `keeps_completedValue`, `completed_again`: filling in defaults a second time changes nothing;
* `IsSettled`, `isSettled_of_load`: so what a load gives stays as it is when it is written and read;
* `read_of_save`, `load_of_save`: what saving leaves in a file, and what it is loaded as;
* `load_save`: settings that were loaded and saved are loaded again.
-/

namespace NameTagger

theorem Json.Fields.put_of_get? {fields : Json.Fields} {key : String} {value : Json}
    (h : get? fields key = some value) : put key value fields = fields := by
  induction fields with
  | nil => cases h
  | cons field rest ih =>
    obtain ⟨k, v⟩ := field
    by_cases hk : k = key
    · subst hk
      rw [get?_cons_self, Option.some.injEq] at h
      rw [put, if_pos rfl, h]
    · rw [get?_cons_of_ne (Ne.symm hk)] at h
      rw [put, if_neg hk, ih h]

theorem Json.Fields.get?_of_mem {fields : Json.Fields} (hkeys : (fields.map Prod.fst).Nodup)
    {key : String} {value : Json} (h : (key, value) ∈ fields) : get? fields key = some value := by
  induction fields with
  | nil => cases h
  | cons field rest ih =>
    obtain ⟨k, v⟩ := field
    rw [List.map_cons, List.nodup_cons] at hkeys
    rcases List.mem_cons.1 h with heq | hrest
    · cases heq
      exact get?_cons_self key value rest
    · have hne : key ≠ k := fun heq => hkeys.1 (heq ▸ List.mem_map.2 ⟨(key, value), hrest, rfl⟩)
      rw [get?_cons_of_ne hne, ih hkeys.2 hrest]

namespace Settings

/-! ### Filling in a second time -/

/-- A value that filling in a default leaves as it is, and about which nothing is said. -/
def Keeps (default value : Json) : Prop :=
  ∀ file name, completedValue file name default (some value) = (value, [])

/-- Fields in which every default is kept stay as they are. -/
theorem completedFields_eq_self {defaults : List (String × Json)} {settings : Settings}
    (h : ∀ field ∈ defaults, ∃ value, Json.Fields.get? settings field.1 = some value ∧
      Keeps field.2 value) (file above : String) :
    completedFields file above defaults settings = (settings, []) := by
  induction defaults with
  | nil => rfl
  | cons field rest ih =>
    obtain ⟨key, default⟩ := field
    obtain ⟨value, hvalue, hkeeps⟩ := h (key, default) List.mem_cons_self
    rw [completedFields_cons, hvalue, hkeeps, Json.Fields.put_of_get? hvalue,
      ih fun field hfield => h field (List.mem_cons_of_mem _ hfield)]
    rfl

theorem keeps_of_shape {default value : Json} (hplain : ¬ default.HasFields)
    (hshape : value.shape = default.shape) : Keeps default value := by
  intro file name
  have hsettled := settled_completedValue file name default (some value)
  generalize completedValue file name default (some value) = outcome at hsettled ⊢
  cases hsettled with
  | binary => cases hshape
  | filled => exact absurd trivial hplain
  | kept => rfl
  | replaced h => exact absurd (.inl hshape) h

theorem keeps_of_fields {field : String × Json} {rest : List (String × Json)} {fields : Settings}
    (h : ∀ entry ∈ field :: rest, ∃ value, Json.Fields.get? fields entry.1 = some value ∧
      Keeps entry.2 value) : Keeps (.obj (field :: rest)) (.obj fields) := by
  intro file name
  rw [completedValue, completedFields_eq_self h]

theorem not_hasFields_of_shape {default : Json} (h : default.shape ≠ .obj) :
    ¬ default.HasFields := by
  intro hfields
  cases default with
  | obj fields => exact h rfl
  | _ => exact hfields

/-- A default is kept. -/
theorem keeps_self {default : Json} (h : default.DistinctKeys) : Keeps default default := by
  induction h with
  | plain hshape => exact keeps_of_shape (not_hasFields_of_shape hshape) rfl
  | @obj fields hkeys hvalues ih =>
    cases fields with
    | nil => exact keeps_of_shape id rfl
    | cons field rest =>
      exact keeps_of_fields fun entry hentry =>
        ⟨entry.2, Json.Fields.get?_of_mem hkeys hentry, ih entry hentry⟩

/-- What came of a default is kept. -/
theorem keeps_completedValue (file name : String) {default : Json} (h : default.DistinctKeys)
    (given? : Option Json) : Keeps default (completedValue file name default given?).1 := by
  induction h generalizing name given? with
  | @plain default hshape =>
    exact keeps_of_shape (not_hasFields_of_shape hshape)
      (settled_completedValue file name default given?).shape_eq
  | @obj fields hkeys hvalues ih =>
    have hsettled := settled_completedValue file name (.obj fields) given?
    generalize completedValue file name (.obj fields) given? = outcome at hsettled ⊢
    cases hsettled with
    | missing => exact keeps_self (.obj hkeys hvalues)
    | filled field rest given =>
      refine keeps_of_fields fun entry hentry => ?_
      have hget := get?_completedFields_of_some file (name ++ ".") hkeys
        (Json.Fields.get?_of_mem hkeys hentry) given
      exact ⟨_, hget, ih entry hentry _ _⟩
    | kept hplain hshape => exact keeps_of_shape hplain hshape
    | replaced => exact keeps_self (.obj hkeys hvalues)

/-- Nothing is added to settings in which the defaults were filled in, and nothing is said about
them. -/
theorem completed_again (file file' : String) (given : Settings) :
    completed file' (completed file given).1 = ((completed file given).1, []) := by
  refine completedFields_eq_self (fun field hfield => ?_) file' ""
  have hget := get?_completedFields_of_some file "" distinctKeys_defaults.nodup
    (Json.Fields.get?_of_mem distinctKeys_defaults.nodup hfield) given
  exact ⟨_, hget, keeps_completedValue file _ (distinctKeys_defaults.of_mem hfield) _⟩

theorem completed_defaults (file : String) : completed file defaults = (defaults, []) :=
  completedFields_eq_self (fun field hfield => ⟨field.2,
    Json.Fields.get?_of_mem distinctKeys_defaults.nodup hfield,
    keeps_self (distinctKeys_defaults.of_mem hfield)⟩) file ""

/-! ### Files -/

variable {codec : Json.Codec} {env : Environment} {files files' : Files} {path : String}

/-- What a save takes: a directory for the file, twice leave to write it, and a text. -/
theorem save_of_write {emptied : Files} {value : Json} {text : String}
    (hmake : files.makeDirectories (directoryFor path) = (files, .ok ()))
    (hempty : files.write path .empty = .ok emptied)
    (htext : codec.write .indented value = .ok text)
    (hfull : emptied.write path text.toUTF8 = .ok files') :
    save codec files path value = (files', .ok true) := by
  rw [save, hmake]
  simp only [overwrite, hempty, htext, hfull]

/-- A value that was saved is in the file. -/
theorem read_of_save {value : Json} (h : save codec files path value = (files', .ok true)) :
    ∃ text, codec.write .indented value = .ok text ∧ files'.read path = .ok text.toUTF8 := by
  have hsaved (fault : Fault) : saved fault ≠ .ok true := by
    rw [saved]
    split <;> simp
  have hoverwrite : ∃ made, overwrite codec made path value = (files', .ok true) := by
    rw [save] at h
    split at h
    next made fault _ => exact absurd (Prod.mk.inj h).2 (hsaved fault)
    next made _ => exact ⟨made, h⟩
  obtain ⟨made, h⟩ := hoverwrite
  rw [overwrite] at h
  split at h
  next fault _ => exact absurd (Prod.mk.inj h).2 (hsaved fault)
  next emptied _ =>
    split at h
    · cases (Prod.mk.inj h).2
    next text htext =>
      split at h
      next fault _ => exact absurd (Prod.mk.inj h).2 (hsaved fault)
      next written hwrite =>
        rw [← (Prod.mk.inj h).1]
        exact ⟨text, htext, Files.read_write hwrite⟩

/-- What a load gives is the defaults, or settings in which they were filled in. -/
theorem settings_of_load {loaded : Loaded} (hcodec : codec.ReadsProper)
    (h : load codec env files path = (files', .ok loaded)) :
    loaded.settings = defaults ∨
      ∃ given, (Json.obj given).Proper ∧ loaded.settings = (completed env.userFile given).1 := by
  rw [load] at h
  split at h
  · split at h
    · cases (Prod.mk.inj h).2
    next content _ =>
      obtain ⟨-, hcontent⟩ := Prod.mk.inj h
      by_cases hobject : ∃ given, codec.read content = .ok (.obj given)
      · obtain ⟨given, hgiven⟩ := hobject
        have hproper := hcodec content _ hgiven
        rw [ofContent_object env path hgiven hproper] at hcontent
        rw [← Except.ok.inj hcontent]
        exact .inr ⟨given, hproper, rfl⟩
      · obtain ⟨loaded', hother, hsettings, -⟩ := ofContent_other env path (not_exists.1 hobject)
        rw [hother] at hcontent
        rw [← Except.ok.inj hcontent]
        exact .inl hsettings
  · split at h
    · cases (Prod.mk.inj h).2
    · rw [← Except.ok.inj (Prod.mk.inj h).2]
      exact .inl rfl

/-- Settings that can be written and read again, and in which nothing is to be filled in. -/
structure IsSettled (settings : Settings) : Prop where
  proper : (Json.obj settings).Proper
  completed (file : String) : Settings.completed file settings = (settings, [])

theorem isSettled_defaults : IsSettled defaults := ⟨proper_defaults, completed_defaults⟩

theorem isSettled_completed {given : Settings} (h : (Json.obj given).Proper) (file : String) :
    IsSettled (completed file given).1 :=
  ⟨proper_completed h file, fun file' => completed_again file file' given⟩

theorem isSettled_of_load {loaded : Loaded} (hcodec : codec.ReadsProper)
    (h : load codec env files path = (files', .ok loaded)) : IsSettled loaded.settings := by
  rcases settings_of_load hcodec h with hdefaults | ⟨given, hproper, hcompleted⟩
  · rw [hdefaults]
    exact isSettled_defaults
  · rw [hcompleted]
    exact isSettled_completed hproper env.userFile

/-- Settled settings are what a file gives to which they were saved. -/
theorem load_of_save (hcodec : codec.ReadsBack) {settings : Settings} (h : IsSettled settings)
    {before after : Files} {target : String}
    (hsave : save codec before target (.obj settings) = (after, .ok true)) {later : Files}
    (hlater : later.read target = after.read target) :
    load codec env later target = (later, .ok ⟨settings, ""⟩) := by
  obtain ⟨text, htext, hread⟩ := read_of_save hsave
  rw [load_of_read env (hlater.trans hread), ofContent, hcodec _ _ h.proper htext]
  simp only [complete_of_proper h.proper, h.completed]
  rfl

/-- The warning of a load that finds no file. -/
def newFileWarning (path : String) : String :=
  "config.json is not found at " ++ path ++ " . Writing the default configuration .."

/-- Where there is no file, a load writes the defaults and gives them. -/
theorem load_of_not_contains (env : Environment) (habsent : files.contains path = false)
    (hsave : save codec files path (.obj defaults) = (files', .ok true)) :
    load codec env files path = (files', .ok ⟨defaults, newFileWarning path⟩) := by
  rw [load, habsent, hsave]
  rfl

/-- Settings that were loaded and then saved are what every later load gives, with nothing to say
about them.  Where there was no file, the load has saved the defaults itself. -/
theorem load_save (hproper : codec.ReadsProper) (hback : codec.ReadsBack) {loaded : Loaded}
    (hload : load codec env files path = (files', .ok loaded)) :
    (∀ before after target, save codec before target (.obj loaded.settings) = (after, .ok true) →
      ∀ later : Files, later.read target = after.read target →
        load codec env later target = (later, .ok ⟨loaded.settings, ""⟩)) ∧
    (files.contains path = false → ∀ written,
      save codec files path (.obj defaults) = (written, .ok true) →
        files' = written ∧ loaded = ⟨defaults, newFileWarning path⟩ ∧
          ∀ later : Files, later.read path = written.read path →
            load codec env later path = (later, .ok ⟨defaults, ""⟩)) := by
  refine ⟨fun before after target hsave later hlater =>
    load_of_save hback (isSettled_of_load hproper hload) hsave hlater,
    fun habsent written hsave => ?_⟩
  have hfirst := load_of_not_contains env habsent hsave
  rw [hload, Prod.mk.injEq, Except.ok.injEq] at hfirst
  exact ⟨hfirst.1, hfirst.2, fun later hlater =>
    load_of_save hback isSettled_defaults hsave hlater⟩

/-- Settings of which only some are given, and settings that are not there. -/
theorem load_save_partial :
    (Json.Codec.standard.ReadsProper ∧ Json.Codec.standard.ReadsBack) ∧
    (∃ loaded after, load .standard chosenHome partialFiles "rc" = (partialFiles, .ok loaded) ∧
      loaded.settings = (completed chosenHome.userFile partialSettings).1 ∧
      save .standard partialFiles "rc" (.obj loaded.settings) = (after, .ok true) ∧
      load .standard chosenHome after "rc" = (after, .ok ⟨loaded.settings, ""⟩)) ∧
    ∃ written, Files.contains ⟨[], [], []⟩ "rc" = false ∧
      load .standard chosenHome ⟨[], [], []⟩ "rc" =
        (written, .ok ⟨defaults, newFileWarning "rc"⟩) ∧
      load .standard chosenHome written "rc" = (written, .ok ⟨defaults, ""⟩) := by
  have hproper := Json.Codec.readsProper_standard
  have hback := Json.Codec.readsBack_standard
  have hwritten {settings : Settings} (h : Json.refusal? (.obj settings) = none) :
      Json.Codec.standard.write .indented (.obj settings) = .ok (Json.indented (.obj settings)) :=
    Json.Codec.write_standard_eq_ok_iff.2 (Json.write_of_refusal? h .indented)
  refine ⟨⟨hproper, hback⟩, ?_, ?_⟩
  · have hload : load .standard chosenHome partialFiles "rc" = _ :=
      load_of_read chosenHome (Files.read_eq_ok_iff.2 (look_alone _))
    rw [ofContent_object chosenHome "rc" read_partialText
      (hproper _ _ read_partialText)] at hload
    have hsave : save .standard partialFiles "rc"
        (.obj (completed chosenHome.userFile partialSettings).1) = (_, .ok true) :=
      save_of_write (makeDirectories_alone _) (write_alone _ _) (hwritten (by rfl))
        (write_alone _ _)
    exact ⟨_, _, hload, rfl, hsave, (load_save hproper hback hload).1 _ _ _ hsave _ rfl⟩
  · have habsent : Files.contains ⟨[], [], []⟩ "rc" = false := by cbv
    have hnew : Files.write ⟨[], [], []⟩ "rc" .empty = .ok (alone .empty) := by cbv
    have hsave : save .standard ⟨[], [], []⟩ "rc" (.obj defaults) = (_, .ok true) :=
      save_of_write (by cbv) hnew (hwritten (by rfl)) (write_alone _ _)
    have hload := load_of_not_contains chosenHome habsent hsave
    exact ⟨_, habsent, hload, ((load_save hproper hback hload).2 habsent _ hsave).2.2 _ rfl⟩

end Settings

end NameTagger
