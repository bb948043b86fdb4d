import NameTagger.Proofs.Files.Walk
import NameTagger.Proofs.Model.Load
import NameTagger.Proofs.Model.Registry

/-!
# Slots that fail

The slots that the settings list are loaded one after another.  A slot whose model fails is left
out, but where memory runs out no registry comes of it.

* `Loader`, `Library.loader`: what opens models, and how a library does it with files;
* `Loader.FailsAsTold`, `Library.loader_failsAsTold`: the faults that a registry reckons with;
* `Loader.modelFor`, `Loader.attempts`: what comes of a slot, and of each slot in turn;
* `Loader.registry`, `ofSettings_eq_registry`: the registry that is made with a loader;
* `IsSpared`, `Stops`, `Loader.FailsAsTold.isSpared_iff`: an attempt that leaves the other slots
  alone, and one that does not;
* `Registry.settle`, `Registry.get?_settle`: the models that were opened stand in their slots;
* `Loader.Walked`, `Loader.perform_loadSlots`: how far the slots are gone through;
* `Loader.Serves`, `ofSettings_outcome`: what comes of the settings.
-/

namespace NameTagger

/-- What opens the model that a source leads to. -/
abbrev Loader (ω : Type) := Source → Action ω Source.Opened

/-- A library opens models from files. -/
def Library.loader {σ τ : Type} (library : Library σ τ) (files : Files) : Loader (World σ τ) :=
  fun source => source.load library files

/-- There is no model, or it cannot be loaded, or memory runs out; nothing else happens. -/
def Loader.FailsAsTold {ω : Type} (loader : Loader ω) : Prop :=
  ∀ source world fault, ((loader source).perform world).1 = .error fault →
    fault.kind = .modelNotFound ∨ fault.kind = .outOfMemory ∨ fault.kind = .modelLoadFailed

theorem Library.loader_failsAsTold {σ τ : Type} {library : Library σ τ}
    (h : library.OpensExpectedly) (files : Files) : (library.loader files).FailsAsTold := by
  intro source world fault hfault
  obtain ⟨visits, result, world', hperform, -, hloading⟩ :=
    Source.exists_loading h files.storage_readsExpectedly source world
  rw [Library.loader, Source.load_eq_loadFrom, hperform] at hfault
  exact hloading.outcome.kind fault hfault

namespace Loader

variable {ω : Type} (loader : Loader ω) (env : Environment)

/-! ### Attempts -/

/-- Open the model for a slot, which is given with its path name. -/
def modelFor (slot : String × String) : Action ω Model := do
  let path ← Action.ofExcept (env.expand slot.2)
  let opened ← loader (.path path)
  return opened.model slot.1 (.path path) none

/-- What comes of each slot, whatever came of those before it. -/
def attempts : List (String × String) → ω → List (String × Except Fault Model) × ω
  | [], world => ([], world)
  | slot :: rest, world =>
      let (outcome, world) := (loader.modelFor env slot).perform world
      let (outcomes, world) := attempts rest world
      ((slot.1, outcome) :: outcomes, world)

/-- Load the model for a slot, where a failure of the model itself only leaves the slot empty. -/
def loadSlot (registry : Registry) (slot : String × String) : Action ω Registry :=
  tryCatch (do
    let model ← loader.modelFor env slot
    return registry.publish model) fun fault =>
      if fault.kind.isA .model then pure registry else throw fault

/-- Load the models for slots, one after another. -/
def loadSlots (registry : Registry) : List (String × Json) → Action ω Registry
  | [] => return registry
  | (name, .str path) :: rest => do
      let registry ← loader.loadSlot env registry (name, path)
      loadSlots registry rest
  | _ :: _ => throw ⟨.wrongType, "a path name must be a text"⟩

/-- The registry that the settings describe. -/
def registry (settings : Settings) : Action ω Registry := do
  let models ← Action.ofExcept (Registry.listed settings)
  loader.loadSlots env
    (.empty ((Json.Fields.get? settings "default_model").getD .null)) models

end Loader

/-- A library makes the registry that its loader makes. -/
theorem ofSettings_eq_registry {σ τ : Type} (library : Library σ τ) (env : Environment)
    (files : Files) (settings : Settings) :
    Registry.ofSettings library env files settings =
      (library.loader files).registry env settings := by
  have hskip (registry : Registry) (name path : String) :
      registry.loadOrSkip library env files name path =
        (library.loader files).loadSlot env registry (name, path) := by
    unfold Registry.loadOrSkip Registry.load Source.loadModel Loader.loadSlot Loader.modelFor
    simp only [bind_assoc, pure_bind]
    rfl
  have hlisted (models : List (String × Json)) (registry : Registry) :
      registry.loadListed library env files models =
        (library.loader files).loadSlots env registry models := by
    induction models generalizing registry with
    | nil => rfl
    | cons slot rest ih =>
      obtain ⟨name, value⟩ := slot
      unfold Registry.loadListed Loader.loadSlots
      cases value with
      | str path =>
        simp only [hskip, ih]
      | _ => rfl
  unfold Registry.ofSettings Loader.registry
  simp only [hlisted]

namespace Loader

variable {ω : Type} {loader : Loader ω} {env : Environment}

/-- Every attempt is one to open the model of a slot from its own path name. -/
theorem exists_of_mem_attempts {slots : List (String × String)} {world : ω}
    {name : String} {outcome : Except Fault Model}
    (h : (name, outcome) ∈ (loader.attempts env slots world).1) :
    ∃ path world, (name, path) ∈ slots ∧
      ((loader.modelFor env (name, path)).perform world).1 = outcome := by
  induction slots generalizing world with
  | nil => cases h
  | cons slot rest ih =>
    rcases List.mem_cons.1 h with heq | hrest
    · obtain ⟨rfl, rfl⟩ := Prod.mk.inj heq
      exact ⟨slot.2, world, List.mem_cons_self, rfl⟩
    · obtain ⟨path, before, hmem, hperform⟩ := ih hrest
      exact ⟨path, before, List.mem_cons_of_mem _ hmem, hperform⟩

theorem map_fst_attempts (slots : List (String × String)) (world : ω) :
    (loader.attempts env slots world).1.map (·.1) = slots.map (·.1) := by
  induction slots generalizing world with
  | nil => rfl
  | cons slot rest ih => exact congrArg (List.cons slot.1) (ih _)

theorem attempts_append (before after : List (String × String)) (world : ω) :
    loader.attempts env (before ++ after) world =
      let first := loader.attempts env before world
      let second := loader.attempts env after first.2
      (first.1 ++ second.1, second.2) := by
  induction before generalizing world with
  | nil => rfl
  | cons slot rest ih =>
    simp only [List.cons_append, attempts, ih]

theorem perform_modelFor_of_error {slot : String × String} {fault : Fault}
    (h : env.expand slot.2 = .error fault) (world : ω) :
    (loader.modelFor env slot).perform world = (.error fault, world) := by
  unfold modelFor
  rw [h]
  rfl

theorem perform_modelFor {slot : String × String} {path : String}
    (h : env.expand slot.2 = .ok path) (world : ω) :
    (loader.modelFor env slot).perform world =
      (((loader (.path path)).perform world).1.map fun opened =>
          opened.model slot.1 (.path path) none,
        ((loader (.path path)).perform world).2) := by
  unfold modelFor
  rw [h, Action.perform_bind]
  show (loader (.path path) >>= fun opened =>
    pure (opened.model slot.1 (.path path) none)).perform world = _
  rw [Action.perform_bind]
  obtain ⟨outcome, world'⟩ := (loader (.path path)).perform world
  cases outcome <;> rfl

/-- A model that was opened for a slot comes from the path name of the slot. -/
theorem exists_of_modelFor_eq_ok {slot : String × String} {world : ω} {model : Model}
    (h : ((loader.modelFor env slot).perform world).1 = .ok model) :
    ∃ path opened, env.expand slot.2 = .ok path ∧
      ((loader (.path path)).perform world).1 = .ok opened ∧
      model = opened.model slot.1 (.path path) none := by
  cases hexpand : env.expand slot.2 with
  | error fault =>
    rw [perform_modelFor_of_error hexpand] at h
    cases h
  | ok path =>
    rw [perform_modelFor hexpand] at h
    cases hload : ((loader (.path path)).perform world).1 with
    | error fault =>
      rw [hload] at h
      cases h
    | ok opened =>
      rw [hload] at h
      exact ⟨path, opened, rfl, hload, (Except.ok.inj h).symm⟩

/-- Opening the model for a slot fails as the loader does, unless its path name cannot be read. -/
theorem FailsAsTold.modelFor (h : loader.FailsAsTold) {slot : String × String} {world : ω}
    {fault : Fault} (hfault : ((loader.modelFor env slot).perform world).1 = .error fault) :
    fault.kind = .modelNotFound ∨ fault.kind = .outOfMemory ∨ fault.kind = .modelLoadFailed ∨
      fault.kind = .value ∧ env.expand slot.2 = .error fault := by
  cases hexpand : env.expand slot.2 with
  | error raised =>
    rw [perform_modelFor_of_error hexpand] at hfault
    obtain rfl := Except.error.inj hfault
    exact .inr (.inr (.inr ⟨(Environment.expand_eq_error hexpand).1, rfl⟩))
  | ok path =>
    rw [perform_modelFor hexpand] at hfault
    cases hload : ((loader (.path path)).perform world).1 with
    | error raised =>
      rw [hload] at hfault
      obtain rfl := Except.error.inj hfault
      rcases h (.path path) world raised hload with hkind | hkind | hkind
      · exact .inl hkind
      · exact .inr (.inl hkind)
      · exact .inr (.inr (.inl hkind))
    | ok opened =>
      rw [hload] at hfault
      cases hfault

end Loader

/-! ### What becomes of the attempts -/

/-- An attempt that leaves the other slots alone: it fails, if at all, by the model itself. -/
def IsSpared (outcome : Except Fault Model) : Prop :=
  ∀ fault, outcome = .error fault → fault.kind.isA .model = true

/-- An attempt that keeps the other slots from being served: memory runs out, or the path name
cannot be read. -/
def Stops (outcome : Except Fault Model) : Prop :=
  FailsAs .outOfMemory outcome ∨ FailsAs .value outcome

/-- Of the faults that may come of a slot, only these are not ones of the model. -/
theorem Loader.FailsAsTold.isSpared_iff {ω : Type} {loader : Loader ω} (h : loader.FailsAsTold)
    {env : Environment} {slots : List (String × String)} {world : ω}
    {attempt : String × Except Fault Model} (hmem : attempt ∈ (loader.attempts env slots world).1) :
    IsSpared attempt.2 ↔ ¬Stops attempt.2 := by
  obtain ⟨name, outcome⟩ := attempt
  obtain ⟨path, before, -, houtcome⟩ := Loader.exists_of_mem_attempts hmem
  cases outcome with
  | ok model => exact iff_of_true nofun (not_or.2 ⟨not_failsAs_ok, not_failsAs_ok⟩)
  | error fault =>
    have hspared : IsSpared (.error fault) ↔ fault.kind.isA .model = true :=
      ⟨fun h => h fault rfl, fun h other hother => Except.error.inj hother ▸ h⟩
    rw [hspared, Stops, failsAs_error_iff, failsAs_error_iff]
    rcases h.modelFor houtcome with hkind | hkind | hkind | ⟨hkind, -⟩ <;> rw [hkind] <;> decide

namespace Registry

/-- Put a model into its slot, if one was opened. -/
def settle (registry : Registry) (attempt : String × Except Fault Model) : Registry :=
  match attempt.2 with
  | .ok model => registry.publish model
  | .error _ => registry

theorem defaultSlot_settle (registry : Registry) (attempts : List (String × Except Fault Model)) :
    (attempts.foldl settle registry).defaultSlot = registry.defaultSlot := by
  induction attempts generalizing registry with
  | nil => rfl
  | cons attempt rest ih =>
    obtain ⟨name, outcome⟩ := attempt
    rw [List.foldl_cons, ih]
    cases outcome <;> rfl

/-- The models that were opened for different slots stand in their slots.  In the others everything
is as before. -/
theorem get?_settle {attempts : List (String × Except Fault Model)}
    (hdistinct : (attempts.map (·.1)).Nodup)
    (hname : ∀ name model, (name, .ok model) ∈ attempts → model.name = name)
    (registry : Registry) (name : String) (model : Model) :
    (attempts.foldl settle registry).get? name = some model ↔
      (name, .ok model) ∈ attempts ∨
        registry.get? name = some model ∧ ∀ other, (name, .ok other) ∉ attempts := by
  induction attempts generalizing registry with
  | nil => simp
  | cons attempt rest ih =>
    obtain ⟨slot, outcome⟩ := attempt
    obtain ⟨hslot, hrest⟩ := List.nodup_cons.1 hdistinct
    have hnames (other : String) (opened : Model) (hmem : (other, .ok opened) ∈ rest) :
        opened.name = other := hname other opened (List.mem_cons_of_mem _ hmem)
    rw [List.foldl_cons, ih hrest hnames]
    cases outcome with
    | error fault => simp [settle]
    | ok opened =>
      have hopened : opened.name = slot := hname slot opened List.mem_cons_self
      have habsent (other : Model) : (slot, .ok other) ∉ rest :=
        fun hmem => hslot (List.mem_map_of_mem (f := (·.1)) hmem)
      simp only [settle, get?_publish, hopened, Function.update_apply, List.mem_cons, Prod.mk.injEq,
        Except.ok.injEq]
      by_cases heq : name = slot
      · subst heq
        simp [habsent, eq_comm]
      · simp [heq]

end Registry

namespace Loader

variable {ω : Type} {loader : Loader ω} {env : Environment}

/-- A slot that the settings list. -/
def listing (slot : String × String) : String × Json := (slot.1, .str slot.2)

theorem perform_loadSlot (registry : Registry) (slot : String × String) (world : ω) :
    (loader.loadSlot env registry slot).perform world =
      match (loader.modelFor env slot).perform world with
      | (.ok model, world) => (.ok (registry.publish model), world)
      | (.error fault, world) =>
          if fault.kind.isA .model then (.ok registry, world) else (.error fault, world) := by
  rw [loadSlot, Action.perform_tryCatch, Action.perform_bind]
  obtain ⟨outcome, world⟩ := (loader.modelFor env slot).perform world
  cases outcome with
  | ok model => rfl
  | error fault =>
    dsimp only
    split <;> rfl

/-- All slots were gone through; or those before one whose model failed in another way, and that is
what came of them. -/
def Walked (loader : Loader ω) (env : Environment) (registry : Registry)
    (slots : List (String × String)) (world : ω) (result : Except Fault Registry × ω) : Prop :=
  ((∀ attempt ∈ (loader.attempts env slots world).1, IsSpared attempt.2) ∧
    result = (.ok ((loader.attempts env slots world).1.foldl Registry.settle registry),
      (loader.attempts env slots world).2)) ∨
  ∃ before slot after fault world', slots = before ++ slot :: after ∧
    (∀ attempt ∈ (loader.attempts env before world).1, IsSpared attempt.2) ∧
    (loader.modelFor env slot).perform (loader.attempts env before world).2 =
      (.error fault, world') ∧
    fault.kind.isA .model = false ∧ result = (.error fault, world')

theorem Walked.cons {registry : Registry} {slot : String × String} {rest : List (String × String)}
    {world next : ω} {outcome : Except Fault Model} {result : Except Fault Registry × ω}
    (hslot : (loader.modelFor env slot).perform world = (outcome, next))
    (hspared : IsSpared outcome)
    (h : Walked loader env (registry.settle (slot.1, outcome)) rest next result) :
    Walked loader env registry (slot :: rest) world result := by
  have hattempts (slots : List (String × String)) :
      loader.attempts env (slot :: slots) world =
        ((slot.1, outcome) :: (loader.attempts env slots next).1,
          (loader.attempts env slots next).2) := by
    rw [attempts, hslot]
  rcases h with ⟨hrest, hresult⟩ | ⟨before, failing, after, fault, world', rfl, hbefore, hfailing,
    hkind, hresult⟩
  · left
    rw [hattempts]
    exact ⟨List.forall_mem_cons.2 ⟨hspared, hrest⟩, hresult⟩
  · refine .inr ⟨slot :: before, failing, after, fault, world', rfl, ?_, ?_, hkind, hresult⟩
    · rw [hattempts]
      exact List.forall_mem_cons.2 ⟨hspared, hbefore⟩
    · rw [hattempts]
      exact hfailing

theorem perform_loadSlots (registry : Registry) (slots : List (String × String)) (world : ω) :
    Walked loader env registry slots world
      ((loader.loadSlots env registry (slots.map listing)).perform world) := by
  induction slots generalizing registry world with
  | nil => exact .inl ⟨List.forall_mem_nil _, rfl⟩
  | cons slot rest ih =>
    have hstep : loader.loadSlots env registry ((slot :: rest).map listing) =
        loader.loadSlot env registry slot >>= fun registry =>
          loader.loadSlots env registry (rest.map listing) := rfl
    rw [hstep, Action.perform_bind, perform_loadSlot]
    rcases hslot : (loader.modelFor env slot).perform world with ⟨outcome, next⟩
    cases outcome with
    | ok model => exact .cons hslot nofun (ih (registry.publish model) next)
    | error fault =>
      dsimp only
      cases hkind : fault.kind.isA .model with
      | true =>
        rw [if_pos rfl]
        refine .cons hslot ?_ (ih registry next)
        rintro _ ⟨⟩
        exact hkind
      | false =>
        rw [if_neg Bool.false_ne_true]
        exact .inr ⟨[], slot, rest, fault, next, rfl, List.forall_mem_nil _, hslot, hkind, rfl⟩

/-! ### The registry -/

/-- A model that was opened for a slot comes from the path name of that slot. -/
theorem exists_opened_of_mem_attempts {slots : List (String × String)} {world : ω} {name : String}
    {model : Model} (h : (name, .ok model) ∈ (loader.attempts env slots world).1) :
    ∃ listed path opened world, (name, listed) ∈ slots ∧ env.expand listed = .ok path ∧
      ((loader (.path path)).perform world).1 = .ok opened ∧
        model = opened.model name (.path path) none := by
  obtain ⟨listed, before, hslot, hmodel⟩ := exists_of_mem_attempts h
  obtain ⟨path, opened, hexpand, hopened, rfl⟩ := exists_of_modelFor_eq_ok hmodel
  exact ⟨listed, path, opened, before, hslot, hexpand, hopened, rfl⟩

/-- The models that were opened, and no others, stand in a registry that was empty before. -/
theorem get?_settle_attempts (loader : Loader ω) (env : Environment)
    {slots : List (String × String)} (hdistinct : (slots.map (·.1)).Nodup) (world : ω)
    (defaultSlot : Json) (name : String) (model : Model) :
    ((loader.attempts env slots world).1.foldl Registry.settle (.empty defaultSlot)).get? name =
        some model ↔
      (name, .ok model) ∈ (loader.attempts env slots world).1 := by
  have hname (name : String) (model : Model)
      (hmem : (name, .ok model) ∈ (loader.attempts env slots world).1) : model.name = name := by
    obtain ⟨listed, path, opened, before, -, -, -, rfl⟩ := exists_opened_of_mem_attempts hmem
    rfl
  rw [← map_fst_attempts slots world] at hdistinct
  rw [Registry.get?_settle hdistinct hname]
  exact or_iff_left fun h => nomatch h.1

/-- A registry holds the models that were opened for the slots, each from its own path name, and the
default model is that of the default slot. -/
structure Serves (loader : Loader ω) (env : Environment) (settings : Settings)
    (slots : List (String × String)) (attempts : List (String × Except Fault Model))
    (registry : Registry) : Prop where
  get?_iff : ∀ name model, registry.get? name = some model ↔ (name, .ok model) ∈ attempts
  mem_names_iff : ∀ name, name ∈ registry.names ↔ ∃ model, (name, .ok model) ∈ attempts
  opened : ∀ name model, registry.get? name = some model → ∃ listed path opened world,
    (name, listed) ∈ slots ∧ env.expand listed = .ok path ∧
      ((loader (.path path)).perform world).1 = .ok opened ∧
      model = opened.model name (.path path) none
  default?_iff : ∀ model, registry.default? = .ok (some model) ↔ ∃ name,
    Json.Fields.get? settings "default_model" = some (.str name) ∧ (name, .ok model) ∈ attempts
  /-- Without a default slot, or while it is empty, there is no default model. -/
  noDefault : (Json.Fields.get? settings "default_model" = none ∨
      Json.Fields.get? settings "default_model" = some .null ∨
      ∃ name, Json.Fields.get? settings "default_model" = some (.str name) ∧
        ∀ model, (name, .ok model) ∉ attempts) →
    registry.default? = .ok none

theorem serves_settle {settings : Settings} {slots : List (String × String)}
    (hdistinct : (slots.map (·.1)).Nodup) (world : ω) :
    Serves loader env settings slots (loader.attempts env slots world).1
      ((loader.attempts env slots world).1.foldl Registry.settle
        (.empty ((Json.Fields.get? settings "default_model").getD .null))) := by
  have hget := loader.get?_settle_attempts env hdistinct world
    ((Json.Fields.get? settings "default_model").getD .null)
  have hdefault := Registry.defaultSlot_settle
    (.empty ((Json.Fields.get? settings "default_model").getD .null))
    (loader.attempts env slots world).1
  generalize (loader.attempts env slots world).1.foldl Registry.settle
    (.empty ((Json.Fields.get? settings "default_model").getD .null)) = registry at *
  have hnames (name : String) : name ∈ registry.names ↔
      ∃ model, (name, .ok model) ∈ (loader.attempts env slots world).1 := by
    rw [registry.agrees.occupied name]
    exact exists_congr (hget name)
  have hslot (name : String) : registry.defaultSlot = .str name ↔
      Json.Fields.get? settings "default_model" = some (.str name) := by
    rw [hdefault, Registry.empty]
    cases Json.Fields.get? settings "default_model" <;> simp
  refine ⟨hget, hnames, fun name model h => exists_opened_of_mem_attempts ((hget name model).1 h),
    fun model => ?_, fun h => registry.agrees.noDefault ?_⟩
  · rw [registry.agrees.default model]
    constructor
    · rintro ⟨name, -, hname, hmodel⟩
      exact ⟨name, (hslot name).1 hname, (hget name model).1 hmodel⟩
    · rintro ⟨name, hname, hmem⟩
      exact ⟨name, (hnames name).2 ⟨model, hmem⟩, (hslot name).2 hname, (hget name model).2 hmem⟩
  · rcases h with hnone | hnull | ⟨name, hname, hmem⟩
    · exact .inl (by rw [hdefault, hnone]; rfl)
    · exact .inl (by rw [hdefault, hnull]; rfl)
    · refine .inr ⟨name, fun hin => ?_, (hslot name).2 hname⟩
      obtain ⟨model, hmodel⟩ := (hnames name).1 hin
      exact hmem model hmodel

end Loader

open Loader (Serves)

/-- If no slot lets memory run out and the path names can be read, the registry that the settings
describe serves every slot whose model can be loaded, whatever becomes of the others.  Otherwise
there is no registry: the first such fault comes out, and the slots behind it are not tried.  Only a
path name with a null character cannot be read. -/
theorem ofSettings_outcome {ω : Type} {loader : Loader ω} (hloader : loader.FailsAsTold)
    (env : Environment) {settings : Settings} {slots : List (String × String)}
    (hlisted : Registry.listed settings = .ok (slots.map fun slot => (slot.1, .str slot.2)))
    (hdistinct : (slots.map (·.1)).Nodup) (world : ω) :
    ((∀ attempt ∈ (loader.attempts env slots world).1, ¬Stops attempt.2) →
      ∃ registry, (loader.registry env settings).perform world =
          (.ok registry, (loader.attempts env slots world).2) ∧
        Serves loader env settings slots (loader.attempts env slots world).1 registry) ∧
    ((∃ attempt ∈ (loader.attempts env slots world).1, Stops attempt.2) →
      ∃ before slot after fault world', slots = before ++ slot :: after ∧
        (∀ attempt ∈ (loader.attempts env before world).1, ¬Stops attempt.2) ∧
        (loader.modelFor env slot).perform (loader.attempts env before world).2 =
          (.error fault, world') ∧
        (fault.kind = .outOfMemory ∨ fault.kind = .value ∧ env.expand slot.2 = .error fault) ∧
        (loader.registry env settings).perform world = (.error fault, world')) ∧
    (∀ path fault, env.expand path = .error fault → '\x00' ∈ path.toList) ∧
    ∀ {σ τ : Type} (library : Library σ τ) (files : Files),
      Registry.ofSettings library env files settings =
        (library.loader files).registry env settings := by
  have hrun : (loader.registry env settings).perform world =
      (loader.loadSlots env (.empty ((Json.Fields.get? settings "default_model").getD .null))
        (slots.map Loader.listing)).perform world := by
    unfold Loader.registry
    rw [hlisted]
    rfl
  have hspared {slots' : List (String × String)} :
      (∀ attempt ∈ (loader.attempts env slots' world).1, IsSpared attempt.2) ↔
        ∀ attempt ∈ (loader.attempts env slots' world).1, ¬Stops attempt.2 :=
    forall₂_congr fun _ => hloader.isSpared_iff
  have hwalked : loader.Walked env (.empty ((Json.Fields.get? settings "default_model").getD .null))
      slots world ((loader.registry env settings).perform world) := by
    rw [hrun]
    exact Loader.perform_loadSlots _ slots world
  refine ⟨fun hmemory => ?_, ?_, fun path fault h => (Environment.expand_eq_error h).2,
    fun library files => ofSettings_eq_registry ..⟩
  · rcases hwalked with ⟨-, hresult⟩ | ⟨before, slot, after, fault, world', rfl, -, hslot, hkind, -⟩
    · exact ⟨_, hresult, Loader.serves_settle hdistinct world⟩
    · -- the slot that fails is one of the attempts
      have hmem : (slot.1, .error fault) ∈
          (loader.attempts env (before ++ slot :: after) world).1 := by
        rw [Loader.attempts_append]
        refine List.mem_append_right _ ?_
        rw [Loader.attempts, hslot]
        exact List.mem_cons_self
      rw [hspared.2 hmemory _ hmem fault rfl] at hkind
      cases hkind
  · rintro ⟨attempt, hmem, hmemory⟩
    rcases hwalked with ⟨hall, -⟩ | ⟨before, slot, after, fault, world', hslots, hbefore, hslot,
      hkind, hresult⟩
    · exact absurd hmemory (hspared.1 hall attempt hmem)
    · refine ⟨before, slot, after, fault, world', hslots, hspared.1 hbefore, hslot, ?_, hresult⟩
      rcases hloader.modelFor (congrArg Prod.fst hslot) with hfault | hfault | hfault | hfault
      · rw [hfault] at hkind
        exact absurd hkind (by decide)
      · exact .inl hfault
      · rw [hfault] at hkind
        exact absurd hkind (by decide)
      · exact .inr hfault

/-! ### A library that is short of memory -/

/-- A library that has no memory for a model of more than one byte. -/
def Library.cramped : Library Unit Unit :=
  { Library.idle with
    openModel := fun _ content =>
      if content.size ≤ 1 then pure () else throw ⟨.memory, "out of memory"⟩ }

theorem Library.cramped_opensExpectedly : cramped.OpensExpectedly where
  openModel tagger content s fault h := by
    unfold cramped at h
    dsimp only at h
    split at h
    · cases h
    · obtain rfl := Except.error.inj h
      exact Eq.refl true
  labels _ _ _ h := nomatch h

/-- A small model and a large one. -/
def crampedFiles : Files :=
  ((Files.empty []).put ["small"] (.file ⟨#[1]⟩)).put ["large"] (.file ⟨#[1, 2]⟩)

theorem Source.content_of_read {files : Files} {name : String} {content : ByteArray}
    (h : files.read name = .ok content) (hne : content.isEmpty = false) :
    (Source.path name).content files = .ok content := by
  have hread : (Source.path name).read files = .ok content := by
    rw [Source.read, Files.contains_of_read h, if_pos rfl, h]
  rw [Source.content, hread]
  exact if_neg (Bool.eq_false_iff.1 hne)

theorem Source.content_of_missing {files : Files} {name : String} {refusal : Files.Refusal}
    (hfind : files.find name = .error refusal) :
    (Source.path name).content files =
      .error ⟨.modelNotFound, "Model file not found: " ++ name⟩ := by
  rw [Source.content, Source.read, Files.contains, hfind]
  rfl

/-- The small model is opened. -/
theorem load_small (world : World Unit Unit) :
    ∃ opened world', ((Library.cramped.loader crampedFiles) (.path "small")).perform world =
      (.ok opened, world') ∧ opened.handle.content = ⟨#[1]⟩ := by
  have hcontent : (Source.path "small").content crampedFiles = .ok ⟨#[1]⟩ :=
    Source.content_of_read
      (Files.read_of_notMem rfl (by decide) (by decide) (by decide) (by decide) rfl rfl) rfl
  unfold Library.loader Source.load
  rw [hcontent]
  exact ⟨_, _, rfl, rfl⟩

/-- The large model makes memory run out. -/
theorem load_large (world : World Unit Unit) :
    ((Library.cramped.loader crampedFiles) (.path "large")).perform world =
      (.error ⟨.outOfMemory, "Out of memory while loading CRF model"⟩, world) := by
  have hcontent : (Source.path "large").content crampedFiles = .ok ⟨#[1, 2]⟩ :=
    Source.content_of_read
      (Files.read_of_notMem rfl (by decide) (by decide) (by decide) (by decide) rfl rfl) rfl
  unfold Library.loader Source.load
  rw [hcontent]
  rfl

/-- No other model is there. -/
theorem load_gone (world : World Unit Unit) :
    ((Library.cramped.loader crampedFiles) (.path "gone")).perform world =
      (.error ⟨.modelNotFound, "Model file not found: gone"⟩, world) := by
  have hcontent : (Source.path "gone").content crampedFiles =
      .error ⟨.modelNotFound, "Model file not found: gone"⟩ :=
    Source.content_of_missing
      (Files.find_of_notMem rfl (by decide) (by decide) (by decide) (by decide))
  unfold Library.loader Source.load
  rw [hcontent]
  rfl

/-- A model that is gone leaves its slot empty, and the other slot is served. -/
theorem ofSettings_outcome_gone :
    let loader := Library.cramped.loader crampedFiles
    let settings : Settings := [("models", .obj [("gone", .str "gone"), ("small", .str "small")]),
      ("default_model", .str "small")]
    loader.FailsAsTold ∧
    ∃ registry model world, (Registry.ofSettings Library.cramped ⟨none, "/", []⟩ crampedFiles
        settings).perform (World.initial ()) = (.ok registry, world) ∧
      (∀ name, name ∈ registry.names ↔ name = "small") ∧
      registry.default? = .ok (some model) ∧ model.handle.content = ⟨#[1]⟩ := by
  intro loader settings
  have hloader : loader.FailsAsTold :=
    Library.loader_failsAsTold Library.cramped_opensExpectedly crampedFiles
  let slots : List (String × String) := [("gone", "gone"), ("small", "small")]
  have hlisted : Registry.listed settings = .ok (slots.map fun slot => (slot.1, .str slot.2)) := rfl
  have hdistinct : (slots.map (·.1)).Nodup := by decide
  obtain ⟨hserved, -, -, hsettings⟩ :=
    ofSettings_outcome hloader ⟨none, "/", []⟩ hlisted hdistinct (World.initial ())
  obtain ⟨opened, world', hsmall, hopened⟩ := load_small (World.initial ())
  have hattempts : loader.attempts ⟨none, "/", []⟩ slots (World.initial ()) =
      ([("gone", .error ⟨.modelNotFound, "Model file not found: gone"⟩),
        ("small", .ok (opened.model "small" (.path "small") none))], world') := by
    have hgone : Environment.expand ⟨none, "/", []⟩ "gone" = .ok "gone" := rfl
    have hfound : Environment.expand ⟨none, "/", []⟩ "small" = .ok "small" := rfl
    simp only [slots, Loader.attempts]
    rw [Loader.perform_modelFor hgone, load_gone]
    dsimp only
    rw [Loader.perform_modelFor hfound, hsmall]
    rfl
  rw [hattempts] at hserved
  obtain ⟨registry, hperform, hserves⟩ :=
    hserved (by simp [Stops, failsAs_error_iff, not_failsAs_ok])
  refine ⟨hloader, registry, _, world', ?_, ?_, (hserves.default?_iff _).2
    ⟨"small", rfl, List.mem_cons_of_mem _ List.mem_cons_self⟩, hopened⟩
  · rw [hsettings]
    exact hperform
  · intro name
    rw [hserves.mem_names_iff]
    simp

/-- A model for which there is no memory keeps the other slot from being served, though its model
can be loaded. -/
theorem ofSettings_cramped :
    let loader := Library.cramped.loader crampedFiles
    let settings : Settings := [("models", .obj [("s", .str "small"), ("l", .str "large")])]
    loader.FailsAsTold ∧
    (∃ model, ((loader.modelFor ⟨none, "/", []⟩ ("s", "small")).perform (World.initial ())).1 =
      .ok model) ∧
    ((Registry.ofSettings Library.cramped ⟨none, "/", []⟩ crampedFiles settings).perform
      (World.initial ())).1 = .error ⟨.outOfMemory, "Out of memory while loading CRF model"⟩ := by
  intro loader settings
  obtain ⟨opened, world', hopened, -⟩ := load_small (World.initial ())
  have hsmall : (loader.modelFor ⟨none, "/", []⟩ ("s", "small")).perform (World.initial ()) =
      (.ok (opened.model "s" (.path "small") none), world') := by
    have hexpand : Environment.expand ⟨none, "/", []⟩ "small" = .ok "small" := rfl
    rw [Loader.perform_modelFor hexpand, hopened]
    rfl
  have hlarge (world : World Unit Unit) :
      (loader.modelFor ⟨none, "/", []⟩ ("l", "large")).perform world =
        (.error ⟨.outOfMemory, "Out of memory while loading CRF model"⟩, world) := by
    have hexpand : Environment.expand ⟨none, "/", []⟩ "large" = .ok "large" := rfl
    rw [Loader.perform_modelFor hexpand, load_large]
    rfl
  have hregistry : loader.registry ⟨none, "/", []⟩ settings =
      loader.loadSlot ⟨none, "/", []⟩ (.empty .null) ("s", "small") >>= fun registry =>
        loader.loadSlot ⟨none, "/", []⟩ registry ("l", "large") >>= pure := rfl
  refine ⟨Library.loader_failsAsTold Library.cramped_opensExpectedly crampedFiles,
    ⟨_, congrArg Prod.fst hsmall⟩, ?_⟩
  rw [ofSettings_eq_registry, hregistry, Action.perform_bind, Loader.perform_loadSlot, hsmall]
  dsimp only
  rw [Action.perform_bind, Loader.perform_loadSlot, hlarge]
  rfl

end NameTagger
