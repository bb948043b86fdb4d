import NameTagger.Model.Basic
import NameTagger.Settings.Store

/-!
# The registry of models

Loaded models stand in slots by name.  A model is loaded first and then put into its slot at once,
so that a failure changes no slot.

* `Registry`: the slots, and the slot that is asked for by default;
* `Registry.get?`, `names`, `default?`: looking;
* `Registry.publish`, `Registry.unload`: changing a slot, by which no name comes twice;
* `Source.Opened.model`, `Source.loadModel`: the model that is to be put into a slot;
* `Registry.load`, `Registry.loadRow`: load a model into a slot;
* `Registry.ofSettings`: the registry that the settings describe, without the models that fail.
-/

namespace NameTagger

/-- Loaded models by name. -/
structure Registry where
  /-- The slots in the order in which they were first used. -/
  slots : List (String × Model)
  /-- The slot that is asked for by default, as it is configured. -/
  defaultSlot : Json
  /-- No two slots have the same name. -/
  distinct : (slots.map (·.1)).Nodup

namespace Registry

/-- A registry without models. -/
def empty (defaultSlot : Json) : Registry := ⟨[], defaultSlot, List.nodup_nil⟩

/-- The model in a slot. -/
def get? (registry : Registry) (name : String) : Option Model := registry.slots.lookup name

/-- Whether a slot holds a model. -/
def contains (registry : Registry) (name : String) : Bool := (registry.get? name).isSome

/-- The number of models. -/
def size (registry : Registry) : Nat := registry.slots.length

/-- The names of the slots in alphabetical order. -/
def names (registry : Registry) : List String :=
  (registry.slots.map (·.1)).mergeSort fun a b => a ≤ b

/-- The model in the default slot.  A container is no name of a slot. -/
def default? (registry : Registry) : Except Fault (Option Model) :=
  match registry.defaultSlot with
  | .str name => .ok (registry.get? name)
  | .arr _ | .obj _ => .error ⟨.wrongType, "unhashable name"⟩
  | _ => .ok none

/-- Put a model into a slot of a list. -/
def place (model : Model) : List (String × Model) → List (String × Model)
  | [] => [(model.name, model)]
  | (name, other) :: rest =>
      if name = model.name then (name, model) :: rest else (name, other) :: place model rest

theorem eq_or_mem_of_mem_place {model : Model} {slots : List (String × Model)} {name : String}
    (h : name ∈ (place model slots).map (·.1)) : name = model.name ∨ name ∈ slots.map (·.1) := by
  induction slots with
  | nil => exact .inl (List.mem_singleton.1 h)
  | cons slot rest ih =>
    unfold place at h
    split at h
    · exact .inr h
    · rcases List.mem_cons.1 h with hslot | hrest
      · exact .inr (hslot ▸ List.mem_cons_self)
      · exact (ih hrest).imp_right (List.mem_cons_of_mem _)

theorem nodup_place (model : Model) {slots : List (String × Model)}
    (h : (slots.map (·.1)).Nodup) : ((place model slots).map (·.1)).Nodup := by
  induction slots with
  | nil => exact List.nodup_cons.2 ⟨List.not_mem_nil, List.nodup_nil⟩
  | cons slot rest ih =>
    obtain ⟨hslot, hrest⟩ := List.nodup_cons.1 h
    unfold place
    split
    · exact h
    · next hname =>
      refine List.nodup_cons.2 ⟨fun hmem => ?_, ih hrest⟩
      exact (eq_or_mem_of_mem_place hmem).elim hname hslot

/-- Put a model into the slot of its name, in place of an earlier one. -/
def publish (registry : Registry) (model : Model) : Registry where
  slots := place model registry.slots
  defaultSlot := registry.defaultSlot
  distinct := nodup_place model registry.distinct

/-- Empty a slot, and whether it held a model. -/
def unload (registry : Registry) (name : String) : Registry × Bool :=
  ({ slots := registry.slots.filter fun slot => slot.1 ≠ name
     defaultSlot := registry.defaultSlot
     distinct := registry.distinct.sublist (List.filter_sublist.map _) },
    registry.contains name)

end Registry

/-- The model for a slot, once it was opened. -/
def Source.Opened.model (opened : Source.Opened) (name : String) (source : Source)
    (version? : Option String) : Model where
  name
  version := version?.getD source.defaultVersion
  labels := opened.labels.freeze
  attrs := opened.attrs.freeze
  handle := opened.handle
  size := opened.handle.content.size
  isLoaded := true

/-- Load the model for a slot. -/
def Source.loadModel {σ τ : Type} (library : Library σ τ) (files : Files) (name : String)
    (source : Source) (version? : Option String) : Action (World σ τ) Model := do
  let opened ← source.load library files
  return opened.model name source version?

/-- A row of a model store: the content, the name and the version of a model. -/
structure StoredModel where
  content : ByteArray
  name : String
  version : Option String

namespace Registry

variable {σ τ : Type}

/-- Load a model into a slot. -/
def load (library : Library σ τ) (files : Files) (registry : Registry) (name : String)
    (source : Source) (version? : Option String) : Action (World σ τ) (Registry × Model) := do
  let model ← source.loadModel library files name version?
  return (registry.publish model, model)

/-- A name that was given and is not empty. -/
def given? (name? : Option String) : Option String := name?.filter (· ≠ "")

/-- The fault if a store has no model. -/
def notStored (name? : Option String) : Fault :=
  ⟨.modelNotFound, "No CRF model found: " ++ (given? name?).getD "active model"⟩

/-- The slot for a row that a store answered when it was asked for a model; without a name it is
asked for the active one, and the slot is named by the row. -/
def slotFor (name? : Option String) (row : StoredModel) : String := (given? name?).getD row.name

/-- Load what a store answered when it was asked for a model. -/
def loadRow (library : Library σ τ) (files : Files) (registry : Registry) (name? : Option String)
    (row? : Option StoredModel) : Action (World σ τ) (Registry × Model) :=
  match row? with
  | none => throw (notStored name?)
  | some row => registry.load library files (slotFor name? row) (.bytes row.content) row.version

/-- Load a model into a slot from a path name, where a failure of the model itself only leaves the
slot empty. -/
def loadOrSkip (library : Library σ τ) (env : Environment) (files : Files) (registry : Registry)
    (name path : String) : Action (World σ τ) Registry :=
  tryCatch (do
    let path ← Action.ofExcept (env.expand path)
    let (registry, _) ← registry.load library files name (.path path) none
    return registry) fun fault =>
      if fault.kind.isA .model then pure registry else throw fault

/-- Load the models that the settings list, one after another. -/
def loadListed (library : Library σ τ) (env : Environment) (files : Files) (registry : Registry) :
    List (String × Json) → Action (World σ τ) Registry
  | [] => return registry
  | (name, .str path) :: rest => do
      let registry ← registry.loadOrSkip library env files name path
      registry.loadListed library env files rest
  | _ :: _ => throw ⟨.wrongType, "a path name must be a text"⟩

/-- The models that the settings list. -/
def listed (settings : Settings) : Except Fault (List (String × Json)) :=
  match Json.Fields.get? settings "models" with
  | none => .ok []
  | some (.obj fields) => .ok fields
  | some _ => .error ⟨.missingMember, "object has no attribute 'items'"⟩

/-- The registry that the settings describe. -/
def ofSettings (library : Library σ τ) (env : Environment) (files : Files) (settings : Settings) :
    Action (World σ τ) Registry := do
  let models ← Action.ofExcept (listed settings)
  let registry := empty ((Json.Fields.get? settings "default_model").getD .null)
  registry.loadListed library env files models

end Registry

end NameTagger
