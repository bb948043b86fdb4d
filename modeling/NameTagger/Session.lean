import NameTagger.Model.Registry
import NameTagger.Parse.Entry

/-!
# Sessions

A session holds what outlasts a single request: the files, the registry of models, the opened
taggers and the groups of the default parser, which are read from the user's settings when they are
first needed.  A library for JSON reads and writes the settings and the documents.

* `Session`;
* `Session.loadModel`, `loadStored`, `restore`, `unload`: changing the registry;
* `Session.defaultParser`, `Session.ask`: parsing names.
-/

namespace NameTagger

/-- What outlasts a request. -/
structure Session (σ τ : Type) where
  env : Environment
  files : Files
  registry : Registry
  /-- The groups of the default parser, once it was needed. -/
  groups? : Option GroupChoice
  world : World σ τ

namespace Session

variable {σ τ α : Type} (codec : Json.Codec)

/-- An action on the opened models. -/
def withWorld (action : Action (World σ τ) α) : Action (Session σ τ) α :=
  ExceptT.mk fun session =>
    let (outcome, world) := action.perform session.world
    (outcome, { session with world })

/-- A tagger of the opened models. -/
def liftTagger (tagger : Tagger (World σ τ)) : Tagger (Session σ τ) where
  best model inst := withWorld (tagger.best model inst)
  several model inst n := withWorld (tagger.several model inst n)

/-- The settings that a value gives, or else those of the user, which are written if there are
none. -/
def settings (value : Json) : Action (Session σ τ) Settings :=
  ExceptT.mk fun session =>
    let (files, outcome) := Settings.choose codec session.env session.files value
    (outcome, { session with files })

/-- Load a model into a slot. -/
def loadModel (library : Library σ τ) (name : String) (source : Source)
    (version? : Option String) : Action (Session σ τ) Model := do
  let session ← get
  let (registry, model) ← withWorld
    (session.registry.load library session.files name source version?)
  modify fun session => { session with registry }
  return model

/-- Load what a store answered. -/
def loadStored (library : Library σ τ) (name? : Option String) (row? : Option StoredModel) :
    Action (Session σ τ) Model := do
  let session ← get
  let (registry, model) ← withWorld
    (session.registry.loadRow library session.files name? row?)
  modify fun session => { session with registry }
  return model

/-- Begin again with the registry that a configuration describes; null stands for that of the
user. -/
def restore (library : Library σ τ) (config : Json) : Action (Session σ τ) Registry := do
  let settings ← settings codec config
  let session ← get
  let registry ← withWorld (Registry.ofSettings library session.env session.files settings)
  modify fun session => { session with registry }
  return registry

/-- Empty a slot, and whether it held a model. -/
def unload (session : Session σ τ) (name : String) : Session σ τ × Bool :=
  let (registry, held) := session.registry.unload name
  ({ session with registry }, held)

/-- The parser with given groups. -/
def parserWith (library : Library σ τ) (groups : GroupChoice) : Parser (Session σ τ) :=
  ⟨liftTagger (library.cachingTagger true), groups⟩

/-- The groups in the settings of the user. -/
def readGroups : Action (Session σ τ) GroupChoice := do
  let settings ← settings codec .null
  let groups ← Action.ofExcept (GroupChoice.ofSettings settings)
  modify fun session => { session with groups? := some groups }
  return groups

/-- The parser with the groups of the user, which stay the same until they are forgotten. -/
def defaultParser (library : Library σ τ) : Action (Session σ τ) (Parser (Session σ τ)) := do
  match (← get).groups? with
  | some groups => return parserWith library groups
  | none => return parserWith library (← readGroups codec)

/-- Ask for a name; without groups, the default parser is asked. -/
def ask (library : Library σ τ) (groups? : Option GroupChoice) (form : AnswerForm)
    (milliseconds : Float) (text? : Option String) (model? : Option Model) :
    Action (Session σ τ) Answer :=
  let acquire := match groups? with
    | some groups => pure (parserWith library groups)
    | none => defaultParser codec library
  form.ask codec acquire milliseconds text? model?

/-- Forget the default parser. -/
def forgetParser (session : Session σ τ) : Session σ τ := { session with groups? := none }

end Session

end NameTagger
