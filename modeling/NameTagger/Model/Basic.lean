import NameTagger.Files.Basic
import NameTagger.Model.Library

/-!
# Models

A model that was loaded has lexicons for its labels and its features and a handle, with which a
library labels names.

* `Handle`, `Model`;
* `World`: the state of the library with the taggers that handles keep open;
* `Handle.tagger`: the tagger of a handle, which is opened when it is first asked for;
* `Source`, `Source.read`: where the content of a model comes from;
* `Source.load`: open a model and take out its lexicons.
-/

namespace NameTagger

/-- The content of a model and what was taken out of it. -/
structure Handle (W : Type := Float) where
  /-- No two handles of a world have the same number. -/
  serial : Nat
  content : ByteArray
  states : Chain.Weights W
  transitions : Chain.Weights W
  labels : List String

/-- A model that was loaded. -/
structure Model (W : Type := Float) where
  name : String
  /-- An empty text if the version is not known. -/
  version : String
  labels : Lexicon
  attrs : Lexicon
  handle : Handle W
  size : Nat
  isLoaded : Bool

/-- The state of a library, and what was opened with it. -/
structure World (σ τ : Type) where
  library : σ
  /-- How many handles there were so far. -/
  issued : Nat
  /-- The taggers that stay open, by the numbers of their handles. -/
  taggers : List (Nat × τ)

namespace World

variable {σ τ α : Type}

/-- A world in which nothing was opened. -/
def initial (library : σ) : World σ τ := ⟨library, 0, []⟩

/-- An action of the library. -/
def withLibrary (action : Action σ α) : Action (World σ τ) α :=
  ExceptT.mk fun world =>
    let (outcome, library) := action.perform world.library
    (outcome, { world with library })

/-- Take a number for a handle. -/
def issue : Action (World σ τ) Nat :=
  ExceptT.mk fun world => (.ok world.issued, { world with issued := world.issued + 1 })

end World

/-- Open the tagger of a handle, which stays open. -/
def Handle.openTagger {σ τ W : Type} (library : Library σ τ W) (handle : Handle W) :
    Action (World σ τ) τ := do
  let tagger ← World.withLibrary do
    let tagger ← (library.create : StateM σ τ)
    library.openModel tagger handle.content
    return tagger
  modify fun world => { world with taggers := (handle.serial, tagger) :: world.taggers }
  return tagger

/-- The tagger of a handle. -/
def Handle.tagger {σ τ W : Type} (library : Library σ τ W) (handle : Handle W) :
    Action (World σ τ) τ := do
  match (← get).taggers.lookup handle.serial with
  | some tagger => return tagger
  | none => handle.openTagger library

/-- Where the content of a model comes from. -/
inductive Source where
  | path (name : String)
  | bytes (content : ByteArray)

namespace Source

/-- The content of a model. -/
def read (files : Files) : Source → Except Fault ByteArray
  | .bytes content => .ok content
  | .path name =>
      if files.contains name then files.read name
      else .error ⟨.modelNotFound, "Model file not found: " ++ name⟩

/-- The content of a model, which must not be empty. -/
def content (files : Files) (source : Source) : Except Fault ByteArray := do
  let content ← source.read files
  if content.isEmpty then .error ⟨.modelLoadFailed, "Model data is empty"⟩ else .ok content

/-- The fault for a failure while a model is loaded. -/
def loadFault (fault : Fault) : Fault :=
  if fault.kind.isA .memory then ⟨.outOfMemory, "Out of memory while loading CRF model"⟩
  else if fault.kind.isA .value || fault.kind.isA .system then
    ⟨.modelLoadFailed, "Malformed CRF model: " ++ fault.shown⟩
  else fault

/-- A model that was opened, with its lexicons. -/
structure Opened (W : Type := Float) where
  handle : Handle W
  labels : Lexicon
  attrs : Lexicon

/-- The lexicon of the labels: that of the dump, or else of the list. -/
def labelLexicon {W : Type} (listed : List String) (dump : Dump W) : Except Fault Lexicon :=
  if dump.labels.isEmpty then .ok (Lexicon.ofStrings listed).freeze
  else Lexicon.ofNumbered dump.labels

/-- Open a model and take out its lexicons. -/
def load {σ τ W : Type} (library : Library σ τ W) (files : Files) (source : Source) :
    Action (World σ τ) (Opened W) := do
  let (content, listed, dump) ← Action.mapFault (do
    let content ← Action.ofExcept (source.content files)
    let (listed, dump) ← World.withLibrary (library.examine content)
    return (content, listed, dump)) loadFault
  let labels ← Action.ofExcept (labelLexicon listed dump)
  let attrs ← Action.ofExcept (Lexicon.ofNumbered dump.attributes)
  let serial ← World.issue
  return ⟨⟨serial, content, dump.states, dump.transitions, labels.strings⟩, labels, attrs⟩

/-- The version of a model that names none: the name of its file. -/
def defaultVersion : Source → String
  | .bytes _ => "unknown"
  | .path name => Path.fileName name

end Source

end NameTagger
