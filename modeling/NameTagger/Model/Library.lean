import NameTagger.Chain.Weights
import NameTagger.Lexicon.Numbering

/-!
# Tagging libraries

A tagging library opens trained models and labels names with them.  It is given by its operations on
a state of its own; each may fail.  Its weights are binary numbers where nothing else is said.

* `Action`: what can fail and changes a state;
* `Dump`: what a library writes out of a model;
* `Library`: the operations of a library, whose taggers are of type `τ`;
* `Library.examine`: open a model for a while and take out what it holds.
-/

namespace NameTagger

/-- What can fail and changes a state. -/
abbrev Action (σ α : Type) := ExceptT Fault (StateM σ) α

/-- What a library writes out of a model. -/
structure Dump (W : Type := Float) where
  labels : List (String × SourceId)
  attributes : List (String × SourceId)
  states : Chain.Weights W
  transitions : Chain.Weights W

/-- The operations of a tagging library. -/
structure Library (σ τ : Type) (W : Type := Float) where
  /-- A tagger without a model. -/
  create : StateM σ τ
  /-- Open the model with a given content. -/
  openModel : τ → ByteArray → Action σ Unit
  close : τ → StateM σ Unit
  /-- The labels of the open model. -/
  labels : τ → Action σ (List String)
  dump : τ → Action σ (Dump W)
  /-- Choose the name that the next calls are about. -/
  choose : τ → List (Vector W) → Action σ Unit
  /-- The best labels of the chosen name. -/
  tag : τ → Action σ (List String)
  /-- The probability of labels for the chosen name. -/
  probability : τ → List String → Action σ Float
  /-- The probability of a label at a place of the chosen name. -/
  marginal : τ → String → Nat → Action σ Float

namespace Action

variable {σ α : Type}

/-- What an action comes to and the state behind it. -/
def perform (action : Action σ α) (s : σ) : Except Fault α × σ := action.run.run s

/-- The action with another failure in place of its own. -/
def mapFault (action : Action σ α) (f : Fault → Fault) : Action σ α :=
  ExceptT.mk fun s =>
    match action.perform s with
    | (.ok a, s) => (.ok a, s)
    | (.error fault, s) => (.error (f fault), s)

/-- The action that a result stands for. -/
def ofExcept (result : Except Fault α) : Action σ α := ExceptT.mk fun s => (result, s)

end Action

/-- The fault for a model that cannot be written out; only a lack of memory stays what it is. -/
def unreadableDump (fault : Fault) : Fault :=
  if fault.kind.isA .memory then fault
  else ⟨.modelLoadFailed, "Unreadable CRF model dump: " ++ fault.kind.name ++ ": " ++ fault.shown⟩

/-- A dump all of whose numbers are integers. -/
def Dump.checked {W : Type} (dump : Dump W) : Except Fault (Dump W) := do
  let _ ← Lexicon.values dump.labels
  let _ ← Lexicon.values dump.attributes
  return dump

namespace Library

variable {σ τ W : Type}

/-- What is written out of an open model. -/
def readDump (library : Library σ τ W) (tagger : τ) : Action σ (Dump W) :=
  Action.mapFault (do
    let dump ← library.dump tagger
    Action.ofExcept dump.checked) unreadableDump

/-- Open a model with a tagger and take out its labels and its dump. -/
def inspect (library : Library σ τ W) (content : ByteArray) (tagger : τ) :
    Action σ (List String × Dump W) := do
  library.openModel tagger content
  let labels ← library.labels tagger
  let dump ← library.readDump tagger
  return (labels, dump)

/-- Take out what a model holds, with a tagger that is closed in any case. -/
def examine (library : Library σ τ W) (content : ByteArray) : Action σ (List String × Dump W) :=
  ExceptT.mk do
    let tagger ← library.create
    let outcome ← (library.inspect content tagger).run
    library.close tagger
    return outcome

end Library

end NameTagger
