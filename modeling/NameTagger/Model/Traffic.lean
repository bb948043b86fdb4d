import Mathlib.Logic.Function.Basic
import NameTagger.Model.Registry

/-!
# Many callers of a registry

A load first opens its model, for which nobody waits, and then puts it into its slot while it holds
the lock; a load from a store asks the store before that.  The other calls are one step.  Between
the steps of a call those of others may come, in any order, and what a store or a loader answers
may be a failure.

* `Operation`, `Event`, `execute`: a step on a registry, and what it came to;
* `Call`, `Stage`: what is called, and how far a call is;
* `Traffic`, `Move`, `Traffic.step`, `Traffic.run`: a registry with its callers, under a schedule.
-/

namespace NameTagger.Registry

variable {κ : Type}

/-! ### Steps on a registry -/

/-- What is done with a registry in one step. -/
inductive Operation where
  | publish (name : String) (model : Model)
  | unload (name : String)
  | get (name : String)
  | names

/-- A step that was done, with its answer. -/
inductive Event where
  | published (name : String) (model : Model)
  | unloaded (name : String) (held : Bool)
  | got (name : String) (model? : Option Model)
  | listed (names : List String)

/-- Do a step. -/
def execute (registry : Registry) : Operation → Registry × Event
  | .publish name model => (registry.publish model, .published name model)
  | .unload name => ((registry.unload name).1, .unloaded name (registry.unload name).2)
  | .get name => (registry, .got name (registry.get? name))
  | .names => (registry, .listed registry.names)

namespace Event

/-- The step that was done. -/
def operation : Event → Operation
  | .published name model => .publish name model
  | .unloaded name _ => .unload name
  | .got name _ => .get name
  | .listed _ => .names

end Event

/-! ### Calls -/

/-- What is called. -/
inductive Call where
  | load (name : String) (source : Source) (version? : Option String)
  /-- Load what a store answers, which is asked for a name or else for the active model. -/
  | loadStored (name? : Option String)
  | unload (name : String)
  | get (name : String)
  | names

/-- How far a call is. -/
inductive Stage where
  /-- The store is asked. -/
  | fetching
  /-- The model is opened. -/
  | opening (name : String) (source : Source) (version? : Option String)
  /-- One step on the registry is left. -/
  | ready (operation : Operation)
  | done (outcome : Except Fault Event)

namespace Stage

/-- What a call came to, once its step on the registry is done. -/
def result? : Stage → Option Event
  | .done (.ok event) => some event
  | _ => none

/-- The first stage of a call. -/
def first : Call → Stage
  | .load name source version? => .opening name source version?
  | .loadStored _ => .fetching
  | .unload name => .ready (.unload name)
  | .get name => .ready (.get name)
  | .names => .ready .names

/-- The stage behind the answer of a store. -/
def fetched (name? : Option String) : Except Fault (Option StoredModel) → Stage
  | .error fault => .done (.error fault)
  | .ok none => .done (.error (notStored name?))
  | .ok (some row) => .opening (slotFor name? row) (.bytes row.content) row.version

/-- The stage behind the answer of a loader. -/
def opened (name : String) (source : Source) (version? : Option String) :
    Except Fault Source.Opened → Stage
  | .error fault => .done (.error fault)
  | .ok opened => .ready (.publish name (opened.model name source version?))

end Stage

/-! ### Schedules -/

/-- A registry with the calls that were made so far, which are told apart by `κ`: a client that
calls again does so as another one. -/
structure Traffic (κ : Type) where
  registry : Registry
  calls : κ → Option (Call × Stage)
  /-- The steps on the registry in their order, with the callers. -/
  log : List (κ × Event)

/-- What comes next. -/
inductive Move (κ : Type) where
  | call (caller : κ) (call : Call)
  /-- A store answers. -/
  | fetched (caller : κ) (answer : Except Fault (Option StoredModel))
  /-- A loader answers. -/
  | opened (caller : κ) (answer : Except Fault Source.Opened)
  /-- A caller has its step on the registry. -/
  | operate (caller : κ)

/-- The caller whose turn it is on the registry. -/
def Move.operator? : Move κ → Option κ
  | .operate caller => some caller
  | _ => none

namespace Traffic

/-- Nobody has called yet. -/
def start (registry : Registry) : Traffic κ := ⟨registry, fun _ => none, []⟩

/-- The steps of a caller. -/
def eventsOf [DecidableEq κ] (traffic : Traffic κ) (caller : κ) : List Event :=
  (traffic.log.filter fun entry => entry.1 = caller).map (·.2)

/-- What the call of a caller came to, once its step is done. -/
def result? (traffic : Traffic κ) (caller : κ) : Option Event :=
  (traffic.calls caller).bind fun progress => progress.2.result?

variable [DecidableEq κ]

/-- A call is at another stage. -/
def put (traffic : Traffic κ) (caller : κ) (call : Call) (stage : Stage) : Traffic κ :=
  { traffic with calls := Function.update traffic.calls caller (some (call, stage)) }

/-- A call has its step on the registry. -/
def operate (traffic : Traffic κ) (caller : κ) (call : Call) (operation : Operation) : Traffic κ :=
  let executed := traffic.registry.execute operation
  { traffic.put caller call (.done (.ok executed.2)) with
    registry := executed.1
    log := traffic.log ++ [(caller, executed.2)] }

/-- What comes of a move; one that is not possible does nothing. -/
def step (traffic : Traffic κ) : Move κ → Traffic κ
  | .call caller call =>
      match traffic.calls caller with
      | none => traffic.put caller call (.first call)
      | some _ => traffic
  | .fetched caller answer =>
      match traffic.calls caller with
      | some (.loadStored name?, .fetching) =>
          traffic.put caller (.loadStored name?) (.fetched name? answer)
      | _ => traffic
  | .opened caller answer =>
      match traffic.calls caller with
      | some (call, .opening name source version?) =>
          traffic.put caller call (.opened name source version? answer)
      | _ => traffic
  | .operate caller =>
      match traffic.calls caller with
      | some (call, .ready operation) => traffic.operate caller call operation
      | _ => traffic

/-- What comes of a schedule. -/
def run (traffic : Traffic κ) (moves : List (Move κ)) : Traffic κ := moves.foldl step traffic

end Traffic

end NameTagger.Registry
