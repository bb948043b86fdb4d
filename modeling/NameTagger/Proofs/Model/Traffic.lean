import NameTagger.Model.Traffic
import NameTagger.Proofs.Model.Action
import NameTagger.Proofs.Model.Registry

/-!
# The callers of a registry come one after another

The registry is always what the steps on it come to one after another, whatever the schedule.

* `Event.apply`, `Event.Fits`, `replay`: what events make of the slots, and how the slots answer;
* `Call.Loads`, `Call.Orders`, `Call.Admits`: what a call is for, and the stages that it can be at;
* `Call.Orders.get?_execute`, `Call.Orders.fits_execute`: the step of a call does what it says;
* `Traffic.step_cases`: what a move can do;
* `Traffic.Invariant`: what every move keeps;
* `Traffic.isSerial_run`: under any schedule the calls come to their steps one after another;
* `Traffic.run_load`, `Traffic.run_loadRow_some`, `Traffic.run_loadRow_none`: a load that nobody
  comes in between is that of the registry.
-/

namespace NameTagger.Registry

variable {κ : Type}

/-! ### What steps and calls may do -/

namespace Event

/-- What an event makes of the slots. -/
def apply : Event → (String → Option Model) → String → Option Model
  | .published name model, slots => Function.update slots name (some model)
  | .unloaded name _, slots => Function.update slots name none
  | .got _ _, slots | .listed _, slots => slots

/-- An event with the answer that the slots call for. -/
def Fits (slots : String → Option Model) : Event → Prop
  | .published name model => model.IsFor name
  | .unloaded name held => held = true ↔ ∃ model, slots name = some model
  | .got name model? => model? = slots name
  | .listed names =>
      names.Pairwise (· < ·) ∧ ∀ name, name ∈ names ↔ ∃ model, slots name = some model

end Event

/-- What events make of the slots, one after another. -/
def replay (slots : String → Option Model) (log : List (κ × Event)) : String → Option Model :=
  log.foldl (fun slots entry => entry.2.apply slots) slots

namespace Call

/-- The name that a call is for. -/
def name? : Call → Option String
  | .load name _ _ | .unload name | .get name => some name
  | .loadStored name? => given? name?
  | .names => none

/-- A call loads a model from a source into a slot. -/
inductive Loads : Call → String → Source → Option String → Prop
  | given (name : String) (source : Source) (version? : Option String) :
      Loads (.load name source version?) name source version?
  | stored (name? : Option String) (row : StoredModel) :
      Loads (.loadStored name?) (slotFor name? row) (.bytes row.content) row.version

/-- A call comes to a step. -/
inductive Orders : Call → Operation → Prop
  | publish {call : Call} {name : String} {source : Source} {version? : Option String}
      (loads : call.Loads name source version?) (opened : Source.Opened) :
      Orders call (.publish name (opened.model name source version?))
  | unload (name : String) : Orders (.unload name) (.unload name)
  | get (name : String) : Orders (.get name) (.get name)
  | names : Orders .names .names

/-- A call can be at a stage. -/
def Admits (call : Call) : Stage → Prop
  | .fetching | .done (.error _) => True
  | .opening name source version? => call.Loads name source version?
  | .ready operation => call.Orders operation
  | .done (.ok event) => call.Orders event.operation

end Call

/-! ### One step on a registry -/

section Execute

variable {registry : Registry} {call : Call} {operation : Operation} {event : Event}
  {slots : String → Option Model} {log : List (κ × Event)} {name : String}

theorem replay_concat (slots : String → Option Model) (log : List (κ × Event)) (caller : κ)
    (event : Event) : replay slots (log ++ [(caller, event)]) = event.apply (replay slots log) := by
  unfold replay
  rw [List.foldl_append, List.foldl_cons, List.foldl_nil]

theorem operation_execute (registry : Registry) (operation : Operation) :
    (registry.execute operation).2.operation = operation := by
  cases operation <;> rfl

theorem defaultSlot_execute (registry : Registry) (operation : Operation) :
    (registry.execute operation).1.defaultSlot = registry.defaultSlot := by
  cases operation <;> rfl

/-- The step of a call does to the slots what it says. -/
theorem Call.Orders.get?_execute (h : call.Orders operation) (registry : Registry) :
    (registry.execute operation).1.get? = (registry.execute operation).2.apply registry.get? := by
  cases h with
  | publish loads opened => exact get?_publish registry _
  | unload name => exact get?_unload registry name
  | get name => rfl
  | names => rfl

/-- The step of a call is answered by the slots. -/
theorem Call.Orders.fits_execute (h : call.Orders operation) (registry : Registry) :
    (registry.execute operation).2.Fits registry.get? := by
  cases h with
  | publish loads opened => exact opened.isFor_model _ _ _
  | unload name => exact Option.isSome_iff_exists
  | get name => rfl
  | names => exact ⟨registry.agrees.increasing, registry.agrees.occupied⟩

/-- A load is into the slot that it is for. -/
theorem Call.Loads.eq_of_name?_eq {source : Source} {version? : Option String} {other : String}
    (h : call.Loads name source version?) (hname : call.name? = some other) : name = other := by
  cases h with
  | given name source version? => exact Option.some.inj hname
  | stored name? row =>
    have hgiven : given? name? = some other := hname
    unfold slotFor
    rw [hgiven, Option.getD_some]

/-- A call for one name leaves the other slots. -/
theorem Call.Orders.apply_eq_of_ne (h : call.Orders event.operation)
    (hname : call.name? = some name) {other : String} (hother : other ≠ name) :
    event.apply slots other = slots other := by
  cases event with
  | published slot model =>
    obtain ⟨loads, opened⟩ := h
    rw [loads.eq_of_name?_eq hname]
    exact Function.update_of_ne hother _ _
  | unloaded slot held =>
    obtain ⟨-⟩ := h
    obtain rfl := Option.some.inj hname
    exact Function.update_of_ne hother _ _
  | got slot model? => rfl
  | listed names => rfl

/-- A model behind an event that fits was there before, or it was published. -/
theorem Event.Fits.held {model : Model} (hfits : event.Fits slots)
    (h : event.apply slots name = some model) :
    slots name = some model ∨ model.IsFor name := by
  cases event with
  | published slot published =>
    rw [Event.apply, Function.update_apply] at h
    split at h
    case isTrue hname =>
      obtain rfl := Option.some.inj h
      exact .inr (hname ▸ hfits)
    case isFalse => exact .inl h
  | unloaded slot held =>
    rw [Event.apply, Function.update_apply] at h
    split at h
    · cases h
    · exact .inl h
  | got slot model? => exact .inl h
  | listed names => exact .inl h

theorem held_of_replay (hfits : ∀ earlier caller event later,
      log = earlier ++ (caller, event) :: later → event.Fits (replay slots earlier))
    {model : Model} (h : replay slots log name = some model) :
    slots name = some model ∨ model.IsFor name := by
  induction log generalizing slots with
  | nil => exact .inl h
  | cons entry rest ih =>
    have hrest : entry.2.apply slots name = some model ∨ model.IsFor name :=
      ih (fun earlier caller event later hlog => hfits (entry :: earlier) caller event later
        (by rw [hlog, List.cons_append])) h
    obtain hslot | hpublished := hrest
    · exact (hfits [] entry.1 entry.2 rest rfl).held hslot
    · exact .inr hpublished

end Execute

/-! ### One move -/

namespace Traffic

theorem result?_eq_some_iff {traffic : Traffic κ} {caller : κ} {event : Event} :
    traffic.result? caller = some event ↔
      ∃ call, traffic.calls caller = some (call, .done (.ok event)) := by
  unfold result?
  constructor
  · intro h
    obtain ⟨⟨call, stage⟩, hcaller, hstage⟩ := Option.bind_eq_some_iff.1 h
    unfold Stage.result? at hstage
    split at hstage
    case h_1 other hdone =>
      obtain rfl := Option.some.inj hstage
      obtain rfl : stage = .done (.ok other) := hdone
      exact ⟨call, hcaller⟩
    case h_2 => cases hstage
  · rintro ⟨call, hcaller⟩
    rw [hcaller]
    rfl

section Parts

variable [DecidableEq κ] {traffic : Traffic κ} {caller other : κ} {call : Call} {stage : Stage}
  {operation : Operation}

theorem mem_log_iff {event : Event} :
    (caller, event) ∈ traffic.log ↔ event ∈ traffic.eventsOf caller := by
  simp [eventsOf]

theorem calls_put_self : (traffic.put caller call stage).calls caller = some (call, stage) :=
  Function.update_self ..

theorem calls_put_of_ne (h : other ≠ caller) :
    (traffic.put caller call stage).calls other = traffic.calls other :=
  Function.update_of_ne h ..

theorem result?_put_self : (traffic.put caller call stage).result? caller = stage.result? := by
  rw [result?, calls_put_self, Option.bind_some]

theorem result?_put_of_ne (h : other ≠ caller) :
    (traffic.put caller call stage).result? other = traffic.result? other := by
  rw [result?, calls_put_of_ne h, result?]

theorem result?_operate_self : (traffic.operate caller call operation).result? caller =
    some (traffic.registry.execute operation).2 :=
  result?_put_self

theorem result?_operate_of_ne (h : other ≠ caller) :
    (traffic.operate caller call operation).result? other = traffic.result? other :=
  result?_put_of_ne h

theorem eventsOf_operate_self : (traffic.operate caller call operation).eventsOf caller =
    traffic.eventsOf caller ++ [(traffic.registry.execute operation).2] := by
  simp [operate, eventsOf]

theorem eventsOf_operate_of_ne (h : other ≠ caller) :
    (traffic.operate caller call operation).eventsOf other = traffic.eventsOf other := by
  simp [operate, eventsOf, h.symm]

theorem admits_put (h : call.Admits stage)
    (hcalls : ∀ other call stage, traffic.calls other = some (call, stage) → call.Admits stage) :
    ∀ other call' stage', (traffic.put caller call stage).calls other = some (call', stage') →
      call'.Admits stage' := by
  intro other call' stage' hother
  by_cases hcaller : other = caller
  · subst hcaller
    rw [calls_put_self] at hother
    obtain ⟨rfl, rfl⟩ := Prod.mk.inj (Option.some.inj hother)
    exact h
  · rw [calls_put_of_ne hcaller] at hother
    exact hcalls other call' stage' hother

end Parts

/-- A call comes to a stage without a step on the registry: it begins, or it got an answer. -/
inductive Proceeds : Option (Call × Stage) → Call → Stage → Prop
  | call (call : Call) : Proceeds none call (.first call)
  | fetched (name? : Option String) (answer : Except Fault (Option StoredModel)) :
      Proceeds (some (.loadStored name?, .fetching)) (.loadStored name?) (.fetched name? answer)
  | opened (call : Call) (name : String) (source : Source) (version? : Option String)
      (answer : Except Fault Source.Opened) :
      Proceeds (some (call, .opening name source version?)) call
        (.opened name source version? answer)

variable [DecidableEq κ] {traffic : Traffic κ} {caller : κ} {call : Call} {stage : Stage}
  {operation : Operation} {initial : Registry}

/-- A move does nothing, or a call proceeds, or it has its step on the registry. -/
theorem step_cases (traffic : Traffic κ) (move : Move κ) :
    traffic.step move = traffic ∨
    (∃ caller call stage, Proceeds (traffic.calls caller) call stage ∧
      traffic.step move = traffic.put caller call stage) ∨
    (∃ caller call operation, move = .operate caller ∧
      traffic.calls caller = some (call, .ready operation) ∧
      traffic.step move = traffic.operate caller call operation) := by
  cases move with
  | call caller call =>
    rw [step]
    split
    case h_1 hcaller => exact .inr (.inl ⟨caller, call, _, hcaller ▸ Proceeds.call call, rfl⟩)
    case h_2 => exact .inl rfl
  | fetched caller answer =>
    rw [step]
    split
    case h_1 name? hcaller =>
      exact .inr (.inl ⟨caller, _, _, hcaller ▸ Proceeds.fetched name? answer, rfl⟩)
    case h_2 => exact .inl rfl
  | opened caller answer =>
    rw [step]
    split
    case h_1 call name source version? hcaller =>
      exact .inr (.inl ⟨caller, call, _,
        hcaller ▸ Proceeds.opened call name source version? answer, rfl⟩)
    case h_2 => exact .inl rfl
  | operate caller =>
    rw [step]
    split
    case h_1 call operation hcaller =>
      exact .inr (.inr ⟨caller, call, operation, rfl, hcaller, rfl⟩)
    case h_2 => exact .inl rfl

namespace Proceeds

variable {before : Option (Call × Stage)}

theorem result?_before (h : Proceeds before call stage) :
    (before.bind fun progress => progress.2.result?) = none := by
  cases h <;> rfl

theorem result?_eq_none (h : Proceeds before call stage) : stage.result? = none := by
  cases h with
  | call call => cases call <;> rfl
  | fetched name? answer => rcases answer with fault | _ | row <;> rfl
  | opened call name source version? answer => cases answer <;> rfl

/-- A call that proceeds stays what it is, and loads what it is to load. -/
theorem admits (h : Proceeds before call stage)
    (hbefore : ∀ call stage, before = some (call, stage) → call.Admits stage) :
    call.Admits stage := by
  cases h with
  | call call =>
    cases call with
    | load name source version? => exact .given name source version?
    | loadStored name? => trivial
    | unload name => exact .unload name
    | get name => exact .get name
    | names => exact .names
  | fetched name? answer =>
    rcases answer with fault | _ | row
    · trivial
    · trivial
    · exact .stored name? row
  | opened call name source version? answer =>
    have loads : call.Loads name source version? := hbefore _ _ rfl
    cases answer with
    | error fault => trivial
    | ok opened => exact .publish loads opened

end Proceeds

/-! ### Any schedule -/

/-- What every move keeps, if the registry was `initial` when nobody had called yet. -/
structure Invariant (initial : Registry) (traffic : Traffic κ) : Prop where
  defaultSlot : traffic.registry.defaultSlot = initial.defaultSlot
  slots : traffic.registry.get? = replay initial.get? traffic.log
  fits : ∀ earlier caller event later, traffic.log = earlier ++ (caller, event) :: later →
    event.Fits (replay initial.get? earlier)
  once : ∀ caller, traffic.eventsOf caller = (traffic.result? caller).toList
  admits : ∀ caller call stage, traffic.calls caller = some (call, stage) → call.Admits stage

theorem Invariant.start (initial : Registry) :
    (start initial : Traffic κ).Invariant initial where
  defaultSlot := rfl
  slots := rfl
  fits earlier caller event later h := by
    have hlength := congrArg List.length h
    simp [Traffic.start] at hlength
  once _ := rfl
  admits _ _ _ h := by cases h

theorem Invariant.put (h : traffic.Invariant initial)
    (hproceeds : Proceeds (traffic.calls caller) call stage) :
    (traffic.put caller call stage).Invariant initial where
  defaultSlot := h.defaultSlot
  slots := h.slots
  fits := h.fits
  once other := by
    show traffic.eventsOf other = _
    rw [h.once other]
    by_cases hcaller : other = caller
    · subst hcaller
      rw [result?_put_self, hproceeds.result?_eq_none, result?, hproceeds.result?_before]
    · rw [result?_put_of_ne hcaller]
  admits := admits_put (hproceeds.admits (h.admits caller)) h.admits

theorem Invariant.operate (h : traffic.Invariant initial)
    (hready : traffic.calls caller = some (call, .ready operation)) :
    (traffic.operate caller call operation).Invariant initial := by
  have orders : call.Orders operation := h.admits caller call _ hready
  have hfits : (traffic.registry.execute operation).2.Fits (replay initial.get? traffic.log) :=
    h.slots ▸ orders.fits_execute traffic.registry
  refine ⟨(defaultSlot_execute _ _).trans h.defaultSlot, ?slots, ?fits, ?once, ?admits⟩
  case slots =>
    show (traffic.registry.execute operation).1.get? = replay initial.get? (traffic.log ++ [_])
    rw [replay_concat, ← h.slots, orders.get?_execute]
  case fits =>
    intro earlier other event later hlog
    -- Either the step stands among those before, or it is the last one.
    rcases List.eq_nil_or_concat later with rfl | ⟨later, last, rfl⟩
    · obtain ⟨rfl, hlast⟩ := List.append_inj' hlog rfl
      obtain ⟨-, rfl⟩ := Prod.mk.inj (List.cons.inj hlast).1
      exact hfits
    · rw [List.concat_eq_append, ← List.cons_append, ← List.append_assoc] at hlog
      exact h.fits earlier other event later (List.append_inj' hlog rfl).1
  case once =>
    intro other
    by_cases hcaller : other = caller
    · subst hcaller
      have hbefore : traffic.result? other = none := by
        rw [result?, hready]
        rfl
      rw [eventsOf_operate_self, h.once, hbefore, result?_operate_self]
      rfl
    · rw [eventsOf_operate_of_ne hcaller, h.once, result?_operate_of_ne hcaller]
  case admits =>
    refine admits_put ?_ h.admits
    show call.Orders _
    rw [operation_execute]
    exact orders

theorem Invariant.step (h : traffic.Invariant initial) (move : Move κ) :
    (traffic.step move).Invariant initial := by
  rcases step_cases traffic move with hnone | ⟨caller, call, stage, hproceeds, hput⟩ |
    ⟨caller, call, operation, -, hready, hoperate⟩
  · rw [hnone]
    exact h
  · rw [hput]
    exact h.put hproceeds
  · rw [hoperate]
    exact h.operate hready

theorem Invariant.run (h : traffic.Invariant initial) (moves : List (Move κ)) :
    (traffic.run moves).Invariant initial := by
  induction moves generalizing traffic with
  | nil => exact h
  | cons move rest ih => exact ih (h.step move)

/-- A store or a loader fails the caller that waits for its answer. -/
inductive Fails (traffic : Traffic κ) (caller : κ) : Move κ → Prop
  | fetched {name? : Option String}
      (fetching : traffic.calls caller = some (.loadStored name?, .fetching)) (fault : Fault) :
      Fails traffic caller (.fetched caller (.error fault))
  /-- The store has no such model. -/
  | missing {name? : Option String}
      (fetching : traffic.calls caller = some (.loadStored name?, .fetching)) :
      Fails traffic caller (.fetched caller (.ok none))
  | opened {call : Call} {name : String} {source : Source} {version? : Option String}
      (opening : traffic.calls caller = some (call, .opening name source version?))
      (fault : Fault) : Fails traffic caller (.opened caller (.error fault))

/-- Such a call is done. -/
theorem Fails.calls_step {move : Move κ} (h : traffic.Fails caller move) :
    ∃ call fault, (traffic.step move).calls caller = some (call, .done (.error fault)) := by
  cases h with
  | fetched fetching fault =>
    rw [step, fetching]
    exact ⟨_, fault, calls_put_self⟩
  | missing fetching =>
    rw [step, fetching]
    exact ⟨_, _, calls_put_self⟩
  | opened opening fault =>
    rw [step, opening]
    exact ⟨_, fault, calls_put_self⟩

/-- A call that is done is not touched again. -/
theorem calls_step_of_done {outcome : Except Fault Event}
    (h : traffic.calls caller = some (call, .done outcome)) (move : Move κ) :
    (traffic.step move).calls caller = some (call, .done outcome) := by
  rcases step_cases traffic move with hnone | ⟨other, moved, stage, hproceeds, hput⟩ |
    ⟨other, moved, operation, -, hready, hoperate⟩
  · rw [hnone, h]
  · have hother : caller ≠ other := by
      rintro rfl
      rw [h] at hproceeds
      cases hproceeds
    rw [hput, calls_put_of_ne hother, h]
  · have hother : caller ≠ other := by
      rintro rfl
      rw [h] at hready
      cases hready
    rw [hoperate]
    exact (calls_put_of_ne hother).trans h

theorem calls_run_of_done {outcome : Except Fault Event}
    (h : traffic.calls caller = some (call, .done outcome)) (moves : List (Move κ)) :
    (traffic.run moves).calls caller = some (call, .done outcome) := by
  induction moves generalizing traffic with
  | nil => exact h
  | cons move rest ih => exact ih (calls_step_of_done h move)

/-- The steps are in the order of the schedule. -/
theorem exists_log_run (traffic : Traffic κ) (moves : List (Move κ)) :
    ∃ done, (traffic.run moves).log = traffic.log ++ done ∧
      (done.map (·.1)).Sublist (moves.filterMap Move.operator?) := by
  induction moves generalizing traffic with
  | nil => exact ⟨[], (List.append_nil _).symm, .slnil⟩
  | cons move rest ih =>
    obtain ⟨done, hlog, hdone⟩ := ih (traffic.step move)
    have hrun : (traffic.run (move :: rest)).log = (traffic.step move).log ++ done := hlog
    rcases step_cases traffic move with hnone | ⟨caller, call, stage, -, hput⟩ |
      ⟨caller, call, operation, rfl, -, hoperate⟩
    · refine ⟨done, by rw [hrun, hnone], hdone.trans ?_⟩
      exact (List.sublist_cons_self move rest).filterMap _
    · refine ⟨done, by rw [hrun, hput, put], hdone.trans ?_⟩
      exact (List.sublist_cons_self move rest).filterMap _
    · refine ⟨(caller, (traffic.registry.execute operation).2) :: done, ?_, ?_⟩
      · rw [hrun, hoperate, operate, List.append_assoc, List.singleton_append]
      · exact hdone.cons_cons caller

/-- A schedule comes to what its steps on the registry come to one after another. -/
structure IsSerial (initial : Registry) (moves : List (Move κ)) (traffic : Traffic κ) : Prop where
  /-- The slots are what the steps that were done make of the first ones, in their order. -/
  slots : traffic.registry.get? = replay initial.get? traffic.log
  /-- That is the order in which the callers had their turns. -/
  order : (traffic.log.map (·.1)).Sublist (moves.filterMap Move.operator?)
  /-- Every step was answered by the slots behind those before it. -/
  fits : ∀ earlier caller event later, traffic.log = earlier ++ (caller, event) :: later →
    event.Fits (replay initial.get? earlier)
  /-- A call that came to something did one step, and any other call none. -/
  once : ∀ caller, traffic.eventsOf caller = (traffic.result? caller).toList
  /-- A call that a store or a loader failed has no step. -/
  failed : ∀ earlier move later caller, moves = earlier ++ move :: later →
    ((start initial).run earlier).Fails caller move → traffic.eventsOf caller = []
  /-- A step is what its call is for. -/
  orders : ∀ caller event, (caller, event) ∈ traffic.log →
    ∃ call, traffic.calls caller = some (call, .done (.ok event)) ∧ call.Orders event.operation
  /-- A call for one name leaves the other slots. -/
  elsewhere : ∀ caller call stage event name, traffic.calls caller = some (call, stage) →
    (caller, event) ∈ traffic.log → call.name? = some name →
      ∀ slots other, other ≠ name → event.apply slots other = slots other
  /-- The models in the slots are those from before and published ones. -/
  held : ∀ name model, traffic.registry.get? name = some model →
    initial.get? name = some model ∨ model.IsFor name
  agrees : traffic.registry.Agrees
  defaultSlot : traffic.registry.defaultSlot = initial.defaultSlot

/-- What a caller did is what its call came to. -/
theorem Invariant.exists_call (h : traffic.Invariant initial) {event : Event}
    (hmem : (caller, event) ∈ traffic.log) :
    ∃ call, traffic.calls caller = some (call, .done (.ok event)) ∧
      call.Orders event.operation := by
  rw [mem_log_iff, h.once, Option.mem_toList] at hmem
  obtain ⟨call, hcaller⟩ := result?_eq_some_iff.1 hmem
  exact ⟨call, hcaller, h.admits caller call _ hcaller⟩

theorem invariant_run (initial : Registry) (moves : List (Move κ)) :
    ((start initial).run moves).Invariant initial :=
  (Invariant.start initial).run moves

/-- A call that was failed has no step, whatever comes behind. -/
theorem Fails.eventsOf_run {earlier later : List (Move κ)} {move : Move κ}
    (h : ((start initial).run earlier).Fails caller move) :
    ((start initial).run (earlier ++ move :: later)).eventsOf caller = [] := by
  have hrun : (start initial).run (earlier ++ move :: later) =
      (((start initial).run earlier).step move).run later := List.foldl_append
  obtain ⟨call, fault, hdone⟩ := h.calls_step
  rw [(invariant_run initial _).once, hrun, result?, calls_run_of_done hdone later]
  rfl

/-- Whatever callers, stores and loaders do and in which order, the registry is always what the
steps on it come to one after another. -/
theorem isSerial_run (initial : Registry) (moves : List (Move κ)) :
    ((start initial).run moves).IsSerial initial moves where
  slots := (invariant_run initial moves).slots
  order := by
    obtain ⟨done, hlog, hdone⟩ := exists_log_run (start initial) moves
    rw [hlog]
    exact hdone
  fits := (invariant_run initial moves).fits
  once := (invariant_run initial moves).once
  failed := by
    rintro earlier move later caller rfl hfails
    exact hfails.eventsOf_run
  orders _ _ hmem := (invariant_run initial moves).exists_call hmem
  elsewhere caller call stage event name hcaller hmem hname slots other hother := by
    obtain ⟨done, hdone, orders⟩ := (invariant_run initial moves).exists_call hmem
    obtain ⟨rfl, -⟩ := Prod.mk.inj (Option.some.inj (hcaller.symm.trans hdone))
    exact orders.apply_eq_of_ne hname hother
  held name model hname := by
    rw [(invariant_run initial moves).slots] at hname
    exact held_of_replay (invariant_run initial moves).fits hname
  agrees := agrees _
  defaultSlot := (invariant_run initial moves).defaultSlot

-- Two loads of one slot end in the other order, a store finds nothing, and two unloads come behind.
example :
    let opened : Source.Opened :=
      ⟨⟨0, .empty, .ofList [], .ofList [], []⟩, .ofStrings ["GIVEN"], .ofStrings ["bias"]⟩
    let traffic := (start (empty (.str "person"))).run
      [.call 0 (.load "person" (.path "old.crfsuite") none),
        .call 1 (.load "person" (.path "new.crfsuite") (some "2")), .call 2 (.loadStored none),
        .opened 1 (.ok opened), .operate 1, .opened 0 (.ok opened), .operate 0,
        .fetched 2 (.ok none), .call 3 (.unload "person"), .operate 3, .call 4 (.unload "person"),
        .operate 4]
    traffic.log.map (·.1) = [1, 0, 3, 4] ∧ traffic.result? 3 = some (.unloaded "person" true) ∧
      traffic.result? 4 = some (.unloaded "person" false) :=
  ⟨rfl, rfl, rfl⟩

end Traffic

/-! ### A call that nobody comes in between -/

section Alone

variable {σ τ : Type} [DecidableEq κ]

theorem perform_load (library : Library σ τ) (files : Files) (registry : Registry) (name : String)
    (source : Source) (version? : Option String) (world : World σ τ) :
    (registry.load library files name source version?).perform world =
      (((source.load library files).perform world).1.map fun opened =>
          (registry.publish (opened.model name source version?), opened.model name source version?),
        ((source.load library files).perform world).2) := by
  unfold load Source.loadModel
  rw [Action.perform_bind, Action.perform_bind]
  obtain ⟨outcome, world⟩ := (source.load library files).perform world
  cases outcome <;> rfl

namespace Traffic

variable {traffic : Traffic κ} {caller : κ} {call : Call} {name : String} {source : Source}
  {version? : Option String}

/-- A call has come to what a load of the registry comes to. -/
structure HasLoaded (traffic : Traffic κ) (caller : κ) (call : Call) (name : String)
    (before : Registry) (loaded : Except Fault (Registry × Model)) : Prop where
  calls : traffic.calls caller =
    some (call, .done (loaded.map fun loaded => .published name loaded.2))
  registry : traffic.registry = (loaded.toOption.map (·.1)).getD before

theorem run_opening
    (hopening : traffic.calls caller = some (call, .opening name source version?))
    (library : Library σ τ) (files : Files) (world : World σ τ) :
    (traffic.run [.opened caller ((source.load library files).perform world).1,
      .operate caller]).HasLoaded caller call name traffic.registry
        ((traffic.registry.load library files name source version?).perform world).1 := by
  have hopened : ∀ answer, traffic.step (.opened caller answer) =
      traffic.put caller call (.opened name source version? answer) := by
    intro answer
    rw [step, hopening]
  rw [run, List.foldl_cons, hopened, List.foldl_cons, List.foldl_nil, perform_load, step,
    calls_put_self]
  cases ((source.load library files).perform world).1 with
  | error fault => exact ⟨calls_put_self, rfl⟩
  | ok opened => exact ⟨calls_put_self, rfl⟩

/-- A load that nobody comes in between is `Registry.load`. -/
theorem run_load (hcaller : traffic.calls caller = none) (library : Library σ τ) (files : Files)
    (name : String) (source : Source) (version? : Option String) (world : World σ τ) :
    (traffic.run [.call caller (.load name source version?),
      .opened caller ((source.load library files).perform world).1,
      .operate caller]).HasLoaded caller (.load name source version?) name traffic.registry
        ((traffic.registry.load library files name source version?).perform world).1 := by
  have hcall : traffic.step (.call caller (.load name source version?)) =
      traffic.put caller (.load name source version?) (.opening name source version?) := by
    rw [step, hcaller, Stage.first]
  rw [run, List.foldl_cons, hcall]
  exact run_opening calls_put_self library files world

theorem run_fetched (hcaller : traffic.calls caller = none) (name? : Option String)
    (answer : Except Fault (Option StoredModel)) (moves : List (Move κ)) :
    traffic.run (.call caller (.loadStored name?) :: .fetched caller answer :: moves) =
      ((traffic.put caller (.loadStored name?) .fetching).put caller (.loadStored name?)
        (.fetched name? answer)).run moves := by
  have hcall : traffic.step (.call caller (.loadStored name?)) =
      traffic.put caller (.loadStored name?) .fetching := by
    rw [step, hcaller, Stage.first]
  rw [run, List.foldl_cons, hcall, List.foldl_cons, step, calls_put_self, run]

/-- A load of what a store answers is `Registry.loadRow`. -/
theorem run_loadRow_some (hcaller : traffic.calls caller = none) (library : Library σ τ)
    (files : Files) (name? : Option String) (row : StoredModel) (world : World σ τ) :
    (traffic.run [.call caller (.loadStored name?), .fetched caller (.ok (some row)),
      .opened caller (((Source.bytes row.content).load library files).perform world).1,
      .operate caller]).HasLoaded caller (.loadStored name?) (slotFor name? row) traffic.registry
        ((traffic.registry.loadRow library files name? (some row)).perform world).1 := by
  rw [run_fetched hcaller]
  exact run_opening calls_put_self library files world

/-- A store without the model leaves the registry as it is. -/
theorem run_loadRow_none (hcaller : traffic.calls caller = none) (library : Library σ τ)
    (files : Files) (name? : Option String) (world : World σ τ) :
    (traffic.run [.call caller (.loadStored name?), .fetched caller (.ok none),
      .operate caller]).HasLoaded caller (.loadStored name?) name traffic.registry
        ((traffic.registry.loadRow library files name? none).perform world).1 := by
  rw [run_fetched hcaller, run, List.foldl_cons, step, calls_put_self]
  exact ⟨calls_put_self, rfl⟩

end Traffic

end Alone

end NameTagger.Registry
