import NameTagger.Parse.Decode
import NameTagger.Proofs.Model.Action

/-!
# What a library answers

A library can be watched: beside its own state it keeps a log of all calls to it with what came of
them.  Watching changes nothing else.

* `Library.Event`, `Library.watched`: a call with its outcome, and a library with a log of them;
* `Library.IsOrderly`: a library that fails with faults of values and operations only;
* `Action.Hears`: what an action comes to if the library is watched, and the events that it adds;
* `Library.hears_judge`, `Library.hears_tagger`: the events behind a verdict, and behind the search
  for a tagger.
-/

namespace NameTagger

variable {σ σ' τ α β ι : Type}

/-! ### Events -/

namespace Library

/-- A call to a library with its outcome. -/
inductive Event where
  | created
  | opened (outcome : Except Fault Unit)
  | closed
  | listed (outcome : Except Fault (List String))
  | dumped (outcome : Except Fault Dump)
  | chosen (tokens : List (Vector Float)) (outcome : Except Fault Unit)
  | tagged (outcome : Except Fault (List String))
  | rated (labels : List String) (outcome : Except Fault Float)
  /-- A label at a place was rated. -/
  | weighed (label : String) (place : Nat) (outcome : Except Fault Float)

/-- Whether a call failed. -/
def Event.isFailure : Event → Bool
  | .created | .closed => false
  | .opened outcome => !outcome.isOk
  | .listed outcome => !outcome.isOk
  | .dumped outcome => !outcome.isOk
  | .chosen _ outcome => !outcome.isOk
  | .tagged outcome => !outcome.isOk
  | .rated _ outcome => !outcome.isOk
  | .weighed _ _ outcome => !outcome.isOk

end Library

open Library (Event)

/-- An action beside a log, to which it adds its outcome as an event. -/
def Action.logged (action : Action σ α) (event : Except Fault α → Event) :
    Action (σ × List Event) α :=
  ExceptT.mk fun s =>
    let (outcome, s') := action.perform s.1
    (outcome, s', s.2 ++ [event outcome])

/-- A change of the state beside a log, to which it adds an event. -/
def StateM.logged (change : StateM σ α) (event : Event) : StateM (σ × List Event) α := fun s =>
  let (a, s') := change.run s.1
  (a, s', s.2 ++ [event])

/-- A library with a log of all calls to it. -/
def Library.watched (library : Library σ τ) : Library (σ × List Event) τ where
  create := StateM.logged library.create .created
  openModel tagger content := (library.openModel tagger content).logged .opened
  close tagger := StateM.logged (library.close tagger) .closed
  labels tagger := (library.labels tagger).logged .listed
  dump tagger := (library.dump tagger).logged .dumped
  choose tagger tokens := (library.choose tagger tokens).logged (.chosen tokens)
  tag tagger := (library.tag tagger).logged .tagged
  probability tagger labels := (library.probability tagger labels).logged (.rated labels)
  marginal tagger label i := (library.marginal tagger label i).logged (.weighed label i)

/-- A world whose library is watched. -/
def World.watched (world : World σ τ) (log : List Event) : World (σ × List Event) τ :=
  { world with library := (world.library, log) }

/-! ### Orderly failures -/

/-- A fault of a value or of an operation. -/
def Fault.IsOrderly (fault : Fault) : Prop := fault.kind.isA .value || fault.kind.isA .runtime

/-- An action that fails in an orderly way, if at all. -/
def Action.IsOrderly (action : Action σ α) : Prop :=
  ∀ s fault, (action.perform s).1 = .error fault → fault.IsOrderly

/-- The calls that label a name fail in an orderly way, if at all. -/
structure Library.IsOrderly (library : Library σ τ) : Prop where
  openModel (tagger : τ) (content : ByteArray) : (library.openModel tagger content).IsOrderly
  choose (tagger : τ) (tokens : List (Vector Float)) : (library.choose tagger tokens).IsOrderly
  tag (tagger : τ) : (library.tag tagger).IsOrderly
  probability (tagger : τ) (labels : List String) : (library.probability tagger labels).IsOrderly
  marginal (tagger : τ) (label : String) (i : Nat) : (library.marginal tagger label i).IsOrderly

theorem taggingFault_of_isOrderly {fault : Fault} (h : fault.IsOrderly) :
    taggingFault fault = ⟨.prediction, "CRF tagging failed: " ++ fault.shown⟩ :=
  if_pos h

/-! ### Actions of a watched library -/

namespace Action

/-- The events of an action tell whether it failed; without a failure, the value and the events have
a property. -/
def Tells (post : α → List Event → Prop) (outcome : Except Fault α) (events : List Event) : Prop :=
  match outcome with
  | .ok a => (∀ event ∈ events, event.isFailure = false) ∧ post a events
  | .error fault => fault.IsOrderly ∧ ∃ event ∈ events, event.isFailure = true

/-- An action comes to the same and leaves the same state if the library is watched; `watch` adds a
log to a state. -/
def Hears (watch : σ → List Event → σ') (watched : Action σ' α) (action : Action σ α)
    (post : α → List Event → Prop) : Prop :=
  ∀ s log, ∃ events,
    watched.perform (watch s log) =
      ((action.perform s).1, watch (action.perform s).2 (log ++ events)) ∧
    Tells post (action.perform s).1 events

namespace Hears

variable {watch : σ → List Event → σ'} {watched : Action σ' α} {action : Action σ α}
  {post : α → List Event → Prop}

theorem mono {post' : α → List Event → Prop} (h : Hears watch watched action post)
    (hpost : ∀ a events, post a events → post' a events) : Hears watch watched action post' := by
  intro s log
  obtain ⟨events, hperform, htells⟩ := h s log
  refine ⟨events, hperform, ?_⟩
  cases houtcome : (action.perform s).1 with
  | ok a =>
    rw [houtcome] at htells
    exact ⟨htells.1, hpost a events htells.2⟩
  | error fault =>
    rw [houtcome] at htells
    exact htells

theorem pure {a : α} (h : post a []) : Hears watch (pure a) (pure a) post :=
  fun s log => ⟨[], by rw [List.append_nil]; rfl, List.forall_mem_nil _, h⟩

/-- One call to a library. -/
theorem logged {action : Action σ α} (horderly : action.IsOrderly)
    {event : Except Fault α → Event}
    (hevent : ∀ outcome, (event outcome).isFailure = !outcome.isOk) :
    Hears Prod.mk (action.logged event) action fun a events => events = [event (.ok a)] := by
  intro s log
  refine ⟨[event (action.perform s).1], rfl, ?_⟩
  cases houtcome : (action.perform s).1 with
  | ok a => exact ⟨List.forall_mem_singleton.2 (hevent (.ok a)), rfl⟩
  | error fault =>
    exact ⟨horderly s fault houtcome, _, List.mem_singleton_self _, hevent (.error fault)⟩

/-- One call to a library that cannot fail. -/
theorem lift (change : StateM σ α) {event : Event} (hevent : event.isFailure = false) :
    Hears Prod.mk (liftM (StateM.logged change event) : Action (σ × List Event) α)
      (liftM change : Action σ α) fun _ events => events = [event] :=
  fun _ _ => ⟨[event], rfl, List.forall_mem_singleton.2 hevent, rfl⟩

/-- A change of the state that is none. -/
theorem modify {f' : σ' → σ'} {f : σ → σ} (h : ∀ s log, f' (watch s log) = watch (f s) log) :
    Hears watch (modify f') (modify f) fun _ events => events = [] := by
  intro s log
  refine ⟨[], ?_, List.forall_mem_nil _, rfl⟩
  rw [List.append_nil]
  exact congrArg (Prod.mk (Except.ok ())) (h s log)

/-- An action that depends on the state. -/
theorem ofState {watched : σ' → Action σ' α} {action : σ → Action σ α}
    (h : ∀ s log, Hears watch (watched (watch s log)) (action s) post) :
    Hears watch (get >>= watched) (get >>= action) post :=
  fun s log => h s log s log

/-- One action behind another one: its events come behind those of the first. -/
theorem bind {watched' : α → Action σ' β} {action' : α → Action σ β}
    {post' : β → List Event → Prop} (h : Hears watch watched action post)
    (h' : ∀ a, Hears watch (watched' a) (action' a) fun b second =>
      ∀ first, post a first → post' b (first ++ second)) :
    Hears watch (watched >>= watched') (action >>= action') post' := by
  intro s log
  obtain ⟨first, hfirst, htells⟩ := h s log
  rw [perform_bind, perform_bind, hfirst]
  generalize action.perform s = result at htells ⊢
  obtain ⟨outcome, s₁⟩ := result
  cases outcome with
  | error fault => exact ⟨first, rfl, htells⟩
  | ok a =>
    obtain ⟨hquiet, ha⟩ := htells
    obtain ⟨second, hsecond, htells'⟩ := h' a s₁ (log ++ first)
    refine ⟨first ++ second, by rw [← List.append_assoc]; exact hsecond, ?_⟩
    dsimp only
    generalize ((action' a).perform s₁).1 = outcome at htells' ⊢
    cases outcome with
    | error fault =>
      obtain ⟨horderly, event, hevent, hfailure⟩ := htells'
      exact ⟨horderly, event, List.mem_append_right _ hevent, hfailure⟩
    | ok b =>
      exact ⟨List.forall_mem_append.2 ⟨hquiet, htells'.1⟩, htells'.2 first ha⟩

/-- The same call for each item of a list. -/
theorem mapM {watched : ι → Action σ' α} {action : ι → Action σ α} {event : ι → α → Event}
    (h : ∀ i, Hears watch (watched i) (action i) fun a events => events = [event i a])
    (l : List ι) :
    Hears watch (l.mapM watched) (l.mapM action) fun as events =>
      as.length = l.length ∧ events = List.zipWith event l as := by
  induction l with
  | nil =>
    rw [List.mapM_nil, List.mapM_nil]
    exact pure ⟨rfl, rfl⟩
  | cons i l ih =>
    rw [List.mapM_cons, List.mapM_cons]
    refine (h i).bind fun a => ih.bind fun as => pure ?_
    rintro _ ⟨hlength, rfl⟩ _ rfl
    exact ⟨congrArg Nat.succ hlength, by rw [List.append_nil]; rfl⟩

theorem withLibrary {watched : Action (σ × List Event) α} {action : Action σ α}
    (h : Hears Prod.mk watched action post) :
    Hears World.watched (World.withLibrary watched : Action (World _ τ) α)
      (World.withLibrary action) post := by
  intro world log
  obtain ⟨events, hperform, htells⟩ := h world.library log
  refine ⟨events, ?_, htells⟩
  rw [perform_withLibrary, perform_withLibrary]
  change ((watched.perform (world.library, log)).1,
    { world with library := (watched.perform (world.library, log)).2 }) = _
  rw [hperform]
  rfl

end Hears

end Action

/-! ### The events behind a verdict -/

/-- The calls that lead to a verdict. -/
def Verdict.events (tokens : List (Vector Float)) (verdict : Verdict) : List Event :=
  [.chosen tokens (.ok ()), .tagged (.ok verdict.labels),
    .rated verdict.labels (.ok verdict.score)] ++
  List.zipWith (fun place confidence => .weighed place.1 place.2 (.ok confidence))
    verdict.labels.zipIdx (verdict.marginals.getD [])

/-- There is one answer behind a verdict. -/
theorem Verdict.tagged_mem_events {tokens : List (Vector Float)} {verdict : Verdict}
    {labels : List String} :
    .tagged (.ok labels) ∈ verdict.events tokens ↔ labels = verdict.labels := by
  rw [events, ← List.map_uncurry_zip_eq_zipWith]
  simp

/-- The probability of each label is behind a verdict. -/
theorem Verdict.weighed_mem_events {tokens : List (Vector Float)} {verdict : Verdict}
    {label : String} {i : Nat} {confidence : Float} (hlabel : verdict.labels[i]? = some label)
    (hconfidence : (verdict.marginals.getD [])[i]? = some confidence) :
    .weighed label i (.ok confidence) ∈ verdict.events tokens := by
  refine List.mem_append_right _ (List.mem_iff_getElem?.2 ⟨i, ?_⟩)
  rw [List.getElem?_zipWith, List.getElem?_zipIdx, hlabel, hconfidence, Nat.zero_add]
  rfl

/-- A verdict has the probability of each label, if they are asked for. -/
def Verdict.IsWhole (withMarginals : Bool) (verdict : Verdict) : Prop :=
  verdict.marginals.map List.length = if withMarginals then some verdict.labels.length else none

namespace Library

variable {library : Library σ τ} (horderly : library.IsOrderly) (withMarginals : Bool)

include horderly in
theorem hears_judge (tokens : List (Vector Float)) (tagger : τ) :
    Action.Hears Prod.mk (library.watched.judge withMarginals tokens tagger)
      (library.judge withMarginals tokens tagger) fun verdict events =>
        events = verdict.events tokens ∧ verdict.IsWhole withMarginals := by
  rw [judge, judge]
  refine (Action.Hears.logged (horderly.choose tagger tokens) fun _ => rfl).bind fun _ => ?_
  refine (Action.Hears.logged (horderly.tag tagger) fun _ => rfl).bind fun labels => ?_
  refine (Action.Hears.logged (horderly.probability tagger labels) fun _ => rfl).bind
    fun score => ?_
  cases withMarginals with
  | false =>
    refine Action.Hears.pure ?_
    rintro _ rfl _ rfl _ rfl
    exact ⟨by simp [Verdict.events], rfl⟩
  | true =>
    have hmarginal (place : String × Nat) :
        Action.Hears Prod.mk (library.watched.marginal tagger place.1 place.2)
          (library.marginal tagger place.1 place.2) fun confidence events =>
            events = [.weighed place.1 place.2 (.ok confidence)] :=
      .logged (horderly.marginal tagger place.1 place.2) fun _ => rfl
    refine (Action.Hears.mapM hmarginal labels.zipIdx).bind fun marginals => .pure ?_
    rintro _ ⟨hlength, rfl⟩ _ rfl _ rfl _ rfl
    rw [List.length_zipIdx] at hlength
    exact ⟨by simp [Verdict.events], by simp [Verdict.IsWhole, hlength]⟩

/-- The calls that open a tagger. -/
def opening : List Event := [.created, .opened (.ok ())]

include horderly in
theorem hears_openTagger (handle : Handle) :
    Action.Hears World.watched (handle.openTagger library.watched) (handle.openTagger library)
      fun _ events => events = opening := by
  rw [Handle.openTagger, Handle.openTagger]
  refine Action.Hears.bind
    (.withLibrary (?_ : Action.Hears Prod.mk _ _ fun _ events => events = opening)) fun tagger => ?_
  · refine (Action.Hears.lift library.create rfl).bind fun tagger => ?_
    refine (Action.Hears.logged (horderly.openModel tagger handle.content) fun _ => rfl).bind
      fun _ => .pure ?_
    rintro _ rfl _ rfl
    rfl
  · have hmodify (handles : List (Nat × τ) → List (Nat × τ)) :
        Action.Hears World.watched
          (modify fun world => { world with taggers := handles world.taggers } :
            Action (World (σ × List Event) τ) _)
          (modify fun world => { world with taggers := handles world.taggers } :
            Action (World σ τ) _) fun _ events => events = [] :=
      .modify fun _ _ => rfl
    refine (hmodify ((handle.serial, tagger) :: ·)).bind fun _ => .pure ?_
    rintro _ rfl _ rfl
    rfl

include horderly in
/-- A tagger is open already, or it is opened. -/
theorem hears_tagger (handle : Handle) :
    Action.Hears World.watched (handle.tagger library.watched) (handle.tagger library)
      fun _ events => events = [] ∨ events = opening := by
  rw [Handle.tagger, Handle.tagger]
  refine Action.Hears.ofState fun world log => ?_
  rw [show (world.watched log).taggers = world.taggers from rfl]
  cases world.taggers.lookup handle.serial with
  | some tagger => exact Action.Hears.pure (Or.inl rfl)
  | none => exact (hears_openTagger horderly handle).mono fun _ _ => Or.inr

end Library

end NameTagger
