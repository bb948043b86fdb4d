import NameTagger.Proofs.Model.Account
import NameTagger.Proofs.Parse.Outcome

/-!
# Names that are parsed one after another

A handle opens its tagger once and uses it for all names, while other models are loaded and slots
are emptied.  Whatever failed before, a name for which no call to the library fails is parsed as if
it were the first one.

* `Call`, `Call.result`, `Call.events`: a name that is to be parsed, and what comes of it in a
  session;
* `Call.answer`: what comes of it without a failure, which depends on the model and the name alone;
* `Request`, `Session.run`, `Session.callEvents`: what is asked of a session, one thing after
  another;
* `Account.consult_yields`, `Account.holds_consult`, `Call.result_eq_answer`: one name;
* `Attempt`, `Library.consult_attempt`: the calls by which a tagger is opened, or not;
* `OpensOnce`: they come once, apart from those that fail;
* `result_run`: any number of names;
* `Scripted`: a library whose failures are known beforehand.
-/

namespace NameTagger

open Library (Event)

variable {σ τ : Type}

/-! ### Names and requests -/

/-- A name that is to be parsed, and how. -/
structure Call where
  withMarginals : Bool
  groups : GroupChoice
  milliseconds : Float
  text? : Option String

namespace Call

/-- The parser for a name. -/
def parser (call : Call) (library : Library σ τ) : Parser (World σ τ) :=
  ⟨library.cachingTagger call.withMarginals, call.groups⟩

/-- Parse a name with a model. -/
def decode (call : Call) (library : Library σ τ) (model : Model) : Action (World σ τ) ParsedName :=
  (call.parser library).decode call.milliseconds call.text? (some model)

/-- Parse a name in a session. -/
def decodeIn (call : Call) (library : Library σ τ) (model : Model) :
    Action (Session σ τ) ParsedName :=
  (⟨Session.liftTagger (library.cachingTagger call.withMarginals), call.groups⟩ : Parser _).decode
    call.milliseconds call.text? (some model)

/-- What comes of a name. -/
def result (call : Call) (library : Library σ τ) (model : Model) (session : Session σ τ) :
    Except Fault ParsedName :=
  ((call.decodeIn library model).perform session).1

/-- The calls to the library for a name. -/
def events (call : Call) (library : Library σ τ) (model : Model) (session : Session σ τ) :
    List Event :=
  ((call.decode library.watched model).perform (session.world.watched [])).2.library.2

/-- No call to the library for a name fails. -/
def IsQuiet (call : Call) (library : Library σ τ) (model : Model) (session : Session σ τ) : Prop :=
  ∀ event ∈ call.events library model session, event.isFailure = false

/-- What comes of a name if no call to the library fails. -/
def answer {library : Library σ τ} (account : library.Account) (call : Call) (model : Model) :
    Except Fault ParsedName :=
  ((call.parser library).prepare call.text? (some model)).bind fun prepared =>
    prepared.read call.milliseconds (.ok (account.verdict call.withMarginals
      prepared.model.handle.content (prepared.inst.toVectors prepared.model.attrs)))

end Call

/-- A model with another handle. -/
def Model.withHandle (model : Model) (handle : Handle) : Model := { model with handle }

/-- A model with a handle of its own for the same content. -/
def Model.renumbered (model : Model) (serial : Nat) : Model :=
  model.withHandle { model.handle with serial }

/-- What is asked of a session. -/
inductive Request where
  | decode (call : Call)
  | load (name : String) (source : Source) (version? : Option String)
  | loadStored (name? : Option String) (row? : Option StoredModel)
  | unload (name : String)

/-- The session behind a request; names are parsed with one model. -/
def Request.apply (library : Library σ τ) (model : Model) (session : Session σ τ) :
    Request → Session σ τ
  | .decode call => ((call.decodeIn library model).perform session).2
  | .load name source version? =>
      ((Session.loadModel library name source version?).perform session).2
  | .loadStored name? row? => ((Session.loadStored library name? row?).perform session).2
  | .unload name => (session.unload name).1

/-- The session behind requests. -/
def Session.run (library : Library σ τ) (model : Model) (session : Session σ τ)
    (requests : List Request) : Session σ τ :=
  requests.foldl (Request.apply library model) session

/-- The calls to the library for each name that is parsed. -/
def Session.callEvents (library : Library σ τ) (model : Model) :
    Session σ τ → List Request → List (List Event)
  | _, [] => []
  | session, .decode call :: requests =>
      call.events library model session ::
        callEvents library model (Request.apply library model session (.decode call)) requests
  | session, request :: requests =>
      callEvents library model (Request.apply library model session request) requests

/-! ### Before a name is labeled -/

/-- The handle of a model does not matter to what is prepared. -/
theorem Parser.prepare_cases {ρ : Type} (parser : Parser ρ) (text? : Option String)
    (model : Model) :
    (∃ fault, ∀ handle, parser.prepare text? (some (model.withHandle handle)) = .error fault) ∨
      ∃ tokens inst, ∀ handle, parser.prepare text? (some (model.withHandle handle)) =
        .ok ⟨model.withHandle handle, tokens, inst⟩ := by
  by_cases hmodel : model.isLoaded = true
  · have hloaded (handle : Handle) : (model.withHandle handle).isLoaded = true := hmodel
    by_cases htokens : Token.ofText (text?.getD "") = []
    · exact .inl ⟨_, fun handle => prepare_emptyInput parser (hloaded handle) htokens⟩
    · cases hgroups : parser.groups.names with
      | error fault =>
        obtain ⟨token, tokens, hcons⟩ := List.exists_cons_of_ne_nil htokens
        refine .inl ⟨fault, fun handle => ?_⟩
        rw [prepare, usable_some (hloaded handle), hcons, hgroups]
        rfl
      | ok groups =>
        exact .inr ⟨Token.ofText (text?.getD ""), Instance.recognize model.attrs
          ((Token.ofText (text?.getD "")).map Feature.Cell.ofToken) groups,
          fun handle => prepare_eq_ok parser (hloaded handle) htokens hgroups⟩
  · have hunloaded (handle : Handle) : (model.withHandle handle).isLoaded = false :=
      Bool.eq_false_iff.2 hmodel
    exact .inl ⟨_, fun handle =>
      prepare_modelNotLoaded parser (Option.filter_some_neg (hunloaded handle))⟩

/-! ### One name -/

namespace Library.Account

variable {library : Library σ τ} (account : library.Account)

theorem consult_yields (withMarginals : Bool) (model : Model) (tokens : List (Vector Float)) :
    Action.Yields (account.Holds model.handle) (library.consult withMarginals model tokens)
      fun verdict _ => verdict = account.verdict withMarginals model.handle.content tokens := by
  rw [consult]
  refine (account.tagger_yields model.handle).bind fun tagger => ?_
  rintro world ⟨hcontent, -⟩
  exact (account.judge_yields withMarginals tagger model.handle.content tokens).withLibrary world
    hcontent

theorem holds_consult (withMarginals : Bool) (model : Model) (tokens : List (Vector Float)) :
    Action.Preserves (account.Holds model.handle) (library.consult withMarginals model tokens) := by
  rw [consult]
  refine (account.holds_tagger model.handle).bind fun tagger => ?_
  intro world hworld other hother
  rw [Action.perform_withLibrary]
  exact (congrFun (account.keeps_judge withMarginals tokens tagger world.library) other).trans
    (hworld other hother)

end Library.Account

namespace Call

variable {library : Library σ τ}

theorem result_eq (call : Call) (library : Library σ τ) (model : Model) (session : Session σ τ) :
    call.result library model session =
      ((call.decode library model).perform session.world).1 := by
  rw [result, decodeIn, Session.perform_decode_liftTagger]
  rfl

theorem perform_decodeIn (call : Call) (library : Library σ τ) (model : Model)
    (session : Session σ τ) :
    ((call.decodeIn library model).perform session).2 =
      { session with world := ((call.decode library model).perform session.world).2 } := by
  rw [decodeIn, Session.perform_decode_liftTagger]
  rfl

section

variable {call : Call} {model : Model} (session : Session σ τ)

/-- A name for which the library is not consulted. -/
theorem perform_of_error {fault : Fault}
    (hprepare : (call.parser library).prepare call.text? (some model) = .error fault) :
    (call.decode library model).perform session.world = (.error fault, session.world) ∧
      call.events library model session = [] := by
  have hwatched : (call.parser library.watched).prepare call.text? (some model) = .error fault :=
    hprepare
  refine ⟨Parser.perform_decode_of_error hprepare session.world, ?_⟩
  rw [events, decode, Parser.perform_decode_of_error hwatched]
  rfl

/-- The calls of a library that is consulted about a name. -/
def consult (call : Call) (library : Library σ τ) (prepared : Parser.Prepared) :
    Action (World σ τ) Verdict :=
  library.consult call.withMarginals prepared.model (prepared.inst.toVectors prepared.model.attrs)

/-- A name for which the library is consulted. -/
theorem perform_of_ok (horderly : library.IsOrderly) {prepared : Parser.Prepared}
    (hprepare : (call.parser library).prepare call.text? (some model) = .ok prepared) :
    (call.decode library model).perform session.world =
        (prepared.read call.milliseconds ((call.consult library prepared).perform session.world).1,
          ((call.consult library prepared).perform session.world).2) ∧
      (call.consult library.watched prepared).perform (session.world.watched []) =
        (((call.consult library prepared).perform session.world).1,
          ((call.consult library prepared).perform session.world).2.watched
            (call.events library model session)) ∧
      Action.Tells (fun _ _ => True) ((call.consult library prepared).perform session.world).1
        (call.events library model session) := by
  have hwatched : (call.parser library.watched).prepare call.text? (some model) = .ok prepared :=
    hprepare
  obtain ⟨heard, hperform, htells⟩ := (Library.hears_consult horderly call.withMarginals
    prepared.model (prepared.inst.toVectors prepared.model.attrs)).mono (fun _ _ _ => trivial)
    session.world []
  have hevents : call.events library model session = heard := by
    rw [events, decode, parser, Parser.perform_decode _ hwatched]
    exact congrArg (fun result => result.2.library.2) hperform
  rw [hevents]
  exact ⟨Parser.perform_decode session.world hprepare, hperform, htells⟩

end

theorem model_of_prepare {call : Call} {model : Model} {prepared : Parser.Prepared}
    (hprepare : (call.parser library).prepare call.text? (some model) = .ok prepared) :
    prepared.model = model := by
  rcases Parser.prepare_cases (call.parser library) call.text? model with
    ⟨fault, herror⟩ | ⟨tokens, inst, hok⟩
  · cases hprepare.symm.trans (herror model.handle)
  · cases hprepare.symm.trans (hok model.handle)
    rfl

/-- Another handle for the same content gives the same answer. -/
theorem answer_renumbered (account : library.Account) (call : Call) (model : Model)
    (serial : Nat) : call.answer account (model.renumbered serial) = call.answer account model := by
  rcases Parser.prepare_cases (call.parser library) call.text? model with
    ⟨fault, herror⟩ | ⟨tokens, inst, hok⟩
  · have hprepare : (call.parser library).prepare call.text? (some model) = .error fault :=
      herror model.handle
    rw [answer, answer, Model.renumbered, herror, hprepare]
  · have hprepare : (call.parser library).prepare call.text? (some model) =
      .ok ⟨model, tokens, inst⟩ := hok model.handle
    rw [answer, answer, Model.renumbered, hok, hprepare]
    rfl

/-- Whatever comes of a name, the tagger of the handle stays good. -/
theorem holds_decode (horderly : library.IsOrderly) (account : library.Account) (call : Call)
    (model : Model) {session : Session σ τ} (h : account.Holds model.handle session.world) :
    account.Holds model.handle ((call.decode library model).perform session.world).2 := by
  cases hprepare : (call.parser library).prepare call.text? (some model) with
  | error fault =>
    rw [(perform_of_error session hprepare).1]
    exact h
  | ok prepared =>
    rw [(perform_of_ok session horderly hprepare).1]
    obtain rfl := model_of_prepare hprepare
    exact account.holds_consult call.withMarginals prepared.model _ session.world h

/-- A name for which no call fails comes to what the model says about it. -/
theorem result_eq_answer (horderly : library.IsOrderly) (account : library.Account) {call : Call}
    {model : Model} {session : Session σ τ} (h : account.Holds model.handle session.world)
    (hquiet : call.IsQuiet library model session) :
    call.result library model session = call.answer account model := by
  rw [result_eq, answer]
  cases hprepare : (call.parser library).prepare call.text? (some model) with
  | error fault =>
    rw [(perform_of_error session hprepare).1]
    rfl
  | ok prepared =>
    obtain ⟨hperform, -, htells⟩ := perform_of_ok session horderly hprepare
    obtain rfl := model_of_prepare hprepare
    rw [hperform]
    cases hconsult : (call.consult library prepared).perform session.world with
    | mk outcome world =>
      rw [hconsult] at htells
      cases outcome with
      | error fault =>
        obtain ⟨-, event, hevent, hfailure⟩ := htells
        rw [hquiet event hevent] at hfailure
        cases hfailure
      | ok verdict =>
        rw [account.consult_yields call.withMarginals prepared.model _ session.world h verdict world
          hconsult]
        rfl

end Call

/-! ### Opening a tagger -/

/-- A call that creates a tagger or opens a model with it. -/
def Library.Event.isOpening : Event → Bool
  | .created => true
  | .opened _ => true
  | _ => false

/-- The calls for a name, by whether the handle keeps a tagger open before them and behind them. -/
inductive Attempt : Bool → List Event → Bool → Prop
  /-- The library is not consulted. -/
  | idle : Attempt false [] false
  | failed (fault : Fault) : Attempt false [.created, .opened (.error fault)] false
  | opened {events : List Event} (h : ∀ event ∈ events, event.isOpening = false) :
      Attempt false (Library.opening ++ events) true
  | kept {events : List Event} (h : ∀ event ∈ events, event.isOpening = false) :
      Attempt true events true

/-- A handle keeps a tagger open. -/
def Handle.isOpen (handle : Handle) (world : World σ τ) : Bool :=
  (world.taggers.lookup handle.serial).isSome

namespace Library

variable {library : Library σ τ}

/-- Nothing is opened for a verdict. -/
theorem judge_opens_nothing (horderly : library.IsOrderly) (withMarginals : Bool)
    (tokens : List (Vector Float)) (tagger : τ) (s : σ) (log : List Event) :
    ∃ events, ((library.watched.judge withMarginals tokens tagger).perform (s, log)).2.2 =
        log ++ events ∧ ∀ event ∈ events, event.isOpening = false := by
  obtain ⟨events, hperform, -⟩ := hears_judge horderly withMarginals tokens tagger s log
  have hlog : ((library.watched.judge withMarginals tokens tagger).perform (s, log)).2.2 =
      log ++ events := congrArg (fun result => result.2.2) hperform
  have hkeeps : Action.Keeps (fun s : σ × List Event => s.2.filter Event.isOpening)
      (library.watched.judge withMarginals tokens tagger) := by
    have hlogged {α : Type} (action : Action σ α) {event : Except Fault α → Event}
        (hevent : ∀ outcome, (event outcome).isOpening = false) :
        Action.Keeps (fun s : σ × List Event => s.2.filter Event.isOpening)
          (action.logged event) := by
      intro s
      show (s.2 ++ [event _]).filter Event.isOpening = _
      rw [List.filter_append, List.filter_cons_of_neg (by rw [hevent]; exact Bool.false_ne_true),
        List.filter_nil, List.append_nil]
    rw [judge]
    refine (hlogged _ fun _ => rfl).bind fun _ => (hlogged _ fun _ => rfl).bind fun labels =>
      (hlogged _ fun _ => rfl).bind fun score => ?_
    cases withMarginals with
    | false => exact .pure _
    | true => exact (Action.Keeps.mapM (fun _ => hlogged _ fun _ => rfl) _).bind fun _ => .pure _
  refine ⟨events, hlog, fun event hevent => Bool.eq_false_iff.2 fun hopening => ?_⟩
  -- an event of this kind would be found among those of the log
  have hnone : events.filter Event.isOpening = [] := by
    simpa only [hlog, List.filter_append, List.append_right_eq_self] using hkeeps (s, log)
  exact List.filter_eq_nil_iff.1 hnone event hevent hopening

/-- A verdict is asked for with the tagger of a world, whose taggers it leaves alone. -/
theorem taggers_judge (horderly : library.IsOrderly) {withMarginals : Bool}
    {tokens : List (Vector Float)} (tagger : τ) (world : World σ τ) {world' : World σ τ}
    (log : List Event) {events : List Event} {outcome : Except Fault Verdict}
    (h : (World.withLibrary (library.watched.judge withMarginals tokens tagger)).perform
      (world.watched log) = (outcome, world'.watched events)) :
    world'.taggers = world.taggers ∧
      ∃ later, events = log ++ later ∧ ∀ event ∈ later, event.isOpening = false := by
  rw [Action.perform_withLibrary] at h
  obtain ⟨later, hlater, hquiet⟩ :=
    library.judge_opens_nothing horderly withMarginals tokens tagger world.library log
  refine ⟨(congrArg (fun result => result.2.taggers) h).symm, later, ?_, hquiet⟩
  rw [← hlater]
  exact (congrArg (fun result => result.2.library.2) h).symm

/-- What the calls behind a consultation tell about the tagger of the handle. -/
theorem consult_attempt (horderly : library.IsOrderly) (withMarginals : Bool) (model : Model)
    (tokens : List (Vector Float)) (world : World σ τ) {world' : World σ τ} {events : List Event}
    {outcome : Except Fault Verdict}
    (h : (library.watched.consult withMarginals model tokens).perform (world.watched []) =
      (outcome, world'.watched events)) :
    Attempt (model.handle.isOpen world) events (model.handle.isOpen world') := by
  rw [consult, Action.perform_bind, Handle.perform_tagger] at h
  have hwatched : (world.watched []).taggers = world.taggers := rfl
  rw [hwatched] at h
  cases hlookup : world.taggers.lookup model.handle.serial with
  | some tagger =>
    rw [hlookup] at h
    obtain ⟨htaggers, later, rfl, hquiet⟩ := taggers_judge horderly tagger world [] h
    rw [Handle.isOpen, Handle.isOpen, htaggers, hlookup]
    exact .kept hquiet
  | none =>
    rw [hlookup, Handle.perform_openTagger] at h
    have hopen : (library.watched.openModel (library.watched.create.run (world.library, [])).1
        model.handle.content).perform (library.watched.create.run (world.library, [])).2 =
      (((library.openModel (library.create.run world.library).1 model.handle.content).perform
          (library.create.run world.library).2).1,
        ((library.openModel (library.create.run world.library).1 model.handle.content).perform
          (library.create.run world.library).2).2,
        [.created, .opened ((library.openModel (library.create.run world.library).1
          model.handle.content).perform (library.create.run world.library).2).1]) := rfl
    have hlibrary : (world.watched []).library = (world.library, []) := rfl
    rw [hlibrary, hopen] at h
    generalize (library.openModel (library.create.run world.library).1 model.handle.content).perform
      (library.create.run world.library).2 = result at h
    obtain ⟨opened, s⟩ := result
    cases opened with
    | error fault =>
      have hevents : [.created, .opened (.error fault)] = events :=
        congrArg (fun result => result.2.library.2) h
      have htaggers : world.taggers = world'.taggers :=
        congrArg (fun result => result.2.taggers) h
      rw [Handle.isOpen, Handle.isOpen, ← htaggers, hlookup, ← hevents]
      exact .failed fault
    | ok _ =>
      let tagger := (library.create.run world.library).1
      obtain ⟨htaggers, later, rfl, hquiet⟩ := taggers_judge horderly tagger
        ⟨s, world.issued, (model.handle.serial, tagger) :: world.taggers⟩ opening h
      rw [Handle.isOpen, Handle.isOpen, htaggers, hlookup, List.lookup_cons_self]
      exact .opened hquiet

end Library

section

variable {library : Library σ τ}

theorem Call.attempt (horderly : library.IsOrderly) (call : Call) (model : Model)
    (session : Session σ τ) :
    Attempt (model.handle.isOpen session.world) (call.events library model session)
      (model.handle.isOpen (Request.apply library model session (.decode call)).world) := by
  rw [Request.apply, Call.perform_decodeIn]
  cases hprepare : (call.parser library).prepare call.text? (some model) with
  | error fault =>
    obtain ⟨hperform, hevents⟩ := Call.perform_of_error session hprepare
    rw [hperform, hevents]
    cases model.handle.isOpen session.world with
    | false => exact .idle
    | true => exact .kept (List.forall_mem_nil _)
  | ok prepared =>
    obtain ⟨hperform, hwatched, -⟩ := Call.perform_of_ok session horderly hprepare
    obtain rfl := Call.model_of_prepare hprepare
    rw [hperform]
    exact library.consult_attempt horderly call.withMarginals prepared.model _ session.world
      hwatched

/-! ### One request after another -/

/-- Whatever is asked of a session, the tagger of the handle stays good. -/
theorem Request.holds_apply (horderly : library.IsOrderly) (account : library.Account)
    (model : Model) {session : Session σ τ} (h : account.Holds model.handle session.world)
    (request : Request) :
    account.Holds model.handle (request.apply library model session).world := by
  have hexamine := account.holds_examine model.handle
  have hissue : Action.Preserves (account.Holds model.handle) World.issue := fun _ hworld => hworld
  cases request with
  | decode call =>
    rw [apply, Call.perform_decodeIn]
    exact Call.holds_decode horderly account call model h
  | load name source version? =>
    exact Session.preserves_loadModel hexamine hissue name source version? session h
  | loadStored name? row? => exact Session.preserves_loadStored hexamine hissue name? row? session h
  | unload name => exact h

theorem holds_run (horderly : library.IsOrderly) (account : library.Account) (model : Model)
    {session : Session σ τ} (h : account.Holds model.handle session.world)
    (requests : List Request) :
    account.Holds model.handle (session.run library model requests).world := by
  induction requests generalizing session with
  | nil => exact h
  | cons request requests ih => exact ih (request.holds_apply horderly account model h)

/-- Only names that are parsed use the taggers of handles. -/
theorem Request.isOpen_apply (model : Model) (session : Session σ τ) (request : Request)
    (hrequest : ∀ call, request ≠ .decode call) :
    model.handle.isOpen (request.apply library model session).world =
      model.handle.isOpen session.world := by
  have hexamine (content : ByteArray) : Action.Preserves
      (fun world : World σ τ => world.taggers = session.world.taggers)
      (World.withLibrary (library.examine content)) := fun _ hworld => hworld
  have hissue : Action.Preserves (fun world : World σ τ => world.taggers = session.world.taggers)
      World.issue := fun _ hworld => hworld
  have htaggers : (request.apply library model session).world.taggers = session.world.taggers := by
    cases request with
    | decode call => exact absurd rfl (hrequest call)
    | load name source version? =>
      exact Session.preserves_loadModel hexamine hissue name source version? session rfl
    | loadStored name? row? =>
      exact Session.preserves_loadStored hexamine hissue name? row? session rfl
    | unload name => rfl
  rw [Handle.isOpen, htaggers]
  rfl

/-- The calls for several names: a tagger is created and opened, again and again until that
succeeds, and never more. -/
inductive OpensOnce : List (List Event) → Prop
  | nil : OpensOnce []
  /-- The library is not consulted. -/
  | idle {calls : List (List Event)} (h : OpensOnce calls) : OpensOnce ([] :: calls)
  | failed (fault : Fault) {calls : List (List Event)} (h : OpensOnce calls) :
      OpensOnce ([.created, .opened (.error fault)] :: calls)
  | opened {events : List Event} {calls : List (List Event)}
      (h : ∀ event ∈ events ++ calls.flatten, event.isOpening = false) :
      OpensOnce ((Library.opening ++ events) :: calls)

theorem callEvents_cons (library : Library σ τ) (model : Model) (session : Session σ τ)
    (request : Request) (requests : List Request) :
    (∃ call, request = .decode call ∧ session.callEvents library model (request :: requests) =
      call.events library model session ::
        (request.apply library model session).callEvents library model requests) ∨
    (∀ call, request ≠ .decode call) ∧ session.callEvents library model (request :: requests) =
      (request.apply library model session).callEvents library model requests := by
  cases request with
  | decode call => exact .inl ⟨call, rfl, rfl⟩
  | _ => exact .inr ⟨by rintro call ⟨⟩, rfl⟩

/-- Once a tagger is open, no further one is. -/
theorem opens_nothing (horderly : library.IsOrderly) (model : Model) {session : Session σ τ}
    (h : model.handle.isOpen session.world = true) (requests : List Request) :
    ∀ event ∈ (session.callEvents library model requests).flatten, event.isOpening = false := by
  induction requests generalizing session with
  | nil => exact List.forall_mem_nil _
  | cons request requests ih =>
    rcases callEvents_cons library model session request requests with
      ⟨call, rfl, hcalls⟩ | ⟨hrequest, hcalls⟩
    · have hattempt := call.attempt horderly model session
      rw [h] at hattempt
      rw [hcalls, List.flatten_cons]
      generalize hopen : model.handle.isOpen
        (Request.apply library model session (.decode call)).world = isOpen at hattempt
      cases hattempt with
      | kept hquiet => exact List.forall_mem_append.2 ⟨hquiet, ih hopen⟩
    · rw [hcalls]
      exact ih ((request.isOpen_apply model session hrequest).trans h)

/-- A tagger is opened once. -/
theorem opensOnce_callEvents (horderly : library.IsOrderly) (model : Model)
    {session : Session σ τ} (h : model.handle.isOpen session.world = false)
    (requests : List Request) : OpensOnce (session.callEvents library model requests) := by
  induction requests generalizing session with
  | nil => exact .nil
  | cons request requests ih =>
    rcases callEvents_cons library model session request requests with
      ⟨call, rfl, hcalls⟩ | ⟨hrequest, hcalls⟩
    · have hattempt := call.attempt horderly model session
      rw [h] at hattempt
      rw [hcalls]
      generalize hopen : model.handle.isOpen
        (Request.apply library model session (.decode call)).world = isOpen at hattempt
      generalize call.events library model session = events at hattempt
      cases hattempt with
      | idle => exact .idle (ih hopen)
      | failed fault => exact .failed fault (ih hopen)
      | opened hquiet =>
        exact .opened (List.forall_mem_append.2
          ⟨hquiet, opens_nothing horderly model hopen requests⟩)
    · rw [hcalls]
      exact ih ((request.isOpen_apply model session hrequest).trans h)

/-- Names that are parsed one after another do not matter to each other, whatever calls to the
library failed and whatever models were loaded between them.  A name for which no call fails comes
to what the model says about it, which is what it comes to as the first name of another handle.  The
tagger of the handle is opened once. -/
theorem result_run (horderly : library.IsOrderly) (account : library.Account) (model : Model)
    {session : Session σ τ} (hstart : session.world.taggers.lookup model.handle.serial = none) :
    (∀ (requests : List Request) (call : Call),
      call.IsQuiet library model (session.run library model requests) →
      call.result library model (session.run library model requests) =
        call.answer account model ∧
      ∀ (first : Session σ τ) (serial : Nat), first.world.taggers.lookup serial = none →
        call.IsQuiet library (model.renumbered serial) first →
        call.result library (model.renumbered serial) first =
          call.result library model (session.run library model requests)) ∧
    ∀ requests, OpensOnce (session.callEvents library model requests) := by
  have hholds : account.Holds model.handle session.world :=
    account.holds_of_lookup_eq_none hstart
  refine ⟨fun requests call hquiet => ?_, opensOnce_callEvents horderly model ?_⟩
  · have hresult := Call.result_eq_answer horderly account
      (holds_run horderly account model hholds requests) hquiet
    refine ⟨hresult, fun first serial hfirst hquiet' => ?_⟩
    have hholds' : account.Holds (model.renumbered serial).handle first.world :=
      account.holds_of_lookup_eq_none hfirst
    rw [hresult, Call.result_eq_answer horderly account hholds' hquiet',
      Call.answer_renumbered account call model serial]
  · rw [Handle.isOpen, hstart]
    rfl

end

/-! ### A library whose failures are known beforehand -/

/-- The state of a library with what is to come of its calls and with what its taggers hold. -/
structure Scripted where
  /-- Whether the next calls fail. -/
  failures : List Bool
  created : Nat
  /-- The content and the chosen name of a tagger. -/
  held : Nat → Option ByteArray × Option (List (Vector Float))

namespace Scripted

/-- Change what a tagger holds. -/
def put (s : Scripted) (tagger : Nat) (entry : Option ByteArray × Option (List (Vector Float))) :
    Scripted :=
  { s with held := fun other => if other = tagger then entry else s.held other }

/-- The content of a tagger that was created. -/
def content? (s : Scripted) (tagger : Nat) : Option ByteArray :=
  if tagger < s.created then (s.held tagger).1 else none

/-- A call, or else its failure, which may spoil what taggers hold. -/
def call {α : Type} (spoil : Scripted → Scripted) (answer : Scripted → Except Fault α × Scripted) :
    Action Scripted α :=
  ExceptT.mk fun s =>
    let next := { s with failures := s.failures.tail }
    if s.failures.headD false then (.error ⟨.runtime, "no answer"⟩, spoil next) else answer next

/-- The labels of a name, by the size of a model. -/
def labelsOf (content : ByteArray) (tokens : List (Vector Float)) : List String :=
  tokens.map fun _ => if content.size = 1 then "GIVEN" else "SURNAME"

/-- A library that fails as it is told to; a tagger that could not be opened is broken, and one that
could not choose a name has none. -/
def library : Library Scripted Nat where
  create s := (s.created, { s.put s.created (none, none) with created := s.created + 1 })
  openModel tagger content := call (·.put tagger (some .empty, none)) fun s =>
    if tagger < s.created then (.ok (), s.put tagger (some content, none))
    else (.error ⟨.value, "no tagger"⟩, s)
  close tagger s := ((), s.put tagger (none, none))
  labels _ := pure ["GIVEN", "SURNAME"]
  dump _ := pure ⟨[], [], .ofList [], .ofList []⟩
  choose tagger tokens := call (fun s => s.put tagger ((s.held tagger).1, none)) fun s =>
    (.ok (), s.put tagger ((s.held tagger).1, some tokens))
  tag tagger := call id fun s =>
    (.ok (labelsOf ((s.held tagger).1.getD .empty) ((s.held tagger).2.getD [])), s)
  probability _ _ := call id fun s => (.ok 0.5, s)
  marginal _ _ _ := call id fun s => (.ok 0.25, s)

theorem content?_put_of_ne (s : Scripted) {tagger other : Nat} (h : other ≠ tagger)
    (entry : Option ByteArray × Option (List (Vector Float))) :
    (s.put tagger entry).content? other = s.content? other := by
  simp [content?, put, h]

/-- The content of a tagger does not depend on the name that it was told to choose. -/
theorem content?_put_chosen (s : Scripted) (tagger : Nat)
    (chosen? : Option (List (Vector Float))) :
    (s.put tagger ((s.held tagger).1, chosen?)).content? = s.content? := by
  funext other
  by_cases h : other = tagger
  · simp [content?, put, h]
  · exact s.content?_put_of_ne h _

variable {α β : Type} {spoil : Scripted → Scripted}
  {answer : Scripted → Except Fault α × Scripted}

theorem perform_call (s : Scripted) :
    (call spoil answer).perform s =
      if s.failures.headD false then
        (.error ⟨.runtime, "no answer"⟩, spoil { s with failures := s.failures.tail })
      else answer { s with failures := s.failures.tail } := rfl

theorem keeps_call {view : Scripted → β}
    (hnext : ∀ s : Scripted, view { s with failures := s.failures.tail } = view s)
    (hspoil : ∀ s, view (spoil s) = view s) (hanswer : ∀ s, view (answer s).2 = view s) :
    Action.Keeps view (call spoil answer) := by
  intro s
  rw [perform_call]
  split
  · exact (hspoil _).trans (hnext s)
  · exact (hanswer _).trans (hnext s)

theorem yields_call {P : Scripted → Prop} {Q : α → Scripted → Prop}
    (hnext : ∀ s : Scripted, P s → P { s with failures := s.failures.tail })
    (hanswer : ∀ s, P s → ∀ a s', answer s = (.ok a, s') → Q a s') :
    Action.Yields P (call spoil answer) Q := by
  intro s hs a s' hperform
  rw [perform_call] at hperform
  split at hperform
  · cases hperform
  · exact hanswer _ (hnext s hs) a s' hperform

theorem isOrderly_call
    (hanswer : ∀ s fault, (answer s).1 = .error fault → fault.IsOrderly) :
    (call spoil answer).IsOrderly := by
  intro s fault h
  rw [perform_call] at h
  split at h
  · cases h
    exact (by decide : (FaultKind.runtime.isA .value || FaultKind.runtime.isA .runtime) = true)
  · exact hanswer _ fault h

theorem isOrderly_library : library.IsOrderly where
  openModel tagger content := by
    refine isOrderly_call fun s fault h => ?_
    split at h
    · cases h
    · cases h
      exact (by decide : (FaultKind.value.isA .value || FaultKind.value.isA .runtime) = true)
  choose _ _ := isOrderly_call fun _ _ h => nomatch h
  tag _ := isOrderly_call fun _ _ h => nomatch h
  probability _ _ := isOrderly_call fun _ _ h => nomatch h
  marginal _ _ _ := isOrderly_call fun _ _ h => nomatch h

/-- What the taggers of the library hold. -/
def account : library.Account where
  content? := content?
  chosen? s tagger := (s.held tagger).2
  labels := labelsOf
  score _ _ _ := 0.5
  marginal _ _ _ _ := 0.25
  create_new s := if_neg (Nat.lt_irrefl s.created)
  create_keeps s := by
    funext other
    show (if other < s.created + 1 then (if other = s.created then _ else s.held other).1 else none)
      = if other < s.created then (s.held other).1 else none
    by_cases h : other = s.created
    · simp [h]
    · have hlt : other < s.created + 1 ↔ other < s.created := by omega
      simp [h, hlt]
  open_yields tagger content := by
    dsimp only [library]
    refine yields_call (P := fun _ => True) (fun _ _ => trivial) fun s _ a s' h => ?_
    split at h
    · next hcreated =>
      cases h
      show (if tagger < s.created then (if tagger = tagger then _ else s.held tagger).1
        else none) = _
      rw [if_pos hcreated, if_pos rfl]
    · cases h
  open_others tagger content other hother := by
    dsimp only [library]
    refine keeps_call ?_ ?_ ?_
    · exact fun _ => rfl
    · exact fun s => s.content?_put_of_ne hother _
    · intro s
      split
      · exact s.content?_put_of_ne hother _
      · rfl
  close_others tagger s other hother := s.content?_put_of_ne hother _
  labels_keeps _ := fun _ => rfl
  dump_keeps _ := fun _ => rfl
  choose_keeps tagger tokens :=
    keeps_call (fun _ => rfl) (fun s => s.content?_put_chosen tagger none)
      fun s => s.content?_put_chosen tagger (some tokens)
  tag_keeps _ := keeps_call (fun _ => rfl) (fun _ => rfl) fun _ => rfl
  probability_keeps _ _ := keeps_call (fun _ => rfl) (fun _ => rfl) fun _ => rfl
  marginal_keeps _ _ _ := keeps_call (fun _ => rfl) (fun _ => rfl) fun _ => rfl
  choose_yields tagger tokens := by
    dsimp only [library]
    refine yields_call (P := fun _ => True) (fun _ _ => trivial) ?_
    rintro s - a s' ⟨⟩
    show (if tagger = tagger then _ else s.held tagger).2 = some tokens
    rw [if_pos rfl]
  tag_yields tagger content tokens := by
    dsimp only [library]
    refine yields_call ?_ ?_
    · exact fun _ hs => hs
    · rintro s ⟨hcontent, hchosen⟩ a s' ⟨⟩
      rw [content?] at hcontent
      split at hcontent
      · exact ⟨by rw [hcontent, hchosen]; rfl, hchosen⟩
      · cases hcontent
  probability_yields _ _ _ _ := by
    dsimp only [library]
    refine yields_call ?_ ?_
    · exact fun _ hs => hs
    · rintro s ⟨-, hchosen⟩ a s' ⟨⟩
      exact ⟨rfl, hchosen⟩
  marginal_yields _ _ _ _ _ := by
    dsimp only [library]
    refine yields_call ?_ ?_
    · exact fun _ hs => hs
    · rintro s ⟨-, hchosen⟩ a s' ⟨⟩
      exact ⟨rfl, hchosen⟩

/-- The model of the names below, with a content of one byte. -/
def model : Model :=
  Model.featureless.withHandle ⟨0, ⟨#[1]⟩, .ofList [], .ofList [], ["GIVEN", "SURNAME"]⟩

/-- A session in which opening a tagger fails first, and then choosing a name. -/
def session : Session Scripted Nat where
  env := ⟨none, "/home", []⟩
  files := .empty []
  registry := .empty .null
  groups? := none
  world := .initial ⟨[true, false, false, true], 0, fun _ => (none, none)⟩

/-- Two names that cannot be parsed, and a model that comes and goes. -/
def requests : List Request :=
  [.decode ⟨true, .all, 0.5, some "Jane Doe"⟩, .load "other" (.bytes ⟨#[2, 2]⟩) none,
    .decode ⟨true, .all, 0.5, some "John Smith"⟩, .unload "other"]

/-- The name behind them. -/
def last : Call := ⟨true, .all, 0.5, some "Ann Lee"⟩

/-- The script has come to its end when the library is consulted about the last name. -/
theorem isQuiet_last : last.IsQuiet library model (session.run library model requests) := by
  let prepared : Parser.Prepared := ⟨model, Token.ofText "Ann Lee", Instance.recognize model.attrs
    ((Token.ofText "Ann Lee").map Feature.Cell.ofToken) Feature.Group.names⟩
  have hprepare : (last.parser library).prepare last.text? (some model) = .ok prepared :=
    Parser.prepare_eq_ok _ rfl (by decide +kernel) (GroupChoice.names_ofNames Feature.Group.names)
  have hevents : last.events library model (session.run library model requests) =
      ((last.consult library.watched prepared).perform
        ((session.run library model requests).world.watched [])).2.library.2 :=
    (congrArg (fun result => result.2.library.2) (Call.perform_of_ok
      (session.run library model requests) isOrderly_library hprepare).2.1).symm
  rw [Call.IsQuiet, hevents]
  decide +kernel

/-- The third name is parsed as if it were the first one. -/
theorem result_run_failures :
    library.IsOrderly ∧ session.world.taggers.lookup model.handle.serial = none ∧
      last.IsQuiet library model (session.run library model requests) ∧
      last.result library model (session.run library model requests) =
          last.answer account model ∧
      OpensOnce (session.callEvents library model requests) := by
  have hclosed : session.world.taggers.lookup model.handle.serial = none := rfl
  have hrun := result_run isOrderly_library account model hclosed
  exact ⟨isOrderly_library, hclosed, isQuiet_last, (hrun.1 requests last isQuiet_last).1,
    hrun.2 requests⟩

end Scripted

end NameTagger
