import NameTagger.Proofs.Parse.Prepare
import NameTagger.Proofs.Parse.Verdict
import NameTagger.Session

/-!
# What comes of a name

A name is parsed or there is one of three failures, which can be told from the model, the tokens and
the calls to the library.

* `Library.consult`, `Library.hears_consult`: the calls for a name;
* `Parser.perform_decode`, `Parser.perform_decode_of_error`, `Session.perform_decode_liftTagger`:
  parsing a name in terms of these calls;
* `Library.IsTroubled`, `Parser.Outcome`: calls that do not label a name, and what comes of a name;
* `Parser.exists_outcome`, `decode_outcome`: every name comes to that, in a session too.
-/

namespace NameTagger

open Library (Event)

variable {σ τ α : Type}

/-! ### The calls for a name -/

namespace Library

/-- Ask a library about a name with the tagger of a model. -/
def consult (library : Library σ τ) (withMarginals : Bool) (model : Model)
    (tokens : List (Vector Float)) : Action (World σ τ) Verdict := do
  let tagger ← model.handle.tagger library
  World.withLibrary (library.judge withMarginals tokens tagger)

theorem hears_consult {library : Library σ τ} (horderly : library.IsOrderly) (withMarginals : Bool)
    (model : Model) (tokens : List (Vector Float)) :
    Action.Hears World.watched (library.watched.consult withMarginals model tokens)
      (library.consult withMarginals model tokens) fun verdict events =>
        (∃ before, (before = [] ∨ before = opening) ∧
          events = before ++ verdict.events tokens) ∧ verdict.IsWhole withMarginals := by
  rw [consult, consult]
  refine (hears_tagger horderly model.handle).bind fun tagger => ?_
  refine (hears_judge horderly withMarginals tokens tagger).withLibrary.mono ?_
  rintro verdict _ ⟨rfl, hwhole⟩ before hbefore
  exact ⟨⟨before, hbefore, rfl⟩, hwhole⟩

end Library

namespace Parser

variable {milliseconds : Float} {text? : Option String} {model? : Option Model}

/-- A name that is not labeled comes to a fault, and nothing is done. -/
theorem perform_decode_of_error {parser : Parser σ} {fault : Fault}
    (hprepare : parser.prepare text? model? = .error fault) (s : σ) :
    (parser.decode milliseconds text? model?).perform s = (.error fault, s) := by
  rw [decode, hprepare]
  rfl

theorem decode_eq_bind {parser : Parser σ} {prepared : Prepared}
    (hprepare : parser.prepare text? model? = .ok prepared) :
    parser.decode milliseconds text? model? =
      parser.tagger.best prepared.model prepared.inst >>= fun tagging =>
        Action.ofExcept (prepared.named milliseconds tagging) := by
  rw [decode, hprepare]
  refine congrArg (parser.tagger.best prepared.model prepared.inst >>= ·) (funext fun tagging => ?_)
  rw [Prepared.named]
  cases tagging.tokens prepared.model prepared.tokens <;> rfl

/-- A name that is labeled is what the calls for it give. -/
theorem perform_decode {library : Library σ τ} {withMarginals : Bool} {choice : GroupChoice}
    {prepared : Prepared} (world : World σ τ)
    (hprepare : (⟨library.cachingTagger withMarginals, choice⟩ : Parser _).prepare text? model? =
      .ok prepared) :
    ((⟨library.cachingTagger withMarginals, choice⟩ : Parser _).decode milliseconds text?
        model?).perform world =
      (prepared.read milliseconds ((library.consult withMarginals prepared.model
          (prepared.inst.toVectors prepared.model.attrs)).perform world).1,
        ((library.consult withMarginals prepared.model
          (prepared.inst.toVectors prepared.model.attrs)).perform world).2) := by
  have hbest : (library.cachingTagger withMarginals).best prepared.model prepared.inst =
      (library.consult withMarginals prepared.model
        (prepared.inst.toVectors prepared.model.attrs)).mapFault taggingFault >>= fun verdict =>
          Action.ofExcept (verdict.tagging prepared.model.labels) := rfl
  rw [decode_eq_bind hprepare, Action.perform_bind_ofExcept, hbest, Action.perform_bind_ofExcept,
    Action.perform_mapFault]
  rfl

end Parser

/-- The tagger of a session changes nothing but the opened models. -/
theorem Session.perform_decode_liftTagger (tagger : Tagger (World σ τ)) (choice : GroupChoice)
    (milliseconds : Float) (text? : Option String) (model? : Option Model)
    (session : Session σ τ) :
    ((⟨liftTagger tagger, choice⟩ : Parser _).decode milliseconds text? model?).perform session =
      ((((⟨tagger, choice⟩ : Parser _).decode milliseconds text? model?).perform session.world).1,
        { session with world :=
          (((⟨tagger, choice⟩ : Parser _).decode milliseconds text? model?).perform
            session.world).2 }) := by
  have hlift : (⟨liftTagger tagger, choice⟩ : Parser (Session σ τ)).prepare text? model? =
      (⟨tagger, choice⟩ : Parser _).prepare text? model? := rfl
  cases hprepare : (⟨tagger, choice⟩ : Parser _).prepare text? model? with
  | error fault =>
    rw [Parser.perform_decode_of_error hprepare]
    exact Parser.perform_decode_of_error (hlift.trans hprepare) session
  | ok prepared =>
    rw [Parser.decode_eq_bind hprepare, Parser.decode_eq_bind (hlift.trans hprepare),
      Action.perform_bind_ofExcept, Action.perform_bind_ofExcept]
    rfl

/-! ### What comes of a name -/

/-- A result is a failure of a kind. -/
def FailsAs (kind : FaultKind) (result : Except Fault α) : Prop :=
  ∃ message, result = .error ⟨kind, message⟩

/-- Calls to a library do not label a name: one of them failed, or the labels are not all in the
model, or there are not as many of them as tokens. -/
def Library.IsTroubled (model : Model) (tokens : List Token) (events : List Event) : Prop :=
  (∃ event ∈ events, event.isFailure = true) ∨
    ∃ labels, .tagged (.ok labels) ∈ events ∧
      ((∃ label ∈ labels, label ∉ model.labels.strings) ∨ labels.length ≠ tokens.length)

/-- A token is parsed as it was labeled in calls to a library. -/
structure ParsedToken.Shows (withMarginals : Bool) (text : String) (events : List Event) (i : Nat)
    (token : Token) (label : String) (parsed : ParsedToken) : Prop where
  text_eq : parsed.text = token.text
  /-- The text stands in the name between the two offsets. -/
  span_eq : (text.toList.take parsed.stop).drop parsed.start = parsed.text.toList
  label_eq : parsed.label = Label.rename label
  confidence_eq : if withMarginals then
      ∃ confidence, parsed.confidence = some confidence ∧
        .weighed label i (.ok confidence) ∈ events
    else parsed.confidence = none

/-- A token is parsed as it was labeled in the calls that lead to a verdict. -/
theorem ParsedToken.shows_of_verdict {withMarginals : Bool} {text : String} {events : List Event}
    {verdict : Verdict} {vectors : List (Vector Float)} {i : Nat} {token : Token} {label : String}
    (hwhole : verdict.IsWhole withMarginals)
    (hevents : ∀ event ∈ verdict.events vectors, event ∈ events)
    (htoken : token ∈ Token.ofText text) (hlabel : verdict.labels[i]? = some label) :
    Shows withMarginals text events i token label
      (token.parsed (Label.rename label) (verdict.confidence i)) where
  text_eq := rfl
  span_eq := Token.ofText_span htoken
  label_eq := rfl
  confidence_eq := by
    rcases hwhole.cases with ⟨rfl, hmarginals⟩ | ⟨rfl, marginals, hmarginals, hlength⟩
    · rw [if_neg Bool.false_ne_true]
      exact congrArg (·.bind (·[i]?)) hmarginals
    · obtain ⟨hi, -⟩ := List.getElem?_eq_some_iff.1 hlabel
      have hconfidence : verdict.confidence i = some marginals[i] := by
        rw [Verdict.confidence, hmarginals]
        exact List.getElem?_eq_getElem (hlength ▸ hi)
      refine ⟨marginals[i], hconfidence, hevents _ (Verdict.weighed_mem_events hlabel ?_)⟩
      rw [hmarginals]
      exact List.getElem?_eq_getElem (hlength ▸ hi)

/-- What comes of a name, told by the model, the tokens and the calls to the library. -/
structure Parser.Outcome (withMarginals : Bool) (text : String) (model? : Option Model)
    (events : List Event) (result : Except Fault ParsedName) : Prop where
  modelNotLoaded : FailsAs .modelNotLoaded result ↔ ∀ model ∈ model?, model.isLoaded = false
  emptyInput : FailsAs .emptyInput result ↔
    (∃ model ∈ model?, model.isLoaded = true) ∧ Token.ofText text = []
  prediction : FailsAs .prediction result ↔
    ∃ model ∈ model?, model.isLoaded = true ∧ Token.ofText text ≠ [] ∧
      Library.IsTroubled model (Token.ofText text) events
  /-- There are no other failures. -/
  kind : ∀ fault, result = .error fault →
    fault.kind = .modelNotLoaded ∨ fault.kind = .emptyInput ∨ fault.kind = .prediction
  /-- Without a model or a token the library is not called. -/
  silent : (∀ model ∈ model?, model.isLoaded = false) ∨ Token.ofText text = [] → events = []
  /-- In all other cases the name is parsed. -/
  parsed : ∀ model ∈ model?, model.isLoaded = true → Token.ofText text ≠ [] →
    ¬Library.IsTroubled model (Token.ofText text) events →
      ∃ labels parsed, .tagged (.ok labels) ∈ events ∧ result = .ok parsed ∧
        labels.length = (Token.ofText text).length ∧
        parsed.tokens.length = (Token.ofText text).length ∧
        ∀ i token, (Token.ofText text)[i]? = some token →
          ∃ label parsedToken, labels[i]? = some label ∧ parsed.tokens[i]? = some parsedToken ∧
            ParsedToken.Shows withMarginals text events i token label parsedToken

/-- Calls that lead to a verdict label a name if its labels are in the model, and as many as the
tokens. -/
theorem Library.isTroubled_iff {model : Model} {tokens : List Token} {events before : List Event}
    {verdict : Verdict} {vectors : List (Vector Float)}
    (hquiet : ∀ event ∈ events, event.isFailure = false) (hbefore : before = [] ∨ before = opening)
    (hevents : events = before ++ verdict.events vectors) :
    IsTroubled model tokens events ↔
      (∃ label ∈ verdict.labels, label ∉ model.labels.strings) ∨
        verdict.labels.length ≠ tokens.length := by
  have hfailure : ¬∃ event ∈ events, event.isFailure = true :=
    fun ⟨event, hmem, hfailure⟩ => Bool.false_ne_true ((hquiet event hmem).symm.trans hfailure)
  have htagged (labels : List String) :
      .tagged (.ok labels) ∈ events ↔ labels = verdict.labels := by
    have hnot : .tagged (.ok labels) ∉ before := by
      rcases hbefore with rfl | rfl <;> simp [opening]
    rw [hevents, List.mem_append, Verdict.tagged_mem_events, or_iff_right hnot]
  rw [IsTroubled, or_iff_right hfailure]
  simp only [htagged, exists_eq_left]

theorem failsAs_error_iff {kind : FaultKind} {fault : Fault} :
    FailsAs kind (.error fault : Except Fault α) ↔ fault.kind = kind := by
  constructor
  · rintro ⟨message, hfault⟩
    exact congrArg Fault.kind (Except.error.inj hfault)
  · rintro rfl
    exact ⟨fault.message, rfl⟩

theorem not_failsAs_ok {kind : FaultKind} {a : α} : ¬FailsAs kind (.ok a) :=
  fun ⟨_, h⟩ => nomatch h

namespace Parser.Outcome

variable {withMarginals : Bool} {text : String} {model : Model} {events : List Event}

theorem of_unloaded {model? : Option Model} (hmodel : ∀ model ∈ model?, model.isLoaded = false)
    (message : String) :
    Outcome withMarginals text model? [] (.error ⟨.modelNotLoaded, message⟩) := by
  cases model? with
  | none => constructor <;> simp [failsAs_error_iff]
  | some model =>
    have hloaded : model.isLoaded = false := hmodel model rfl
    constructor <;> simp [failsAs_error_iff, hloaded]

variable (hmodel : model.isLoaded = true)

include hmodel

theorem of_empty (htokens : Token.ofText text = []) (message : String) :
    Outcome withMarginals text (some model) [] (.error ⟨.emptyInput, message⟩) := by
  constructor <;> simp [failsAs_error_iff, hmodel, htokens]

variable (htokens : Token.ofText text ≠ [])

include htokens

theorem of_troubled (htroubled : Library.IsTroubled model (Token.ofText text) events)
    (message : String) :
    Outcome withMarginals text (some model) events (.error ⟨.prediction, message⟩) := by
  constructor <;> simp [failsAs_error_iff, hmodel, htokens, htroubled]

/-- A verdict on all tokens, with labels of the model, is what a name is parsed by. -/
theorem of_verdict {verdict : Verdict} {vectors : List (Vector Float)} {before : List Event}
    {parsed : ParsedName} (hwhole : verdict.IsWhole withMarginals)
    (hevents : events = before ++ verdict.events vectors)
    (htroubled : ¬Library.IsTroubled model (Token.ofText text) events)
    (hlength : verdict.labels.length = (Token.ofText text).length)
    (hparsed : parsed.tokens = verdict.tokens (Token.ofText text)) :
    Outcome withMarginals text (some model) events (.ok parsed) where
  modelNotLoaded := by simp [not_failsAs_ok, hmodel]
  emptyInput := by simp [not_failsAs_ok, htokens]
  prediction := by simp [not_failsAs_ok, htroubled]
  kind := by simp
  silent := by simp [hmodel, htokens]
  parsed := by
    intro _ _ _ _ _
    have hanswer : .tagged (.ok verdict.labels) ∈ events :=
      hevents ▸ List.mem_append_right _ (Verdict.tagged_mem_events.2 rfl)
    refine ⟨verdict.labels, parsed, hanswer, rfl, hlength, ?_, ?_⟩
    · rw [hparsed, Verdict.tokens, List.length_zipWith, List.length_map, hlength, Nat.min_self]
    intro i token htoken
    obtain ⟨hi, htext⟩ := List.getElem?_eq_some_iff.1 htoken
    have hlabel : verdict.labels[i]? = some verdict.labels[i] :=
      List.getElem?_eq_getElem (hlength ▸ hi)
    have hposition : token.position = i := Token.position_of_number htoken
    refine ⟨verdict.labels[i], _, hlabel, hparsed ▸ Verdict.getElem?_tokens htoken hlabel, ?_⟩
    rw [hposition]
    exact ParsedToken.shows_of_verdict hwhole
      (fun event hevent => hevents ▸ List.mem_append_right before hevent)
      (htext ▸ List.getElem_mem hi) hlabel

/-- The calls for a name tell what comes of it. -/
theorem of_tells {vectors : List (Vector Float)} {consulted : Except Fault Verdict}
    {inst : Instance Float} (milliseconds : Float)
    (htells : Action.Tells (fun verdict events =>
      (∃ before, (before = [] ∨ before = Library.opening) ∧
        events = before ++ verdict.events vectors) ∧ verdict.IsWhole withMarginals)
      consulted events) :
    Outcome withMarginals text (some model) events
      (Prepared.read ⟨model, Token.ofText text, inst⟩ milliseconds consulted) := by
  cases consulted with
  | error fault =>
    obtain ⟨horderly, hfailure⟩ := htells
    rw [Prepared.read_error _ _ horderly]
    exact of_troubled hmodel htokens (.inl hfailure) _
  | ok verdict =>
    obtain ⟨hquiet, ⟨before, hbefore, hevents⟩, hwhole⟩ := htells
    have htroubled := @Library.isTroubled_iff model (Token.ofText text) _ _ _ _ hquiet hbefore
      hevents
    by_cases hstrange : ∃ label ∈ verdict.labels, label ∉ model.labels.strings
    · obtain ⟨label, hread⟩ :=
        Prepared.read_strange ⟨model, Token.ofText text, inst⟩ milliseconds hstrange
      rw [hread]
      exact of_troubled hmodel htokens (htroubled.2 (.inl hstrange)) _
    have hlabels : ∀ label ∈ verdict.labels, label ∈ model.labels.strings := by
      simpa using hstrange
    by_cases hlength : verdict.labels.length = (Token.ofText text).length
    · rw [Prepared.read_eq_ok ⟨model, Token.ofText text, inst⟩ milliseconds hlabels hwhole
        (fun token htoken => Token.position_lt htoken) hlength]
      refine of_verdict hmodel htokens hwhole hevents (fun h => ?_) hlength rfl
      exact (htroubled.1 h).elim hstrange (· hlength)
    · rw [Prepared.read_count ⟨model, Token.ofText text, inst⟩ milliseconds hlabels hlength]
      exact of_troubled hmodel htokens (htroubled.2 (.inr hlength)) _

end Parser.Outcome

/-- Parsing a name comes to what the calls to the library tell. -/
theorem Parser.exists_outcome {library : Library σ τ} (horderly : library.IsOrderly)
    (withMarginals : Bool) {choice : GroupChoice} {groups : List String}
    (hgroups : choice.names = .ok groups) (milliseconds : Float) (text? : Option String)
    (model? : Option Model) (world : World σ τ) :
    ∃ result world' events,
      ((⟨library.cachingTagger withMarginals, choice⟩ : Parser _).decode milliseconds text?
          model?).perform world = (result, world') ∧
      ((⟨library.watched.cachingTagger withMarginals, choice⟩ : Parser _).decode milliseconds text?
          model?).perform (world.watched []) = (result, world'.watched events) ∧
      Outcome withMarginals (text?.getD "") model? events result := by
  cases hmodel : model?.filter (·.isLoaded) with
  | none =>
    have hunloaded : ∀ model ∈ model?, model.isLoaded = false := by
      simpa using Option.filter_eq_none_iff.1 hmodel
    exact ⟨_, world, [], perform_decode_of_error (prepare_modelNotLoaded _ hmodel) world,
      perform_decode_of_error (prepare_modelNotLoaded _ hmodel) _, .of_unloaded hunloaded _⟩
  | some model =>
    obtain ⟨rfl, hloaded⟩ := Option.filter_eq_some_iff.1 hmodel
    by_cases htokens : Token.ofText (text?.getD "") = []
    · exact ⟨_, world, [], perform_decode_of_error (prepare_emptyInput _ hloaded htokens) world,
        perform_decode_of_error (prepare_emptyInput _ hloaded htokens) _,
        .of_empty hloaded htokens _⟩
    · obtain ⟨events, hperform, htells⟩ := Library.hears_consult horderly withMarginals model
        ((Instance.recognize model.attrs
          ((Token.ofText (text?.getD "")).map Feature.Cell.ofToken) groups).toVectors model.attrs)
        world []
      refine ⟨_, _, events, perform_decode world (prepare_eq_ok _ hloaded htokens hgroups), ?_,
        .of_tells hloaded htokens milliseconds htells⟩
      rw [perform_decode (world.watched []) (prepare_eq_ok _ hloaded htokens hgroups)]
      exact congrArg (Prod.map _ id) hperform

/-- If a library fails only with faults of values and operations, then a name comes to what the
calls to the library tell.  The loaded models of a session stay as they are. -/
theorem decode_outcome {library : Library σ τ} (horderly : library.IsOrderly)
    (withMarginals : Bool) {choice : GroupChoice} {groups : List String}
    (hgroups : choice.names = .ok groups) (milliseconds : Float) (text? : Option String)
    (model? : Option Model) (world : World σ τ) :
    ∃ result world' events,
      ((⟨library.cachingTagger withMarginals, choice⟩ : Parser _).decode milliseconds text?
          model?).perform world = (result, world') ∧
      ((⟨library.watched.cachingTagger withMarginals, choice⟩ : Parser _).decode milliseconds text?
          model?).perform (world.watched []) = (result, world'.watched events) ∧
      Parser.Outcome withMarginals (text?.getD "") model? events result ∧
      ∀ session : Session σ τ, session.world = world →
        ((⟨Session.liftTagger (library.cachingTagger withMarginals), choice⟩ : Parser _).decode
            milliseconds text? model?).perform session =
          (result, { session with world := world' }) := by
  obtain ⟨result, world', events, hplain, hwatched, houtcome⟩ :=
    Parser.exists_outcome horderly withMarginals hgroups milliseconds text? model? world
  refine ⟨result, world', events, hplain, hwatched, houtcome, ?_⟩
  rintro session rfl
  rw [Session.perform_decode_liftTagger, hplain]

/-- A library that gives every name the same labels but has no probability for one of them. -/
def Library.reluctant : Library Unit Unit :=
  { Library.idle with
    tag := fun _ => pure ["GIVEN", "SURNAME"]
    marginal := fun _ label _ =>
      if label = "GIVEN" then pure 0.5 else throw ⟨.value, "no such label"⟩ }

theorem Library.reluctant_isOrderly : reluctant.IsOrderly where
  openModel _ _ := fun _ _ h => nomatch h
  choose _ _ := fun _ _ h => nomatch h
  tag _ := fun _ _ h => nomatch h
  probability _ _ := fun _ _ h => nomatch h
  marginal _ label _ := by
    intro s fault h
    change ((if label = "GIVEN" then pure 0.5
      else throw ⟨.value, "no such label"⟩ : Action Unit Float).perform s).1 = _ at h
    split at h
    · cases h
    · obtain rfl := Except.error.inj h
      exact (by decide : (FaultKind.value.isA .value || FaultKind.value.isA .runtime) = true)

/-- A model of two labels without features. -/
def Model.featureless : Model where
  name := "model"
  version := ""
  labels := (Lexicon.ofStrings ["GIVEN", "SURNAME"]).freeze
  attrs := Lexicon.empty.freeze
  handle := ⟨0, .empty, .ofList [], .ofList [], ["GIVEN", "SURNAME"]⟩
  size := 0
  isLoaded := true

/-- A name of two tokens, the second of which has a label without a probability. -/
theorem decode_outcome_no_probability :
    Library.reluctant.IsOrderly ∧ GroupChoice.all.names = .ok Feature.Group.names ∧
    ∃ result world' events,
      ((⟨Library.reluctant.cachingTagger true, .all⟩ : Parser _).decode 0.5 (some "Jane Doe, ")
          (some .featureless)).perform (World.initial ()) = (result, world') ∧
      ((⟨Library.reluctant.watched.cachingTagger true, .all⟩ : Parser _).decode 0.5
          (some "Jane Doe, ") (some .featureless)).perform ((World.initial ()).watched []) =
        (result, world'.watched events) ∧
      Parser.Outcome true "Jane Doe, " (some .featureless) events result ∧
      ∀ session : Session Unit Unit, session.world = World.initial () →
        ((⟨Session.liftTagger (Library.reluctant.cachingTagger true), .all⟩ : Parser _).decode 0.5
            (some "Jane Doe, ") (some .featureless)).perform session =
          (result, { session with world := world' }) := by
  have hgroups : GroupChoice.all.names = .ok Feature.Group.names :=
    GroupChoice.names_ofNames Feature.Group.names
  exact ⟨Library.reluctant_isOrderly, hgroups,
    decode_outcome Library.reluctant_isOrderly true hgroups 0.5 (some "Jane Doe, ")
      (some .featureless) (World.initial ())⟩

end NameTagger
