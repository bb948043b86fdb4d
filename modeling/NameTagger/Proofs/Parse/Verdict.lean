import NameTagger.Proofs.Lexicon
import NameTagger.Proofs.Parse.Watch
import NameTagger.Proofs.Token

/-!
# From a verdict to a parsed name

The labels of a verdict are turned into numbers of a model and back into components.

* `mapM_labelId`, `mapM_labelId_strange`: the numbers of labels, which all have to be in the model;
* `Tagging.tokens_eq_ok`: the tokens with their components;
* `Parser.Prepared.named`, `Parser.Prepared.read`: the name that a tagging or a verdict gives;
* `Parser.Prepared.read_eq_ok`, `read_strange`, `read_count`: a parsed name, or the reason why there
  is none.
-/

namespace NameTagger

/-! ### Labels and their numbers -/

/-- The number of a label stands for the component of the label. -/
theorem Model.component_id? {model : Model} {label : String} {i : Nat}
    (h : model.labels.id? label = some i) : model.component i = Label.rename label := by
  have hstring : model.labels.string? i = some label := (Lexicon.id?_eq_some_iff _ _ _).1 h
  rw [component, Lexicon.stringAt?_natCast, hstring]

theorem labelId_of_mem {labels : Lexicon} {label : String} (h : label ∈ labels.strings) :
    ∃ i : Nat, labels.id? label = some i ∧ labelId labels label = .ok (i : Int) := by
  obtain ⟨i, hi⟩ := Option.isSome_iff_exists.1 ((Lexicon.contains_iff labels label).2 h)
  exact ⟨i, hi, by rw [labelId, hi]⟩

theorem labelId_of_notMem {labels : Lexicon} {label : String} (h : label ∉ labels.strings) :
    labelId labels label = .error (strangeLabel label) := by
  have hnone : labels.id? label = none := by
    rw [← Option.not_isSome_iff_eq_none]
    exact mt (Lexicon.contains_iff labels label).1 h
  rw [labelId, hnone]

/-- Labels of a model have numbers, which stand for their components. -/
theorem mapM_labelId (model : Model) {labels : List String}
    (h : ∀ label ∈ labels, label ∈ model.labels.strings) :
    ∃ ids, labels.mapM (labelId model.labels) = .ok ids ∧
      ids.map model.component = labels.map Label.rename := by
  induction labels with
  | nil => exact ⟨[], rfl, rfl⟩
  | cons label labels ih =>
    obtain ⟨hlabel, hlabels⟩ := List.forall_mem_cons.1 h
    obtain ⟨i, hi, hid⟩ := labelId_of_mem hlabel
    obtain ⟨ids, hids, hcomponents⟩ := ih hlabels
    refine ⟨i :: ids, ?_, ?_⟩
    · rw [List.mapM_cons, hid, hids]
      rfl
    · rw [List.map_cons, List.map_cons, hcomponents, Model.component_id? hi]

/-- The first label that a model does not have is reported. -/
theorem mapM_labelId_strange {labels : Lexicon} {answer : List String}
    (h : ∃ label ∈ answer, label ∉ labels.strings) :
    ∃ label, answer.mapM (labelId labels) = .error (strangeLabel label) := by
  induction answer with
  | nil =>
    obtain ⟨label, hlabel, -⟩ := h
    exact absurd hlabel List.not_mem_nil
  | cons label answer ih =>
    rw [List.mapM_cons]
    by_cases hlabel : label ∈ labels.strings
    · obtain ⟨i, -, hid⟩ := labelId_of_mem hlabel
      obtain ⟨strange, hstrange⟩ := ih (by simpa [hlabel] using h)
      exact ⟨strange, by rw [hid, hstrange]; rfl⟩
    · exact ⟨label, by rw [labelId_of_notMem hlabel]; rfl⟩

/-! ### Tokens with components -/

/-- The confidence of a verdict in the label at a place. -/
def Verdict.confidence (verdict : Verdict) (i : Nat) : Option Float :=
  verdict.marginals.bind (·[i]?)

/-- A token with a component. -/
def Token.parsed (token : Token) (component : String) (confidence : Option Float) : ParsedToken :=
  ⟨token.text, component, confidence, token.start, token.stop⟩

/-- Tokens with the labels of a verdict. -/
def Verdict.tokens (verdict : Verdict) (tokens : List Token) : List ParsedToken :=
  List.zipWith (fun token component => token.parsed component (verdict.confidence token.position))
    tokens (verdict.labels.map Label.rename)

theorem Verdict.getElem?_tokens {verdict : Verdict} {tokens : List Token} {i : Nat} {token : Token}
    {label : String} (htoken : tokens[i]? = some token) (hlabel : verdict.labels[i]? = some label) :
    (verdict.tokens tokens)[i]? =
      some (token.parsed (Label.rename label) (verdict.confidence token.position)) := by
  rw [Verdict.tokens, List.getElem?_zipWith, List.getElem?_map, htoken, hlabel]
  rfl

/-- The marginals of a whole verdict are as many as its labels. -/
theorem Verdict.IsWhole.cases {verdict : Verdict} {withMarginals : Bool}
    (hwhole : verdict.IsWhole withMarginals) :
    (withMarginals = false ∧ verdict.marginals = none) ∨
      (withMarginals = true ∧
        ∃ marginals, verdict.marginals = some marginals ∧
          marginals.length = verdict.labels.length) := by
  cases withMarginals with
  | false => exact .inl ⟨rfl, Option.map_eq_none_iff.1 hwhole⟩
  | true =>
    obtain ⟨marginals, hmarginals, hlength⟩ := Option.map_eq_some_iff.1 hwhole
    exact .inr ⟨rfl, marginals, hmarginals, hlength⟩

/-- A verdict on all tokens has a confidence at each place. -/
theorem Verdict.confidence_eq_ok {verdict : Verdict} {withMarginals : Bool}
    (hwhole : verdict.IsWhole withMarginals) {labelIds : List Int} {i : Nat}
    (hi : i < verdict.labels.length) :
    Tagging.confidence ⟨labelIds, verdict.score, verdict.marginals.map (·.map some)⟩ i =
      .ok (verdict.confidence i) := by
  rcases hwhole.cases with ⟨-, hmarginals⟩ | ⟨-, marginals, hmarginals, hlength⟩
  · rw [confidence, hmarginals]
    rfl
  · have hne : marginals ≠ [] := List.ne_nil_of_length_pos (hlength ▸ Nat.zero_lt_of_lt hi)
    have hmarginal : (marginals.map some)[i]? = some marginals[i]? := by
      rw [List.getElem?_map, List.getElem?_eq_getElem (hlength ▸ hi)]
      rfl
    obtain ⟨first, rest, rfl⟩ := List.exists_cons_of_ne_nil hne
    rw [confidence, hmarginals, Tagging.confidence]
    simp only [Option.map_some, List.map_cons] at hmarginal ⊢
    rw [hmarginal]
    rfl

theorem mapM_eq_ok {α β : Type} {f : α → Except Fault β} {g : α → β} {l : List α}
    (h : ∀ a ∈ l, f a = .ok (g a)) : l.mapM f = .ok (l.map g) := by
  induction l with
  | nil => rfl
  | cons a l ih =>
    obtain ⟨ha, hl⟩ := List.forall_mem_cons.1 h
    rw [List.mapM_cons, ha, ih hl]
    rfl

/-- As many labels as tokens give each token its component. -/
theorem Tagging.tokens_eq_ok {tagging : Tagging} {model : Model} {tokens : List Token}
    {confidence : Nat → Option Float} (hlength : tagging.labelIds.length = tokens.length)
    (hconfidence : ∀ token ∈ tokens,
      tagging.confidence token.position = .ok (confidence token.position)) :
    tagging.tokens model tokens =
      .ok (List.zipWith
        (fun token component => token.parsed component (confidence token.position)) tokens
        (tagging.labelIds.map model.component)) := by
  rw [Tagging.tokens, if_pos hlength, List.zipWith_map_right, ← List.map_uncurry_zip_eq_zipWith]
  refine mapM_eq_ok fun (token, id) hmem => ?_
  change (tagging.confidence token.position >>= _) = _
  rw [hconfidence token (List.of_mem_zip hmem).1]
  rfl

/-! ### The name that a verdict gives -/

namespace Parser.Prepared

/-- The name with the labels that a tagger found. -/
def named (prepared : Prepared) (milliseconds : Float) (tagging : Tagging) :
    Except Fault ParsedName :=
  (tagging.tokens prepared.model prepared.tokens).map fun tokens =>
    ⟨tokens, tagging.score, some prepared.model.shownVersion, milliseconds⟩

/-- The name that the calls to a library give. -/
def read (prepared : Prepared) (milliseconds : Float) (outcome : Except Fault Verdict) :
    Except Fault ParsedName :=
  ((outcome.mapError taggingFault).bind fun verdict =>
    verdict.tagging prepared.model.labels).bind (prepared.named milliseconds)

variable (prepared : Prepared) (milliseconds : Float)

theorem read_error {fault : Fault} (horderly : fault.IsOrderly) :
    prepared.read milliseconds (.error fault) =
      .error ⟨.prediction, "CRF tagging failed: " ++ fault.shown⟩ := by
  rw [← taggingFault_of_isOrderly horderly]
  rfl

variable {verdict : Verdict}

theorem read_strange (h : ∃ label ∈ verdict.labels, label ∉ prepared.model.labels.strings) :
    ∃ label, prepared.read milliseconds (.ok verdict) = .error (strangeLabel label) := by
  obtain ⟨label, hlabel⟩ := mapM_labelId_strange h
  refine ⟨label, ?_⟩
  change (verdict.tagging prepared.model.labels).bind _ = _
  rw [Verdict.tagging, hlabel]
  rfl

/-- Labels of the model are found again by their numbers. -/
theorem exists_read_eq
    (hlabels : ∀ label ∈ verdict.labels, label ∈ prepared.model.labels.strings) :
    ∃ ids : List Int, ids.length = verdict.labels.length ∧
      ids.map prepared.model.component = verdict.labels.map Label.rename ∧
      prepared.read milliseconds (.ok verdict) =
        prepared.named milliseconds
          ⟨ids, verdict.score, verdict.marginals.map (·.map some)⟩ := by
  obtain ⟨ids, hids, hcomponents⟩ := mapM_labelId prepared.model hlabels
  refine ⟨ids, by simpa using congrArg List.length hcomponents, hcomponents, ?_⟩
  change (verdict.tagging prepared.model.labels).bind _ = _
  rw [Verdict.tagging, hids]
  rfl

variable (hlabels : ∀ label ∈ verdict.labels, label ∈ prepared.model.labels.strings)

include hlabels

theorem read_count (hlength : verdict.labels.length ≠ prepared.tokens.length) :
    prepared.read milliseconds (.ok verdict) =
      .error (labelCountFault verdict.labels.length prepared.tokens.length) := by
  obtain ⟨ids, hcount, -, hread⟩ := prepared.exists_read_eq milliseconds hlabels
  rw [hread, named, Tagging.tokens, if_neg (hcount ▸ hlength), ← hcount]
  rfl

theorem read_eq_ok {withMarginals : Bool} (hwhole : verdict.IsWhole withMarginals)
    (hposition : ∀ token ∈ prepared.tokens, token.position < prepared.tokens.length)
    (hlength : verdict.labels.length = prepared.tokens.length) :
    prepared.read milliseconds (.ok verdict) =
      .ok ⟨verdict.tokens prepared.tokens, verdict.score, some prepared.model.shownVersion,
        milliseconds⟩ := by
  obtain ⟨ids, hcount, hcomponents, hread⟩ := prepared.exists_read_eq milliseconds hlabels
  rw [hread, named, @Tagging.tokens_eq_ok _ _ _ verdict.confidence (hcount.trans hlength)
    fun token htoken => Verdict.confidence_eq_ok hwhole (hlength ▸ hposition token htoken),
    hcomponents]
  rfl

end Parser.Prepared

end NameTagger
