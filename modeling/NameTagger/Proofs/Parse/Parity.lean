import NameTagger.Proofs.Parse.Prepare
import NameTagger.Proofs.Parse.Recording
import NameTagger.Proofs.Training.Prepare

/-!
# Training and parsing see the same names

A name in a training corpus comes split, and its features are numbered with a vocabulary that still
grows.  A name that is parsed is split at white space, and its features are looked up in the lexicon
of a model, where they may have any numbers.  The library is told the same in both cases.

* `Parser.prepare_whole`, `Parser.prepare_nil`: a name whose texts are tokens as they stand;
* `toVectors_recognize_contains`: a model that knows all features of a name leaves none out;
* `Vocabulary.model`: the model of a vocabulary;
* `append_eq_choose`: what is appended to a library for training is what is chosen for parsing.
-/

namespace NameTagger

open Instance

/-- A model that knows all features of a name leaves none of them out. -/
theorem toVectors_recognize_contains {W : Type} [OfScientific W] [Add W] [OfNat W 0]
    {attrs : Lexicon} {cells : List Feature.Cell} {groups : List String}
    (h : ∀ features ∈ Feature.extractAll (W := W) cells groups, ∀ feature ∈ features,
      attrs.contains feature.name = true) :
    (recognize (W := W) attrs cells groups).toVectors attrs =
      (Feature.extractAll cells groups).map Feature.vector := by
  rw [toVectors_recognize]
  refine List.map_congr_left fun features hfeatures => ?_
  rw [List.filter_eq_self.2 (h features hfeatures)]

namespace Parser

variable {σ : Type} (tagger : Tagger σ) (groups : List String) {model : Model}

/-- A name is split where the texts of its tokens were joined. -/
theorem prepare_whole {sequence : Sequence} (hne : sequence ≠ [])
    (hwhole : ∀ text ∈ sequence.texts, Token.IsWhole text) (hmodel : model.isLoaded = true) :
    (⟨tagger, .ofNames groups⟩ : Parser σ).prepare
        (some (String.intercalate " " sequence.texts)) (some model) =
      .ok ⟨model, Token.ofTexts sequence.texts,
        recognize model.attrs (Vocabulary.cells sequence) groups⟩ := by
  have hsplit : Token.ofText ((some (String.intercalate " " sequence.texts)).getD "") =
      Token.ofTexts sequence.texts := Token.ofText_intercalate hwhole
  have htokens : Token.ofTexts sequence.texts ≠ [] := by
    intro hnil
    have hlength := congrArg List.length hnil
    rw [Token.ofTexts, Token.length_number, Token.length_spaced, Sequence.texts, List.length_map,
      List.length_nil] at hlength
    exact hne (List.length_eq_zero_iff.1 hlength)
  rw [prepare_eq_ok _ hmodel (by rwa [hsplit]) (GroupChoice.names_ofNames groups), hsplit,
    Vocabulary.cells]

theorem prepare_nil (hmodel : model.isLoaded = true) :
    (⟨tagger, .ofNames groups⟩ : Parser σ).prepare
        (some (String.intercalate " " (Sequence.texts []))) (some model) =
      .error ⟨.emptyInput, "No tokens to label"⟩ :=
  prepare_emptyInput _ hmodel (Token.ofText_intercalate (List.forall_mem_nil _))

end Parser

/-! ### The same weights on both sides -/

/-- A model with the features of a vocabulary, as they were numbered. -/
def Vocabulary.model (vocabulary : Vocabulary) : Model where
  name := "model"
  version := ""
  labels := vocabulary.labels.freeze
  attrs := vocabulary.attrs.freeze
  handle := ⟨0, .empty, .ofList [], .ofList [], vocabulary.labels.strings⟩
  size := 0
  isLoaded := true

/-- For every corpus and every list of groups, training hands every library the same weights for a
name as parsing chooses for it with a model that has at least the features of the training, if the
texts of the name are tokens as they stand and the name is given as these texts with single spaces
between them.  A name without tokens is not labeled, and neither is any name if no tagger can be
opened. -/
theorem append_eq_choose (groups : List String) (corpus : Corpus) :
    ∃ vocabulary instances,
      Training.prepare (.ofNames groups) corpus = .ok (vocabulary, instances) ∧
      ∀ (i : Nat) (sequence : Sequence), corpus[i]? = some sequence →
        (∀ text ∈ sequence.texts, Token.IsWhole text) →
        ∃ vectors,
          (∀ target hyperparameters,
            let task : Training.Task := ⟨instances, vocabulary, target, hyperparameters⟩
            task.calls[i]? = some (.append vectors sequence.labels) ∧
              ∀ (engine : Training.Engine) (files : Files),
                engine.trainer task files =
                  (engine hyperparameters.algorithm task.calls files).report) ∧
          ∀ {σ τ : Type} (library : Library σ τ) (withMarginals : Bool) (milliseconds : Float)
            (model : Model) (world : World (σ × List (List (Vector Float))) τ),
            model.isLoaded = true →
            (∀ name ∈ vocabulary.attrs.strings, model.attrs.contains name = true) →
            Library.log (((⟨library.recording.cachingTagger withMarginals, .ofNames groups⟩ :
                Parser _).decode milliseconds (some (String.intercalate " " sequence.texts))
                (some model)).perform world).2 =
              Library.log world ++
                if sequence = [] then []
                else Library.chosenIf
                  ((model.handle.tagger library.recording).perform world).1 vectors := by
  obtain ⟨vocabulary, instances, hprepare, hinstances⟩ := Training.prepare_ofNames groups corpus
  refine ⟨vocabulary, instances, hprepare, ?_⟩
  intro i sequence hsequence hwhole
  obtain ⟨inst, hinst, hrenders⟩ : ∃ inst, instances[i]? = some inst ∧ inst.Renders vocabulary
      (Feature.extractAll (Vocabulary.cells sequence) groups) sequence.labels := by
    obtain ⟨hi, rfl⟩ := List.getElem?_eq_some_iff.1 hsequence
    have hlt : i < instances.length := hinstances.length_eq ▸ hi
    exact ⟨instances[i], List.getElem?_eq_getElem hlt, hinstances.get hlt hi⟩
  -- both sides are the weights of the features by their names, without any numbers
  refine ⟨(Feature.extractAll (Vocabulary.cells sequence) groups).map Feature.vector, ?_, ?_⟩
  · intro target hyperparameters
    refine ⟨?_, fun engine files => rfl⟩
    rw [Training.Task.getElem?_calls hinst, Training.Task.appendCall_eq hrenders]
  · intro σ τ library withMarginals milliseconds model world hmodel hattrs
    rw [Parser.log_decode]
    by_cases hne : sequence = []
    · subst hne
      rw [Parser.prepare_nil _ groups hmodel, if_pos rfl]
    · have hcontains :
          ∀ features ∈ Feature.extractAll (W := Float) (Vocabulary.cells sequence) groups,
            ∀ feature ∈ features, model.attrs.contains feature.name = true :=
        fun _ hfeatures feature hfeature => hattrs feature.name
          ((Lexicon.contains_iff _ _).1 (hrenders.contains hfeatures hfeature))
      rw [Parser.prepare_whole _ groups hne hwhole hmodel, if_neg hne]
      show _ ++ Library.chosenIf _ ((recognize model.attrs _ groups).toVectors model.attrs) = _
      rw [toVectors_recognize_contains hcontains]

/-- A name with an abbreviation, parsed with a model of the features of its training. -/
theorem append_eq_choose_abbreviation :
    (∀ text ∈ Sequence.texts [⟨"Mr.", "Title"⟩, ⟨"Smith", "Surname"⟩], Token.IsWhole text) ∧
    ∃ vocabulary instances vectors,
      Training.prepare .all [[⟨"Mr.", "Title"⟩, ⟨"Smith", "Surname"⟩]] =
        .ok (vocabulary, instances) ∧
      (Training.Task.mk instances vocabulary .void .defaults).calls[0]? =
        some (.append vectors ["Title", "Surname"]) ∧
      (∀ engine : Training.Engine,
        engine.trainer ⟨instances, vocabulary, .void, .defaults⟩ (.empty []) =
          (engine "l2sgd" (Training.Task.mk instances vocabulary .void .defaults).calls
            (.empty [])).report) ∧
      Library.log (((⟨Library.idle.recording.cachingTagger true, .all⟩ : Parser _).decode 0.0
        (some "Mr. Smith") (some vocabulary.model)).perform (World.initial ((), []))).2 =
          [vectors] := by
  have hwhole : ∀ text ∈ Sequence.texts [⟨"Mr.", "Title"⟩, ⟨"Smith", "Surname"⟩],
      Token.IsWhole text := by
    rintro text htext
    rcases List.mem_cons.1 htext with rfl | htext
    · exact ⟨by decide, by decide⟩
    · obtain rfl := List.mem_singleton.1 htext
      exact ⟨by decide, by decide⟩
  obtain ⟨vocabulary, instances, hprepare, hparity⟩ := append_eq_choose Feature.Group.names
    [[⟨"Mr.", "Title"⟩, ⟨"Smith", "Surname"⟩]]
  obtain ⟨vectors, hcall, hlog⟩ := hparity 0 _ rfl hwhole
  refine ⟨hwhole, vocabulary, instances, vectors, hprepare, (hcall _ _).1,
    fun engine => (hcall .void .defaults).2 engine (.empty []), ?_⟩
  exact hlog Library.idle true 0.0 vocabulary.model (World.initial ((), [])) rfl
    fun name hname => (Lexicon.contains_iff _ _).2 hname

end NameTagger
