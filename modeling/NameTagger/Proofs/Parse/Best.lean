import Mathlib.Algebra.Order.Ring.Rat
import NameTagger.Proofs.Chain.Best
import NameTagger.Proofs.Chain.Emission
import NameTagger.Proofs.Model.Action
import NameTagger.Proofs.Parse.Prepare

/-!
# The best labelings of a name

The score of a labeling of a name can be told from the features of its tokens and the weights of the
model, without any numbers of features or labels.

* `Model.knownFeatures`, `Model.labelingScore`: the features of a token that count, and the score of
  a labeling;
* `emission_recognize`: what the search for the best labelings is given;
* `decodeBest_isBest`: what it finds.
-/

namespace NameTagger

open Chain

variable {W : Type} [CommSemiring W] [OfScientific W]

namespace Model

variable (model : Model W) (tokens : List Token) (groups : List String)

/-- The features of a token of a name that a model knows. -/
def knownFeatures (t : Fin tokens.length) : List (Feature W) :=
  ((Feature.extract? (tokens.map Feature.Cell.ofToken) (t : ℕ) groups).get
    (Feature.extract?_isSome _ _ (by simp))).filter
      fun feature => model.attrs.contains feature.name

/-- The score of a label at a token. -/
def tokenScore (t : Fin tokens.length) (j : Fin model.handle.labels.length) : W :=
  Feature.score model.handle.states (model.knownFeatures tokens groups t)
    (model.handle.labels.get j)

/-- The score of a labeling of a name. -/
def labelingScore (y : Labeling tokens.length model.handle.labels.length) : W :=
  y.total (model.tokenScore tokens groups) fun i j =>
    model.handle.transitions.get (model.handle.labels.get i) (model.handle.labels.get j)

/-- The components of a labeling of a name. -/
def components (y : Labeling tokens.length model.handle.labels.length) : List String :=
  List.ofFn fun t => Label.rename (model.handle.labels.get (y t))

/-- The scores of a name are those of the features that its model knows. -/
theorem emission_recognize [BEq W] [LawfulBEq W] :
    emission model.handle.states model.handle.labels
        ((Instance.recognize model.attrs (tokens.map Feature.Cell.ofToken) groups).toVectors
          model.attrs) =
      List.ofFn fun t => List.ofFn (model.tokenScore tokens groups t) := by
  have hknown : (Instance.recognize model.attrs (tokens.map Feature.Cell.ofToken) groups).items.map
      (Instance.named model.attrs) = List.ofFn (model.knownFeatures tokens groups) := by
    rw [Instance.map_named_recognize, Feature.extractAll, List.map_ofFn,
      List.ofFn_congr (List.length_map _)]
    rfl
  have hrows (inst : Instance W) :
      emission model.handle.states model.handle.labels (inst.toVectors model.attrs) =
        (inst.items.map (Instance.named model.attrs)).map fun features =>
          model.handle.labels.map (Feature.score model.handle.states features) := by
    rw [Instance.emission_toVectors, List.map_map]
    rfl
  rw [hrows, hknown, List.map_ofFn]
  congr 1
  funext t
  exact (List.ofFn_getElem_eq_map _ _).symm

end Model

variable [LinearOrder W]

omit [OfScientific W] in
/-- The labelings that the weights of a model give are handed on. -/
theorem Library.several_eq_pure {σ τ : Type} (library : Library σ τ W) (withMarginals : Bool)
    {model : Model W} {inst : Instance W} {n : ℤ} {labelings : List (List String × W)}
    (h : nBest? n (emission model.handle.states model.handle.labels (inst.toVectors model.attrs))
      model.handle.transitions model.handle.labels = some labelings) :
    (library.cachingTagger withMarginals).several model inst n = pure labelings := by
  have hbest : modelBest? model inst n = some labelings := h
  rw [cachingTagger, tagger]
  simp only [hbest]

/-- In exact arithmetic the labelings of a name that are found are the best ones by the features of
its tokens that the model knows, and the library is not asked.  Of any other instance, too, each
entry counts by its weight, with those that share a name, and without those that have none. -/
theorem decodeBest_isBest [IsOrderedCancelAddMonoid W] {σ τ : Type} (library : Library σ τ W)
    (withMarginals : Bool) {choice : GroupChoice} {groups : List String} {text : String}
    {model : Model W} (hgroups : choice.names = .ok groups) (htokens : Token.ofText text ≠ [])
    (hmodel : model.isLoaded = true) (n : ℤ) (world : World σ τ) :
    (∃ found, Labeling.IsBest (model.labelingScore (Token.ofText text) groups) n.toNat found ∧
      ((⟨library.cachingTagger withMarginals, choice⟩ : Parser _ W).decodeBest (some text)
          (some model) n).perform world =
        (.ok (found.map fun y => (model.components (Token.ofText text) y,
          model.labelingScore (Token.ofText text) groups y)), world)) ∧
    ∀ inst : Instance W,
      emission model.handle.states model.handle.labels (inst.toVectors model.attrs) =
        inst.items.map fun item =>
          model.handle.labels.map (Feature.score model.handle.states
            (Instance.named model.attrs item)) := by
  refine ⟨?_, Instance.emission_toVectors _ _ _⟩
  obtain ⟨found, hbest, hfound⟩ := nBest?_isBest (List.length_pos_iff.2 htokens) n
    (model.tokenScore (Token.ofText text) groups) model.handle.transitions model.handle.labels.get
  refine ⟨found, hbest, ?_⟩
  rw [List.ofFn_get, ← Model.emission_recognize] at hfound
  have hseveral := library.several_eq_pure withMarginals hfound
  have hprepare :
      (⟨library.cachingTagger withMarginals, choice⟩ : Parser _ W).prepare (some text)
        (some model) = .ok ⟨model, Token.ofText text, Instance.recognize model.attrs
          ((Token.ofText text).map Feature.Cell.ofToken) groups⟩ :=
    Parser.prepare_eq_ok _ hmodel htokens hgroups
  rw [Parser.decodeBest, hprepare]
  change Action.perform ((library.cachingTagger withMarginals).several model
    (Instance.recognize model.attrs ((Token.ofText text).map Feature.Cell.ofToken) groups) n >>= _)
    world = _
  rw [hseveral, pure_bind, List.map_map]
  refine Prod.ext (congrArg Except.ok (List.map_congr_left fun y _ => Prod.ext ?_ rfl)) rfl
  exact List.map_ofFn

/-- A model with three features and two labels. -/
def Model.givenAndSurname : Model ℚ where
  name := "model"
  version := ""
  labels := (Lexicon.ofStrings ["GIVEN", "SURNAME"]).freeze
  attrs := (Lexicon.ofStrings ["lower:jane", "is_capitalized", "next_1:doe"]).freeze
  handle :=
    ⟨0, .empty,
      .ofList [(("lower:jane", "GIVEN"), 3 / 2), (("is_capitalized", "SURNAME"), 1 / 3),
        (("next_1:doe", "GIVEN"), 1 / 4)],
      .ofList [(("GIVEN", "SURNAME"), 1)], ["GIVEN", "SURNAME"]⟩
  size := 0
  isLoaded := true

/-- Three labelings of two tokens, where the model knows some of the features. -/
theorem decodeBest_isBest_two_tokens :
    GroupChoice.all.names = .ok Feature.Group.names ∧ Token.ofText "jane Doe" ≠ [] ∧
    ∃ found,
      Labeling.IsBest
        (Model.givenAndSurname.labelingScore (Token.ofText "jane Doe") Feature.Group.names) 3
        found ∧
      ((⟨Library.idle.cachingTagger true, .all⟩ : Parser _ ℚ).decodeBest (some "jane Doe")
          (some .givenAndSurname) 3).perform (World.initial ()) =
        (.ok (found.map fun y => (Model.givenAndSurname.components (Token.ofText "jane Doe") y,
          Model.givenAndSurname.labelingScore (Token.ofText "jane Doe") Feature.Group.names y)),
          World.initial ()) := by
  have hgroups : GroupChoice.all.names = .ok Feature.Group.names :=
    GroupChoice.names_ofNames Feature.Group.names
  have htokens : Token.ofText "jane Doe" ≠ [] := by decide +kernel
  exact ⟨hgroups, htokens,
    (decodeBest_isBest Library.idle true hgroups htokens rfl 3 (World.initial ())).1⟩

end NameTagger
