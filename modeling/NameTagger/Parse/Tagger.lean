import NameTagger.Chain.Best
import NameTagger.Model.Basic

/-!
# Taggers

A tagger finds the labels of a name with a model.

* `Tagging`: the numbers of the labels, with the probability of the whole and of each;
* `Tagger`: finding the best labels, or several labelings;
* `libraryTagging`, `modelBest?`: both with a library and with the weights of a model;
* `Library.tagger`: the tagger that works with a library.
-/

namespace NameTagger

/-- The labels that a tagger found. -/
structure Tagging where
  labelIds : List Int
  score : Float
  /-- The probabilities of the single labels, if they were asked for; some may be unknown. -/
  marginals : Option (List (Option Float))
deriving Repr

/-- What finds the labels of a name. -/
structure Tagger (σ : Type) (W : Type := Float) where
  best : Model W → Instance W → Action σ Tagging
  several : Model W → Instance W → Int → Action σ (List (List String × W))

/-- The fault for a library that failed; other failures than those of values and operations stay
what they are. -/
def taggingFault (fault : Fault) : Fault :=
  if fault.kind.isA .value || fault.kind.isA .runtime then
    ⟨.prediction, "CRF tagging failed: " ++ fault.shown⟩
  else fault

/-- What a library says about a name: the labels, their probability, and that of each label. -/
structure Verdict where
  labels : List String
  score : Float
  marginals : Option (List Float)
deriving Repr

namespace Library

variable {σ τ W : Type}

/-- Ask a library for the labels of a name. -/
def judge (library : Library σ τ W) (withMarginals : Bool) (tokens : List (Vector W))
    (tagger : τ) : Action σ Verdict := do
  library.choose tagger tokens
  let labels ← library.tag tagger
  let score ← library.probability tagger labels
  if withMarginals then
    let marginals ← labels.zipIdx.mapM fun (label, i) => library.marginal tagger label i
    return ⟨labels, score, some marginals⟩
  else
    return ⟨labels, score, none⟩

end Library

/-- The fault for a label that a model does not have. -/
def strangeLabel (label : String) : Fault :=
  ⟨.prediction, "Tagger returned a label missing from the model dictionary: " ++ Text.quoted label⟩

/-- The number of a label of a model. -/
def labelId (labels : Lexicon) (label : String) : Except Fault Int :=
  match labels.id? label with
  | some id => .ok id
  | none => .error (strangeLabel label)

/-- The verdict of a library by the numbers of the labels. -/
def Verdict.tagging (verdict : Verdict) (labels : Lexicon) : Except Fault Tagging := do
  let labelIds ← verdict.labels.mapM (labelId labels)
  return ⟨labelIds, verdict.score, verdict.marginals.map (·.map some)⟩

section

variable {σ τ W : Type} [Add W] [Mul W] [OfNat W 0] [BEq W] [LT W] [DecidableLT W]

/-- The best labelings by the weights of a model. -/
def modelBest? (model : Model W) (inst : Instance W) (n : Int) :
    Option (List (List String × W)) :=
  let handle := model.handle
  let emission := Chain.emission handle.states handle.labels (inst.toVectors model.attrs)
  Chain.nBest? n emission handle.transitions handle.labels

/-- The tagger that works with a library; `acquire` opens its tagger for a model. -/
def Library.tagger (library : Library σ τ W) (acquire : Model W → Action (World σ τ) τ)
    (withMarginals : Bool) : Tagger (World σ τ) W where
  best model inst := do
    let tokens := inst.toVectors model.attrs
    let verdict ← Action.mapFault (do
      let tagger ← acquire model
      World.withLibrary (library.judge withMarginals tokens tagger)) taggingFault
    Action.ofExcept (verdict.tagging model.labels)
  several model inst n :=
    match modelBest? model inst n with
    | some labelings => return labelings
    | none => throw ⟨.indexRange, "list index out of range"⟩

/-- The tagger that opens each model once. -/
def Library.cachingTagger (library : Library σ τ W) (withMarginals : Bool) :
    Tagger (World σ τ) W :=
  library.tagger (fun model => model.handle.tagger library) withMarginals

end

end NameTagger
