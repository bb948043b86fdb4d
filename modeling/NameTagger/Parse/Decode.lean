import NameTagger.Label.Basic
import NameTagger.Parse.Result
import NameTagger.Parse.Tagger
import NameTagger.Settings.Groups

/-!
# Parsing names

A parser splits a name into tokens, turns them into an instance of a model and lets a tagger label
them.

* `Parser`: a tagger and the groups of features, which must be those of the training;
* `Parser.decode`: the components of a name;
* `Parser.decodeBest`: several labelings of a name;
* `Parser.rows`, `document?`, `columns?`: the components in other forms; a name that is absent
  needs no model.
-/

namespace NameTagger

/-- What parses names. -/
structure Parser (σ : Type) (W : Type := Float) where
  tagger : Tagger σ W
  groups : GroupChoice

/-- The component that a label number of a model stands for. -/
def Model.component {W : Type} (model : Model W) (id : Int) : String :=
  match model.labels.stringAt? id with
  | some label => Label.rename label
  | none => Label.unknown

/-- The confidence in the label of a token: none if there are no probabilities. -/
def Tagging.confidence (tagging : Tagging) (i : Nat) : Except Fault (Option Float) :=
  match tagging.marginals with
  | none | some [] => .ok none
  | some marginals =>
      match marginals[i]? with
      | some confidence => .ok confidence
      | none => .error ⟨.indexRange, "list index out of range"⟩

/-- A token with its component. -/
def Tagging.token {W : Type} (tagging : Tagging) (model : Model W) (token : Token) (id : Int) :
    Except Fault ParsedToken := do
  let confidence ← tagging.confidence token.position
  return ⟨token.text, model.component id, confidence, token.start, token.stop⟩

/-- The fault for a wrong number of labels. -/
def labelCountFault (labels tokens : Nat) : Fault :=
  ⟨.prediction, "Tagger returned " ++ toString labels ++ " labels for " ++ toString tokens ++
    " tokens"⟩

/-- The tokens of a name with their components. -/
def Tagging.tokens {W : Type} (tagging : Tagging) (model : Model W) (tokens : List Token) :
    Except Fault (List ParsedToken) :=
  if tagging.labelIds.length = tokens.length then
    (tokens.zip tagging.labelIds).mapM fun (token, id) => tagging.token model token id
  else .error (labelCountFault tagging.labelIds.length tokens.length)

/-- The version of a model as results show it. -/
def Model.shownVersion {W : Type} (model : Model W) : String :=
  if model.version = "" then "unknown" else model.version

namespace Parser

/-- The model that is to be used, the tokens of a name, and their instance. -/
structure Prepared (W : Type := Float) where
  model : Model W
  tokens : List Token
  inst : Instance W

variable {σ W : Type}

/-- The model if it is loaded. -/
def usable (model? : Option (Model W)) : Except Fault (Model W) :=
  match model?.filter (·.isLoaded) with
  | some model => .ok model
  | none => .error ⟨.modelNotLoaded, "CRF model is not loaded"⟩

variable [OfScientific W]

/-- Split a name and turn it into an instance of a model. -/
def prepare (parser : Parser σ W) (text? : Option String) (model? : Option (Model W)) :
    Except Fault (Prepared W) := do
  let model ← usable model?
  match Token.ofText (text?.getD "") with
  | [] => .error ⟨.emptyInput, "No tokens to label"⟩
  | tokens =>
      let groups ← parser.groups.names
      let inst := Instance.recognize model.attrs (tokens.map Feature.Cell.ofToken) groups
      return ⟨model, tokens, inst⟩

/-- The components of a name; `milliseconds` is how long it takes. -/
def decode (parser : Parser σ W) (milliseconds : Float) (text? : Option String)
    (model? : Option (Model W)) : Action σ ParsedName := do
  let prepared ← Action.ofExcept (parser.prepare text? model?)
  let tagging ← parser.tagger.best prepared.model prepared.inst
  let tokens ← Action.ofExcept (tagging.tokens prepared.model prepared.tokens)
  return ⟨tokens, tagging.score, some prepared.model.shownVersion, milliseconds⟩

/-- Up to `n` labelings of a name by components, the best first. -/
def decodeBest (parser : Parser σ W) (text? : Option String) (model? : Option (Model W))
    (n : Int) : Action σ (List (List String × W)) := do
  let prepared ← Action.ofExcept (parser.prepare text? model?)
  let labelings ← parser.tagger.several prepared.model prepared.inst n
  return labelings.map fun (labels, score) => (labels.map Label.rename, score)

end Parser

end NameTagger
