import NameTagger.Corpus.Basic
import NameTagger.Fault
import NameTagger.Instance.Basic

/-!
# Instances of labeled names

The instances of a corpus are numbered with one vocabulary, which grows as the names come.  What was
added before a failure stays.

* `Vocabulary`: the features and the labels that have numbers;
* `Instance.Refusal`: why a labeled name has no instance;
* `Vocabulary.goldFor`: the labels, of which there must be one for each token;
* `Vocabulary.learnFeatures`, `Vocabulary.learn`: the instance of a labeled name, and the vocabulary
  behind it;
* `Vocabulary.learnCorpus`: the instances of a corpus in order;
* `progress`: the messages while a corpus is learned.
-/

namespace NameTagger

/-- The features and labels that have numbers. -/
structure Vocabulary where
  attrs : Lexicon
  labels : Lexicon

/-- Why a labeled name has no instance. -/
inductive Instance.Refusal where
  /-- There must be a label for each token. -/
  | labelCount (tokens labels : Nat)
  | readOnly (refusal : Lexicon.ReadOnly)
deriving DecidableEq, Repr

/-- The refusal as a fault. -/
def Instance.Refusal.fault : Instance.Refusal → Fault
  | .labelCount tokens labels =>
      ⟨.value, "Expected " ++ toString tokens ++ " gold labels, got " ++ toString labels⟩
  | .readOnly refusal => ⟨.runtime, refusal.message⟩

namespace Vocabulary

variable {W : Type}

/-- The vocabulary without entries. -/
def empty : Vocabulary := ⟨.empty, .empty⟩

/-- Number the features of a token; new ones are added as far as possible. -/
def number (attrs : Lexicon) : List (Feature W) → Lexicon × Except Lexicon.ReadOnly (Item W)
  | [] => (attrs, .ok [])
  | feature :: rest =>
      match attrs.intern feature.name with
      | (attrs, .error refusal) => (attrs, .error refusal)
      | (attrs, .ok id) =>
          let (attrs, item) := number attrs rest
          (attrs, item.map fun item => (id, feature.weight) :: item)

/-- Number the features and the label of a token. -/
def learnToken : Vocabulary → List (Feature W) → String →
    Vocabulary × Except Lexicon.ReadOnly (Item W × Nat)
  | ⟨attrs, labels⟩, features, label =>
      match number attrs features with
      | (attrs, .error refusal) => (⟨attrs, labels⟩, .error refusal)
      | (attrs, .ok item) =>
          match labels.intern label with
          | (labels, .error refusal) => (⟨attrs, labels⟩, .error refusal)
          | (labels, .ok id) => (⟨attrs, labels⟩, .ok (item, id))

/-- Number the features and the labels of several tokens. -/
def learnTokens (v : Vocabulary) : List (List (Feature W) × String) →
    Vocabulary × Except Lexicon.ReadOnly (List (Item W × Nat))
  | [] => (v, .ok [])
  | (features, label) :: rest =>
      match v.learnToken features label with
      | (v, .error refusal) => (v, .error refusal)
      | (v, .ok token) =>
          let (v, tokens) := v.learnTokens rest
          (v, tokens.map (token :: ·))

/-- The labels that are given for a number of tokens: there must be one for each. -/
def goldFor (tokens : Nat) (gold? : Option (List String)) :
    Except Instance.Refusal (List String) :=
  let gold := gold?.getD []
  if gold?.isSome && gold.length = tokens then .ok gold
  else .error (.labelCount tokens gold.length)

/-- The instance of tokens with some features and labels, and the vocabulary behind it. -/
def learnFeatures (v : Vocabulary) (features : List (List (Feature W))) (gold : List String) :
    Vocabulary × Except Instance.Refusal (Instance W) :=
  match v.learnTokens (features.zip gold) with
  | (v, .error refusal) => (v, .error (.readOnly refusal))
  | (v, .ok tokens) => (v, .ok ⟨tokens.map (·.1), tokens.map (·.2), true⟩)

variable [OfScientific W]

/-- The instance of a name with given labels, and the vocabulary behind it. -/
def learn (v : Vocabulary) (cells : List Feature.Cell) (gold? : Option (List String))
    (groups : List String) : Vocabulary × Except Instance.Refusal (Instance W) :=
  match goldFor cells.length gold? with
  | .error refusal => (v, .error refusal)
  | .ok gold => v.learnFeatures (Feature.extractAll cells groups) gold

/-- What feature extraction sees of a labeled name. -/
def cells (sequence : Sequence) : List Feature.Cell :=
  (Token.ofTexts sequence.texts).map Feature.Cell.ofToken

/-- The instances of labeled names, behind those in `done`. -/
def learnFrom (v : Vocabulary) (groups : List String) (done : Array (Instance W)) : Corpus →
    Vocabulary × Except Instance.Refusal (List (Instance W))
  | [] => (v, .ok done.toList)
  | sequence :: rest =>
      match v.learn (cells sequence) (some sequence.labels) groups with
      | (v, .error refusal) => (v, .error refusal)
      | (v, .ok inst) => v.learnFrom groups (done.push inst) rest

/-- The instances of a corpus, and the vocabulary behind it. -/
def learnCorpus (v : Vocabulary) (corpus : Corpus) (groups : List String) :
    Vocabulary × Except Instance.Refusal (List (Instance W)) :=
  v.learnFrom groups #[] corpus

end Vocabulary

/-- A message is due after every so many names. -/
def progressInterval : Nat := 500

/-- The messages while `total` names are learned: one after each full interval and one at the
end. -/
def progress (total : Nat) : List String :=
  ((List.range total).map (· + 1)).filterMap fun i =>
    if i % progressInterval = 0 || i = total then
      some ("  Processed " ++ Decimal.grouped i ++ "/" ++ Decimal.grouped total ++ " sequences")
    else none

end NameTagger
