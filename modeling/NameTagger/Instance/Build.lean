import NameTagger.Instance.Learn

/-!
# Building instances

One request serves training and decoding: with a lexicon of labels the tokens are learned, without
one they are recognized.  The features of all tokens are taken before any of them is numbered.

* `Instance.Built`: what there is behind a request;
* `Instance.build`: a request for an instance.
-/

namespace NameTagger.Instance

/-- The lexicons behind a request for an instance, and the instance or what prevents it. -/
structure Built (W : Type) where
  attrs : Lexicon
  /-- Absent if no labels are learned. -/
  labels? : Option Lexicon
  result : Except Fault (Instance W)

variable {W : Type} [OfScientific W]

/-- Build the instance of some tokens.  Where there are labels to learn, there must be one for each
token. -/
def build (attrs : Lexicon) (labels? : Option Lexicon) (cells : List Feature.Cell)
    (gold? : Option (List String)) (groups : List String) : Built W :=
  match labels? with
  | none => ⟨attrs, none, (Feature.extractSequence cells groups).map (ofFeatures attrs)⟩
  | some labels =>
      match Vocabulary.goldFor cells.length gold? with
      | .error refusal => ⟨attrs, some labels, .error refusal.fault⟩
      | .ok gold =>
          match Feature.extractSequence (W := W) cells groups with
          | .error fault => ⟨attrs, some labels, .error fault⟩
          | .ok features =>
              let (v, result) := Vocabulary.learnFeatures ⟨attrs, labels⟩ features gold
              ⟨v.attrs, some v.labels, result.mapError Refusal.fault⟩

end NameTagger.Instance
