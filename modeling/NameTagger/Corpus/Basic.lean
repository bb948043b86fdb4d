import NameTagger.Decimal.Layout

/-!
# Training corpora

A corpus is a list of names; each is a list of tokens with a label, in the order of the source.

* `LabeledToken`, `Sequence`, `Corpus`;
* `Corpus.Stats`, `Corpus.stats`: how many names and tokens there are, and how often each label;
* `Corpus.summary`: the numbers and the first names in words.
-/

namespace NameTagger

/-- A token with the label that it ought to get. -/
structure LabeledToken where
  text : String
  label : String
deriving DecidableEq, Repr

/-- A labeled name. -/
abbrev Sequence := List LabeledToken

/-- The texts of a labeled name. -/
def Sequence.texts (sequence : Sequence) : List String := sequence.map (·.text)

/-- The labels of a labeled name. -/
def Sequence.labels (sequence : Sequence) : List String := sequence.map (·.label)

/-- Labeled names. -/
abbrev Corpus := List Sequence

namespace Corpus

/-- Counts of strings in the order of their first occurrence. -/
abbrev Counts := List (String × Nat)

/-- Count one more occurrence of a string. -/
def Counts.add (s : String) : Counts → Counts
  | [] => [(s, 1)]
  | (t, n) :: rest => if t = s then (t, n + 1) :: rest else (t, n) :: add s rest

/-- The counts of the strings of a list. -/
def Counts.ofList (ss : List String) : Counts := ss.foldl (fun counts s => counts.add s) []

/-- The numbers of a corpus. -/
structure Stats where
  sequences : Nat
  tokens : Nat
  labelCounts : Counts
deriving DecidableEq, Repr

/-- The labels of all tokens in order. -/
def labels (corpus : Corpus) : List String := corpus.flatMap Sequence.labels

/-- The numbers of a corpus. -/
def stats (corpus : Corpus) : Stats :=
  ⟨corpus.length, (corpus.map List.length).foldr (· + ·) 0, Counts.ofList (labels corpus)⟩

/-- The first `n` names; for a negative `n`, all but the last ones. -/
def first (corpus : Corpus) (n : Int) : Corpus :=
  if n < 0 then corpus.take (corpus.length - n.natAbs) else corpus.take n.toNat

/-- A name with its labels on a line of its own, behind its number. -/
def exampleLine (number : Nat) (sequence : Sequence) : String :=
  "  [" ++ toString number ++ "] " ++
    String.intercalate " " (sequence.map fun token => token.text ++ "/" ++ token.label)

/-- A corpus in words: its numbers and its first `examples` names. -/
def summary (corpus : Corpus) (examples : Int) : String :=
  let stats := corpus.stats
  String.intercalate "\n" (
    ["Training data summary:",
      "  Total sequences: " ++ Decimal.grouped stats.sequences,
      "  Total tokens: " ++ Decimal.grouped stats.tokens,
      "",
      "First " ++ toString (min examples corpus.length) ++ " examples:"] ++
    (corpus.first examples).mapIdx fun i sequence => exampleLine (i + 1) sequence)

/-- How many names a summary shows if nothing else is asked for. -/
def defaultExamples : Int := 5

end Corpus

end NameTagger
