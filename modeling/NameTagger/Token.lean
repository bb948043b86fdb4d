import NameTagger.Text.Blank

/-!
# Tokens of a name

A name is split at white space.  Commas and points at the end of a piece are dropped, except for the
point of a known abbreviation; a piece of which nothing is left is no token.

* `Token`: the text, its place among the tokens and its span in the name;
* `abbreviations`, `Token.clean`: what is kept of a piece;
* `Token.ofText`: the tokens of a name as it is typed;
* `Token.ofTexts`: the tokens of a name that was split beforehand, as in a training corpus.
-/

namespace NameTagger

open Text

/-- One token of a name. -/
structure Token where
  text : String
  /-- The number of tokens before this one. -/
  position : Nat
  /-- The offset of the first character. -/
  start : Nat
  /-- The offset behind the last character that was kept. -/
  stop : Nat
  isFirst : Bool
  isLast : Bool
deriving DecidableEq, Repr

namespace Token

/-- The abbreviations that keep their point. -/
def abbreviations : List (List Char) :=
  ["Jr.", "Sr.", "Dr.", "Mr.", "Ms.", "Mrs.", "Inc.", "Corp.", "Co.", "Ltd.", "Esq."].map
    String.toList

/-- Whether a character is dropped at the end of a piece. -/
def isTrailing (c : Char) : Bool := c = ',' || c = '.'

/-- Whether characters, given from the last one on, are those of an abbreviation. -/
def isAbbreviationReversed (s : List Char) : Bool := (abbreviations.map List.reverse).contains s

/-- The piece whose characters are given from the last one on, without commas and points at its
end; an abbreviation that comes to light is kept. -/
def cleanReversed : List Char → List Char
  | [] => []
  | c :: s =>
      if isTrailing c && !isAbbreviationReversed (c :: s) then cleanReversed s else c :: s

/-- What is kept of a piece of a name. -/
def clean (piece : List Char) : List Char := (cleanReversed piece.reverse).reverse

/-- Number the pieces of a name, which are given with their offsets. -/
def number (pieces : List (Nat × String)) : List Token :=
  let count := pieces.length
  pieces.mapIdx fun i (start, text) =>
    { text, position := i, start, stop := start + text.length
      isFirst := i = 0, isLast := i + 1 = count }

/-- The piece that is kept of a chunk, if anything is. -/
def ofChunk? (chunk : Chunk) : Option (Nat × String) :=
  match clean chunk.text with
  | [] => none
  | c :: s => some (chunk.start, String.ofList (c :: s))

/-- The tokens of a name. -/
def ofText (text : String) : List Token := number ((chunks text.toList).filterMap ofChunk?)

/-- The offsets of texts that are joined by single characters, from `offset` on. -/
def spaced (offset : Nat) : List String → List (Nat × String)
  | [] => []
  | text :: rest => (offset, text) :: spaced (offset + text.length + 1) rest

/-- The tokens of a name that was split beforehand; the texts are used as they are, with offsets as
if single spaces stood between them. -/
def ofTexts (texts : List String) : List Token := number (spaced 0 texts)

@[simp] theorem clean_nil : clean [] = [] := rfl

theorem isAbbreviationReversed_iff (s : List Char) :
    isAbbreviationReversed s ↔ s.reverse ∈ abbreviations := by
  simp only [isAbbreviationReversed, List.contains_eq_mem, List.mem_map, decide_eq_true_eq]
  constructor
  · rintro ⟨a, ha, rfl⟩
    simpa using ha
  · exact fun h => ⟨_, h, List.reverse_reverse s⟩

@[simp] theorem length_number (pieces : List (Nat × String)) :
    (number pieces).length = pieces.length := by
  simp [number]

end Token

end NameTagger
