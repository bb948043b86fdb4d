import NameTagger.Text.Span

/-!
# White space and the words of a text

* `isBlank`: the white-space characters, line breaks and separators included;
* `Chunk`, `chunks`: the maximal runs of other characters, with the offset of each;
* `words`, `squeeze`: the runs alone, and the runs joined by single spaces;
* `trim`, `trimEnd`: a text without the white space around it or behind it.
-/

namespace NameTagger.Text

/-- The spans of the white-space characters. -/
def blankSpans : List Span := [
    ⟨0x9, 0xD, 1⟩, ⟨0x1C, 0x20, 1⟩, ⟨0x85, 0x85, 1⟩, ⟨0xA0, 0xA0, 1⟩, ⟨0x1680, 0x1680, 1⟩,
    ⟨0x2000, 0x200A, 1⟩, ⟨0x2028, 0x2029, 1⟩, ⟨0x202F, 0x202F, 1⟩, ⟨0x205F, 0x205F, 1⟩,
    ⟨0x3000, 0x3000, 1⟩]

/-- Whether a character is white space. -/
def isBlank (c : Char) : Bool := Span.mem blankSpans c.toNat

/-- Whether a character belongs to a word. -/
def isSolid (c : Char) : Bool := !isBlank c

/-- A maximal run of characters that are not white space. -/
structure Chunk where
  /-- The offset of the first character. -/
  start : Nat
  text : List Char
deriving DecidableEq, Repr

/-- The chunks of a text whose first character has the given offset. -/
def chunksFrom (offset : Nat) : List Char → List Chunk
  | [] => []
  | c :: s =>
      if isBlank c then chunksFrom (offset + 1) s
      else
        ⟨offset, c :: s.takeWhile isSolid⟩ ::
          chunksFrom (offset + 1 + (s.takeWhile isSolid).length) (s.dropWhile isSolid)
termination_by s => s.length
decreasing_by
  · simp
  · have := (List.dropWhile_sublist (p := isSolid) (l := s)).length_le
    simp only [List.length_cons]
    omega

/-- The chunks of a text. -/
def chunks (s : List Char) : List Chunk := chunksFrom 0 s

/-- The words of a text, in order. -/
def words (s : List Char) : List (List Char) := (chunks s).map (·.text)

/-- Join words by single spaces. -/
def joinWords (ws : List (List Char)) : List Char := [' '].intercalate ws

/-- The words of a text joined by single spaces. -/
def squeeze (s : List Char) : List Char := joinWords (words s)

/-- A text without the white space at its end. -/
def trimEnd (s : List Char) : List Char := (s.reverse.dropWhile isBlank).reverse

/-- A text without the white space around it. -/
def trim (s : List Char) : List Char := trimEnd (s.dropWhile isBlank)

end NameTagger.Text
