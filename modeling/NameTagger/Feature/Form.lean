import NameTagger.Text.Case
import NameTagger.Text.Digit

/-!
# Forms and properties of a token text

* `isPunctuation`, `dropPunctuation`: the punctuation marks of the basic alphabet;
* `shape`: the text with its letters and digits replaced by `X`, `x` and `d`;
* `bare`: the text in lower case without punctuation;
* `front?`, `back?`: the first and the last characters;
* `isCapitalized`, `isAllUpper`, `isAllLower`, `hasDigit`, `hasPunctuation`, `isNumeric`;
* `shapeOf?`, `frontOf?`, `backOf?`, `holds`: the same of a text that may be absent.
-/

namespace NameTagger.Form

open Text

/-- Whether a character is a punctuation mark of the basic alphabet. -/
def isPunctuation (c : Char) : Bool :=
  let n := c.toNat
  (0x21 ≤ n && n ≤ 0x2F) || (0x3A ≤ n && n ≤ 0x40) || (0x5B ≤ n && n ≤ 0x60) ||
    (0x7B ≤ n && n ≤ 0x7E)

/-- A text without its punctuation marks. -/
def dropPunctuation (s : List Char) : List Char := s.filter fun c => !isPunctuation c

/-- A text in lower case without punctuation marks. -/
def bare (s : List Char) : List Char := dropPunctuation (lower s)

/-- What stands for a character in the shape of a text. -/
def shapeChar (c : Char) : Char :=
  if isUpper c then 'X' else if isLower c then 'x' else if isDigit c then 'd' else c

/-- The shape of a text. -/
def shape (s : List Char) : List Char := s.map shapeChar

/-- The first `n` characters, or all if there are fewer; none for a length that is not positive. -/
def front? (n : Int) (s : List Char) : Option (List Char) :=
  if n ≤ 0 then none else some (s.take n.toNat)

/-- The last `n` characters, or all if there are fewer; none for a length that is not positive. -/
def back? (n : Int) (s : List Char) : Option (List Char) :=
  if n ≤ 0 then none else some (s.drop (s.length - n.toNat))

/-- The text begins with an upper-case letter. -/
def isCapitalized : List Char → Bool
  | [] => false
  | c :: _ => isUpper c

/-- The text has upper-case letters and no others. -/
def isAllUpper (s : List Char) : Bool := allUpper s

/-- The text has lower-case letters and no others. -/
def isAllLower (s : List Char) : Bool := allLower s

/-- The text has a digit. -/
def hasDigit (s : List Char) : Bool := s.any isDigit

/-- The text has a punctuation mark. -/
def hasPunctuation (s : List Char) : Bool := s.any isPunctuation

/-- The text is made of digits, points and commas. -/
def isNumeric (s : List Char) : Bool :=
  !s.isEmpty && s.all fun c => isDigit c || c = '.' || c = ','

/-- The shape of a text that may be absent. -/
def shapeOf? (text? : Option (List Char)) : Option (List Char) := text?.map shape

/-- The first `n` characters of a text that may be absent. -/
def frontOf? (text? : Option (List Char)) (n : Int) : Option (List Char) := text?.bind (front? n)

/-- The last `n` characters of a text that may be absent. -/
def backOf? (text? : Option (List Char)) (n : Int) : Option (List Char) := text?.bind (back? n)

/-- A property of a text that may be absent; it does not hold then. -/
def holds (property : List Char → Bool) (text? : Option (List Char)) : Bool := text?.any property

end NameTagger.Form
