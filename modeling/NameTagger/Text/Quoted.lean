import NameTagger.Text.Printable

/-!
# Quoted texts in messages

A message shows a text from outside between quotes.  Single quotes are used unless the text holds
one and no double quote.  A backslash stands before the quote in use, before a backslash and in the
short forms of line feed, carriage return and tab; a character that cannot be printed is written
with its code in two, four or eight hexadecimal digits.

* `quoteFor`, `escape`, `quoted`.
-/

namespace NameTagger.Text

/-- The single quote. -/
def singleQuote : Char := '\x27'

/-- The double quote. -/
def doubleQuote : Char := '\x22'

/-- The backslash. -/
def backslash : Char := '\x5c'

/-- The quote that is put around a text. -/
def quoteFor (s : List Char) : Char :=
  if s.contains singleQuote && !s.contains doubleQuote then doubleQuote else singleQuote

/-- The code of a character in at least `width` hexadecimal digits. -/
def hexDigits (width n : Nat) : List Char :=
  let digits := Nat.toDigits 16 n
  List.replicate (width - digits.length) '0' ++ digits

/-- What stands for a character between the quotes `quote`. -/
def escape (quote c : Char) : List Char :=
  if c = quote || c = backslash then [backslash, c]
  else if c = '\n' then [backslash, 'n']
  else if c = '\r' then [backslash, 'r']
  else if c = '\t' then [backslash, 't']
  else if isPrintable c then [c]
  else if c.toNat ≤ 0xFF then backslash :: 'x' :: hexDigits 2 c.toNat
  else if c.toNat ≤ 0xFFFF then backslash :: 'u' :: hexDigits 4 c.toNat
  else backslash :: 'U' :: hexDigits 8 c.toNat

/-- A text between quotes, as messages show it. -/
def quoted (s : String) : String :=
  let quote := quoteFor s.toList
  String.ofList (quote :: s.toList.flatMap (escape quote) ++ [quote])

end NameTagger.Text
