import NameTagger.Decimal.Read
import NameTagger.Text.Reference.Names

/-!
# Character references

Markup writes a character as `&name;`, `&#decimal;` or `&#xhexadecimal;`.

* `Reference`, `Reference.read`: the reference that begins behind an ampersand;
* `Reference.text`: what it stands for.  A code that is no character gives the replacement
  character, a few codes give nothing, and the codes from 0x80 to 0x9F stand for the printable
  characters that old pages meant by them.  Of an unknown name the longest known beginning counts;
* `decodeReferences`: a text with every reference replaced;
* `overlongCode?`, `hasOverlongCode`: a decimal code has more digits than are read as a number.
-/

namespace NameTagger.Text

/-- A reference as it stands behind the ampersand, without the mark `#` of a code. -/
inductive Reference where
  | code (n : Nat)
  | name (s : List Char)
deriving DecidableEq, Repr

namespace Reference

/-- The value of a hexadecimal digit. -/
def hexValue? (c : Char) : Option Nat :=
  if '0' ≤ c && c ≤ '9' then some (c.toNat - '0'.toNat)
  else if 'a' ≤ c && c ≤ 'f' then some (c.toNat - 'a'.toNat + 10)
  else if 'A' ≤ c && c ≤ 'F' then some (c.toNat - 'A'.toNat + 10)
  else none

/-- Whether a character is one of the ten digits. -/
def isCodeDigit (c : Char) : Bool := '0' ≤ c && c ≤ '9'

/-- The number that digits of a base denote. -/
def codeOf (base : Nat) (digits : List Char) : Nat :=
  digits.foldl (fun n c => n * base + (hexValue? c).getD 0) 0

/-- Whether a character may stand in a name. -/
def isNameChar (c : Char) : Bool :=
  !(c = '\t' || c = '\n' || c = '\x0c' || c = ' ' || c = '<' || c = '&' || c = '#' || c = ';')

/-- The most characters that are read as a name, a final semicolon apart. -/
def longestName : Nat := 32

/-- One if the text begins with a semicolon. -/
def semicolon : List Char → Nat
  | ';' :: _ => 1
  | _ => 0

/-- A code of digits in a base, which `marks` characters introduce. -/
def readCode (marks base : Nat) (isDigit : Char → Bool) (s : List Char) :
    Option (Reference × Nat) :=
  match s.takeWhile isDigit with
  | [] => none
  | d :: ds =>
      some (.code (codeOf base (d :: ds)),
        marks + (d :: ds).length + semicolon (s.dropWhile isDigit))

/-- The reference at the beginning of a text behind an ampersand, with its length. -/
def read : List Char → Option (Reference × Nat)
  | '#' :: 'x' :: s => readCode 2 16 (fun c => (hexValue? c).isSome) s
  | '#' :: 'X' :: s => readCode 2 16 (fun c => (hexValue? c).isSome) s
  | '#' :: s => readCode 1 10 isCodeDigit s
  | s =>
      match (s.takeWhile isNameChar).take longestName with
      | [] => none
      | c :: cs =>
          let name := c :: cs
          if semicolon (s.drop name.length) = 1 then
            some (.name (name ++ [';']), name.length + 1)
          else some (.name name, name.length)

/-- The characters that old pages meant by the codes from 0x80 to 0x9F, in order. -/
def legacyCodes : List Nat := [
    0x20AC, 0x81, 0x201A, 0x192, 0x201E, 0x2026, 0x2020, 0x2021, 0x2C6, 0x2030, 0x160, 0x2039,
    0x152, 0x8D, 0x17D, 0x8F, 0x90, 0x2018, 0x2019, 0x201C, 0x201D, 0x2022, 0x2013, 0x2014,
    0x2DC, 0x2122, 0x161, 0x203A, 0x153, 0x9D, 0x17E, 0x178]

/-- The replacement character. -/
def replacement : Char := Char.ofNat 0xFFFD

/-- Whether a code gives nothing: most controls and the code points that are no characters. -/
def isVoidCode (n : Nat) : Bool :=
  (0x1 ≤ n && n ≤ 0x8) || n = 0xB || (0xE ≤ n && n ≤ 0x1F) || n = 0x7F ||
    (0xFDD0 ≤ n && n ≤ 0xFDEF) || n % 0x10000 = 0xFFFE || n % 0x10000 = 0xFFFF

/-- The text that a code stands for. -/
def codeText (n : Nat) : List Char :=
  if n = 0 then [replacement]
  else if 0x80 ≤ n && n ≤ 0x9F then (legacyCodes[n - 0x80]?).toList.map Char.ofNat
  else if (0xD800 ≤ n && n ≤ 0xDFFF) || n > 0x10FFFF then [replacement]
  else if isVoidCode n then []
  else [Char.ofNat n]

/-- The longest known name among the beginnings of `s` that have between two and `n` characters,
replaced, with the rest of `s` behind it. -/
def longestKnown (s : List Char) : Nat → Option (List Char)
  | 0 => none
  | n + 1 =>
      if n = 0 then none
      else
        match named? (s.take (n + 1)) with
        | some codes => some (codes.map Char.ofNat ++ s.drop (n + 1))
        | none => longestKnown s n

/-- The text that a name stands for; an unknown name stands for itself. -/
def nameText (s : List Char) : List Char :=
  match named? s with
  | some codes => codes.map Char.ofNat
  | none => (longestKnown s (s.length - 1)).getD ('&' :: s)

/-- The text that a reference stands for. -/
def text : Reference → List Char
  | .code n => codeText n
  | .name s => nameText s

end Reference

/-- A text with every character reference replaced.  What a reference stands for is not read
again, and an ampersand that begins no reference stays. -/
def decodeReferences : List Char → List Char
  | [] => []
  | c :: s =>
      if c = '&' then
        match Reference.read s with
        | some (reference, length) => reference.text ++ decodeReferences (s.drop length)
        | none => '&' :: decodeReferences s
      else c :: decodeReferences s
termination_by s => s.length
decreasing_by
  · simp only [List.length_drop, List.length_cons]
    omega
  · simp
  · simp

/-- The number of digits of the decimal code that begins behind an ampersand; hexadecimal ones may
have any number. -/
def codeLength : List Char → Nat
  | '#' :: s => (s.takeWhile Reference.isCodeDigit).length
  | _ => 0

/-- The number of digits of the first decimal code in a text that has more of them than are read.
No other reference goes on over an ampersand, so that every such code counts as one. -/
def overlongCode? : List Char → Option Nat
  | [] => none
  | c :: s =>
      if c = '&' && Decimal.longestInteger < codeLength s then some (codeLength s)
      else overlongCode? s

/-- Whether a text refers to a character by a decimal code of too many digits. -/
def hasOverlongCode (s : List Char) : Bool := (overlongCode? s).isSome

@[simp] theorem hasOverlongCode_nil : hasOverlongCode [] = false := rfl

theorem hasOverlongCode_cons_of_ne {c : Char} (h : c ≠ '&') (s : List Char) :
    hasOverlongCode (c :: s) = hasOverlongCode s := by
  simp [hasOverlongCode, overlongCode?, h]

theorem hasOverlongCode_eq_false {s : List Char} :
    hasOverlongCode s = false ↔ overlongCode? s = none := by
  rw [hasOverlongCode, Option.isSome_eq_false_iff, Option.isNone_iff_eq_none]

@[simp] theorem decodeReferences_nil : decodeReferences [] = [] := by
  simp [decodeReferences]

end NameTagger.Text
