import NameTagger.Text.Blank
import NameTagger.Text.Digit

/-!
# Reading numbers

White space around a number and a sign before it are allowed, single underscores may stand between
digits, and decimal digits of every script count.

* `ofDecimal`: the binary number nearest to a decimal;
* `readInteger`, `IntegerProblem`: an integer, or why a text denotes none;
* `isOverlong`, `overlongText`: an integer that cannot be written, and the refusal in words;
* `number?`: a binary number, with a point, an exponent, or one of the words for infinity and for an
  undefined value.
-/

namespace NameTagger.Decimal

open NameTagger.Text

/-- The binary number nearest to `digits * 10 ^ exponent`.  Exponents far outside the range need no
arithmetic. -/
def ofDecimal (negative : Bool) (digits : Nat) (exponent : Int) : Float :=
  let x : Float :=
    if digits = 0 then 0.0
    else
      let lead := exponent + (Nat.toDigits 10 digits).length
      if lead > 310 then 1.0 / 0.0
      else if lead < -330 then 0.0
      else Float.ofScientific digits (exponent < 0) exponent.natAbs
  if negative then -x else x

/-- The binary number nearest to an integer. -/
def ofInteger (n : Int) : Float := ofDecimal (n < 0) n.natAbs 0

/-- Whether a number is negative by its sign, and the text behind the sign. -/
def readSign : List Char → Bool × List Char
  | '-' :: s => (true, s)
  | '+' :: s => (false, s)
  | s => (false, s)

/-- Decimal digits of any script become those of the usual ones. -/
def plainDigit (c : Char) : Char :=
  match decimalValue? c with
  | some n => Char.ofNat ('0'.toNat + n)
  | none => c

/-- Whether a character is one of the ten usual digits. -/
def isPlainDigit (c : Char) : Bool := '0' ≤ c && c ≤ '9'

/-- The text without its underscores, if each of them stands between two digits. -/
def dropUnderscores (behindDigit : Bool) : List Char → Option (List Char)
  | [] => some []
  | '_' :: s =>
      if behindDigit && (s.head?.map isPlainDigit).getD false then dropUnderscores false s
      else none
  | c :: s => (dropUnderscores (isPlainDigit c) s).map (c :: ·)

/-- The number that usual digits denote. -/
def valueOf (digits : List Char) : Nat :=
  digits.foldl (fun n c => n * 10 + (c.toNat - '0'.toNat)) 0

/-- Whether a character may surround a number: white space other than the controls that separate
records. -/
def isMargin (c : Char) : Bool := isBlank c && !(0x1C ≤ c.toNat && c.toNat ≤ 0x1F)

/-- A text without the margins around it. -/
def dropMargins (s : List Char) : List Char :=
  ((s.dropWhile isMargin).reverse.dropWhile isMargin).reverse

/-- The text of a number in usual digits, without white space around it. -/
def plainText (s : String) : List Char := (dropMargins s.toList).map plainDigit

/-- Why a text denotes no integer. -/
inductive IntegerProblem where
  | malformed
  /-- It begins with more digits than are read. -/
  | overlong (digits : Nat)
deriving DecidableEq, Repr

/-- The most digits of an integer that are read or written. -/
def longestInteger : Nat := 4300

/-- The refusal of an integer with too many digits, in words: `detail` may tell how many. -/
def overlongText (detail : String) : String :=
  "Exceeds the limit (" ++ toString longestInteger ++ " digits) for integer string conversion" ++
    detail ++ "; use sys.set_int_max_str_digits() to increase the limit"

/-- The refusal to read so many digits, in words. -/
def unreadText (digits : Nat) : String :=
  overlongText (": value has " ++ toString digits ++ " digits")

/-- Whether an integer has more digits than are written. -/
def isOverlong (n : Int) : Bool := Nat.pow 10 longestInteger ≤ n.natAbs

/-- Whether a character continues an integer. -/
def continuesInteger (c : Char) : Bool := isPlainDigit c || c = '_'

/-- The natural number at the beginning of a text, where nothing may stand behind it.  Its digits
are counted before what stands behind them is looked at. -/
def readNatural (s : List Char) : Except IntegerProblem Nat :=
  match dropUnderscores false (s.takeWhile continuesInteger) with
  | none | some [] => .error .malformed
  | some digits =>
      if longestInteger < digits.length then .error (.overlong digits.length)
      else if s.dropWhile continuesInteger = [] then .ok (valueOf digits)
      else .error .malformed

/-- The integer that a text denotes. -/
def readInteger (s : String) : Except IntegerProblem Int :=
  let (negative, unsigned) := readSign (plainText s)
  (readNatural unsigned).map fun n => if negative then -(n : Int) else n

/-- The exponent behind the digits, zero if there is none. -/
def exponent? : List Char → Option Int
  | [] => some 0
  | c :: s =>
      if c = 'e' || c = 'E' then
        let (negative, digits) := readSign s
        if digits = [] || !digits.all isPlainDigit then none
        else some (if negative then -(valueOf digits : Int) else valueOf digits)
      else none

/-- The digits behind a point, and the text behind them. -/
def readFraction : List Char → List Char × List Char
  | '.' :: s => (s.takeWhile isPlainDigit, s.dropWhile isPlainDigit)
  | s => ([], s)

/-- The number that digits with a point and an exponent denote. -/
def decimal? (negative : Bool) (s : List Char) : Option Float := do
  let whole := s.takeWhile isPlainDigit
  let (fraction, rest) := readFraction (s.dropWhile isPlainDigit)
  if whole = [] && fraction = [] then none
  else
    let exponent ← exponent? rest
    some (ofDecimal negative (valueOf (whole ++ fraction)) (exponent - fraction.length))

/-- The binary number that a text denotes. -/
def number? (s : String) : Option Float := do
  let (negative, unsigned) := readSign (← dropUnderscores false (plainText s))
  let word := unsigned.map Char.toLower
  if word = ['i', 'n', 'f'] || word = ['i', 'n', 'f', 'i', 'n', 'i', 't', 'y'] then
    some (if negative then -(1.0 / 0.0) else 1.0 / 0.0)
  else if word = ['n', 'a', 'n'] then some (0.0 / 0.0)
  else decimal? negative unsigned

end NameTagger.Decimal
