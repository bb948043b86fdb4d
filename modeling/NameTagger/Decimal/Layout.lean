import NameTagger.Decimal.Shortest

/-!
# How numbers are written

* `Layout`, `Layout.write`: a finite number with the fewest digits that identify it, positionally or
  with an exponent;
* `fixed`: a number with a set number of places;
* `grouped`: a natural number with its thousands set apart.
-/

namespace NameTagger.Decimal

/-- Where a number is written positionally, and how its exponent looks otherwise. -/
structure Layout where
  /-- The least exponent of the leading digit that is written positionally. -/
  leastPlain : Int
  /-- The number of exponents, from zero on, that are written positionally. -/
  plainBelow : Int
  /-- The least number of digits of a written exponent. -/
  exponentWidth : Nat
deriving DecidableEq, Repr

/-- A number of zeros. -/
def zeros (n : Nat) : String := String.ofList (List.replicate n '0')

/-- The digits of a natural number. -/
def digitsOf (n : Nat) : String := String.ofList (Nat.toDigits 10 n)

/-- An exponent with its sign and at least `width` digits. -/
def exponentText (width : Nat) (e : Int) : String :=
  let digits := digitsOf e.natAbs
  (if e < 0 then "-" else "+") ++ zeros (width - digits.length) ++ digits

/-- Digits with a point behind the first `n` of them. -/
def pointAfter (n : Nat) (digits : List Char) : String :=
  String.ofList (digits.take n) ++ "." ++ String.ofList (digits.drop n)

/-- A positive decimal. -/
def Layout.writeDecimal (layout : Layout) (d : Numeral) : String :=
  let digits := Nat.toDigits 10 d.digits
  let lead := d.exponent + digits.length - 1
  if layout.leastPlain ≤ lead && lead < layout.plainBelow then
    if lead < 0 then "0." ++ zeros (-lead - 1).toNat ++ String.ofList digits
    else if 0 ≤ d.exponent then String.ofList digits ++ zeros d.exponent.toNat ++ ".0"
    else pointAfter (lead + 1).toNat digits
  else
    (if digits.length = 1 then String.ofList digits else pointAfter 1 digits) ++ "e" ++
      exponentText layout.exponentWidth lead

/-- A finite number. -/
def Layout.write (layout : Layout) (x : Float) : String :=
  (if isNegative x then "-" else "") ++
    if (Magnitude.ofFloat x).mantissa = 0 then "0.0"
    else layout.writeDecimal (Magnitude.ofFloat x).shortest

/-- Numbers in messages: positional from the fourth place behind the point to the sixteenth before
it, exponents of two digits. -/
def messageLayout : Layout := ⟨-4, 16, 2⟩

/-- The text of a number that is not finite. -/
def special? (x : Float) : Option String :=
  if x.isNaN then some "nan"
  else if x.isInf then some (if isNegative x then "-inf" else "inf")
  else none

/-- A number in a message. -/
def messageText (x : Float) : String := (special? x).getD (messageLayout.write x)

/-- A number with `places` digits behind the point; its exact value is rounded, a half to even. -/
def fixed (places : Nat) (x : Float) : String :=
  match special? x with
  | some text => text
  | none =>
      let m := Magnitude.ofFloat x
      let digits := Nat.toDigits 10 (roundHalfEven (Ratio.scaled m.mantissa m.exponent places))
      let padded := List.replicate (places + 1 - digits.length) '0' ++ digits
      (if isNegative x then "-" else "") ++ pointAfter (padded.length - places) padded

/-- The digits of a number, given from the last one on, with a comma behind every third. -/
def groupedReversed : List Char → List Char
  | a :: b :: c :: d :: rest => a :: b :: c :: ',' :: groupedReversed (d :: rest)
  | digits => digits

/-- A natural number with commas between its thousands. -/
def grouped (n : Nat) : String :=
  String.ofList (groupedReversed (Nat.toDigits 10 n).reverse).reverse

end NameTagger.Decimal
