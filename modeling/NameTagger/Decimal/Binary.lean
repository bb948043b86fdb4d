/-!
# Binary numbers as exact values

* `Magnitude`: the absolute value of a finite binary number, `mantissa * 2 ^ exponent`;
* `Magnitude.ofFloat`, `isNegative`: the parts of a number;
* `roundHalfEven`: a quotient rounded to the nearest integer, a half to the even one;
* `Ratio`: the same value as a quotient of two natural numbers;
* `Magnitude.roundsBelow`, `exceedsAll`: where a quotient of integers lies among the binary numbers.
-/

namespace NameTagger.Decimal

/-- The absolute value `mantissa * 2 ^ exponent` of a finite binary number. -/
structure Magnitude where
  mantissa : Nat
  exponent : Int
  /-- The next number below is half as far away as the next number above. -/
  narrowBelow : Bool
deriving DecidableEq, Repr

/-- The magnitude that the bits of a finite number denote. -/
def Magnitude.ofBits (bits : UInt64) : Magnitude :=
  let biased := ((bits >>> 52) &&& 0x7FF).toNat
  let fraction := (bits &&& 0xFFFFFFFFFFFFF).toNat
  if biased = 0 then ⟨fraction, -1074, false⟩
  else ⟨Nat.pow 2 52 + fraction, (biased : Int) - 1075, fraction = 0 && 1 < biased⟩

/-- The magnitude of a finite number. -/
def Magnitude.ofFloat (x : Float) : Magnitude := ofBits x.toBits

/-- Whether the sign bit is set; it is for negative zero too. -/
def isNegative (x : Float) : Bool := x.toBits >>> 63 == 1

/-- A quotient of natural numbers. -/
structure Ratio where
  num : Nat
  den : Nat
deriving DecidableEq, Repr

/-- The value `n * 2 ^ e * 10 ^ d`. -/
def Ratio.scaled (n : Nat) (e d : Int) : Ratio :=
  ⟨n * Nat.pow 2 e.toNat * Nat.pow 10 d.toNat, Nat.pow 2 (-e).toNat * Nat.pow 10 (-d).toNat⟩

/-- A quotient rounded to the nearest integer, a half to the even neighbour. -/
def roundHalfEven (r : Ratio) : Nat :=
  let q := r.num / r.den
  match compare (2 * (r.num % r.den)) r.den with
  | .lt => q
  | .gt => q + 1
  | .eq => if q % 2 = 0 then q else q + 1

/-- Whether the binary number nearest to `num / den` lies below `bound`: the quotient does not reach
the middle between the bound and the number before it.  On the middle the even mantissa counts. -/
def Magnitude.roundsBelow (num : Int) (den : Nat) (bound : Magnitude) : Bool :=
  let middle : Nat := if bound.narrowBelow then 4 * bound.mantissa - 1 else 4 * bound.mantissa - 2
  let unit := Ratio.scaled 1 (bound.exponent - 2) 0
  match compare (num * unit.den) (middle * unit.num * den : Nat) with
  | .lt => true
  | .eq => bound.mantissa % 2 = 1
  | .gt => false

/-- Whether `num / den` is too far from zero for a binary number: it reaches the middle between the
greatest one and `2 ^ 1024`. -/
def exceedsAll (num : Int) (den : Nat) : Bool :=
  (Nat.pow 2 1024 - Nat.pow 2 970) * den ≤ num.natAbs

end NameTagger.Decimal
