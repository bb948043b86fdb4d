import NameTagger.Decimal.Binary

/-!
# The fewest decimal digits that identify a number

A binary number stands for an interval of reals, those that round to it.  Among the decimals in the
interval the ones with the fewest digits are taken, and of these the nearest to the number; of two
equally near ones the even one.

* `Numeral`: digits and a power of ten;
* `Magnitude.accepts`: a decimal lies in the interval;
* `Magnitude.shortest`: the decimal that is taken.
-/

namespace NameTagger.Decimal

/-- The value `digits * 10 ^ exponent`. -/
structure Numeral where
  digits : Nat
  exponent : Int
deriving DecidableEq, Repr

/-- The number of decimal digits of a natural number; zero has one. -/
def digitCount (n : Nat) : Nat := (Nat.toDigits 10 n).length

/-- The decimal without the zeros at the end of its digits. -/
def Numeral.strip (d : Numeral) : Numeral :=
  if h : d.digits ≠ 0 ∧ d.digits % 10 = 0 then
    Numeral.strip ⟨d.digits / 10, d.exponent + 1⟩
  else d
termination_by d.digits
decreasing_by
  have := h.1
  show d.digits / 10 < d.digits
  omega

/-- The order of `d` and `n * 2 ^ e`. -/
def Numeral.compareTo (d : Numeral) (n : Nat) (e : Int) : Ordering :=
  compare (d.digits * Nat.pow 10 d.exponent.toNat * Nat.pow 2 (-e).toNat)
    (n * Nat.pow 2 e.toNat * Nat.pow 10 (-d.exponent).toNat)

namespace Magnitude

/-- Whether a decimal rounds to the number.  The bounds lie halfway to the neighbours, and belong to
the interval when the mantissa is even. -/
def accepts (x : Magnitude) (d : Numeral) : Bool :=
  let lower := if x.narrowBelow then 4 * x.mantissa - 1 else 4 * x.mantissa - 2
  let upper := 4 * x.mantissa + 2
  let closed := x.mantissa % 2 = 0
  let below := d.compareTo lower (x.exponent - 2)
  let above := d.compareTo upper (x.exponent - 2)
  (below = .gt || (closed && below = .eq)) && (above = .lt || (closed && above = .eq))

/-- The number of digits before the point, negative when zeros follow the point: the least `k` with
the value below `10 ^ k`. -/
def point (x : Magnitude) : Int :=
  let r := Ratio.scaled x.mantissa x.exponent 0
  if r.den ≤ r.num then (digitCount (r.num / r.den) : Int)
  else 1 - (digitCount ((r.den + r.num - 1) / r.num - 1) : Int)

/-- The better of the two neighbours of the number among the multiples of `10 ^ e`, if one of them
rounds to the number. -/
def nearest? (x : Magnitude) (e : Int) : Option Numeral :=
  let r := Ratio.scaled x.mantissa x.exponent (-e)
  let q := r.num / r.den
  let low : Numeral := ⟨q, e⟩
  let high : Numeral := ⟨q + 1, e⟩
  match x.accepts low, x.accepts high with
  | true, true => some ⟨roundHalfEven r, e⟩
  | true, false => some low
  | false, true => some high
  | false, false => none

/-- The exact value. -/
def exact (x : Magnitude) : Numeral :=
  if 0 ≤ x.exponent then ⟨x.mantissa * Nat.pow 2 x.exponent.toNat, 0⟩
  else ⟨x.mantissa * Nat.pow 5 (-x.exponent).toNat, x.exponent⟩

/-- The most digits that are tried before the exact value is taken; they identify every number. -/
def mostDigits : Nat := 17

/-- The decimal of fewest digits that rounds to a positive number. -/
def shortest (x : Magnitude) : Numeral :=
  let k := x.point
  (((List.range mostDigits).findSome? fun (n : Nat) => x.nearest? (k - (n + 1))).getD x.exact).strip

end Magnitude

end NameTagger.Decimal
