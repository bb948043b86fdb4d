import Mathlib
import NameTagger.Feature.Basic

/-!
# Sums that begin with zero

A weight is added to zero when its name comes for the first time.  Binary numbers are no exact
arithmetic, but this one sum is: zero is neutral to every number but the negative zero.

* `IsUnsigned`, `zero_add_unpacked`: numbers without a sign, to which zero is neutral;
* `isUnsigned_mul_finite`, `isUnsigned_ofScientific`: numbers that are made without a sign;
* `zero_add_count`: zero is neutral to whole numbers.
-/

namespace NameTagger.Decimal

open Float.Model (UnpackedFloat)
open Float.Model.UnpackedFloat

/-! ### Numbers without a sign -/

/-- An unpacked number without a sign; what is not a number has none. -/
def IsUnsigned : UnpackedFloat → Prop
  | .infinity sign => sign = .positive
  | .zero sign => sign = .positive
  | .finite sign _ _ _ => sign = .positive
  | .notANumber => True

section

variable {u : UnpackedFloat} {spec : Float.Model.Format}

theorem zero_add_unpacked (h : IsUnsigned u) : add spec (.zero .positive) u = u := by
  cases u with
  | infinity sign => rfl
  | notANumber => rfl
  | zero sign =>
    obtain rfl : sign = .positive := h
    rfl
  | finite sign mantissa exponent pos => rfl

theorem isUnsigned_unpack {bits : BitVec spec.numBits} (h : unpackSign bits = 0#1) :
    IsUnsigned (unpack spec bits) := by
  have hsign : Sign.ofBitVec (unpackSign bits) = .positive := by rw [h]; rfl
  rw [unpack, hsign]
  split
  · split
    · rfl
    · trivial
  · split
    · split <;> rfl
    · rfl

theorem unpackSign_pack (h : IsUnsigned u) : unpackSign (pack .binary64 u) = 0#1 := by
  cases u with
  | infinity sign =>
    obtain rfl : sign = .positive := h
    exact unpackSign_packComponents _ _ _
  | notANumber => exact unpackSign_packComponents _ _ _
  | zero sign =>
    obtain rfl : sign = .positive := h
    exact unpackSign_packComponents _ _ _
  | finite sign mantissa exponent pos =>
    obtain rfl : sign = .positive := h
    rw [pack]
    split
    · exact unpackSign_packComponents _ _ _
    · split <;> exact unpackSign_packComponents _ _ _

theorem isUnsigned_roundWithAccuracy (mantissa : Nat) (exponent : Int) (accuracy : Accuracy) :
    IsUnsigned (roundWithAccuracy spec .positive mantissa exponent accuracy) := by
  rw [roundWithAccuracy]
  dsimp only
  split <;> rfl

theorem isUnsigned_mul_finite (hu : IsUnsigned u) {mantissa : Nat} {exponent : Int}
    (pos : 0 < mantissa) : IsUnsigned (mul spec u (.finite .positive mantissa exponent pos)) := by
  cases u with
  | infinity sign =>
    obtain rfl : sign = .positive := hu
    rfl
  | notANumber => trivial
  | zero sign =>
    obtain rfl : sign = .positive := hu
    rfl
  | finite sign _ _ _ =>
    obtain rfl : sign = .positive := hu
    exact isUnsigned_roundWithAccuracy _ _ _

theorem isUnsigned_ofNat (n : Nat) : IsUnsigned (ofNat spec n) := by
  rw [ofNat, ofInt, UnpackedFloat.normalize]
  split
  · next h =>
    have hneg := Int.compare_eq_lt.1 h
    omega
  · rfl
  · exact isUnsigned_roundWithAccuracy _ _ _

theorem isUnsigned_ofScientific (n : Nat) : IsUnsigned (ofScientific spec n 0) := by
  rw [ofScientific]
  split
  · rfl
  split
  · rfl
  split
  · rfl
  rw [if_pos (Int.le_refl 0)]
  exact isUnsigned_mul_finite (by rfl) _

end

/-! ### Sums of binary numbers -/

theorem pack_unpack_model (m : Float.Model) : Float.Model.pack m.unpack = m := by
  obtain ⟨bits, valid⟩ := m
  simp only [Float.Model.pack, Float.Model.unpack, pack_unpack_of_valid valid]

/-- Zero is neutral to a number that was made without a sign. -/
theorem zero_add_ofModel_pack {u : UnpackedFloat} (h : IsUnsigned u) :
    0 + Float.ofModel (.pack u) = Float.ofModel (.pack u) := by
  have hsum : UnpackedFloat.add .binary64 (.zero .positive) (Float.Model.pack u).unpack =
      (Float.Model.pack u).unpack :=
    zero_add_unpacked (isUnsigned_unpack (unpackSign_pack h))
  calc 0 + Float.ofModel (.pack u)
      = Float.ofModel (.pack (UnpackedFloat.add .binary64 (.zero .positive)
          (Float.Model.pack u).unpack)) := rfl
    _ = Float.ofModel (.pack u) := by rw [hsum, pack_unpack_model]

/-- Zero is neutral to every whole number. -/
theorem zero_add_count (n : Nat) : (0 : Float) + Feature.count n = Feature.count n := by
  have hcount : (Feature.count n : Float) = Float.ofScientific n false 0 := rfl
  have hone : Float.exactlyRepresentablePowersOfTen[0].toModel.unpack =
      .finite .positive (2 ^ 52) (-52) (by decide) := rfl
  rw [hcount, Float.ofScientific]
  split
  · refine zero_add_ofModel_pack ?_
    rw [hone]
    exact isUnsigned_mul_finite (isUnsigned_unpack (unpackSign_pack (isUnsigned_ofNat _))) _
  · exact zero_add_ofModel_pack (isUnsigned_ofScientific n)

end NameTagger.Decimal
