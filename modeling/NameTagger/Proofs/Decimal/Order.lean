import Mathlib.Order.Basic

/-!
# Comparisons with zero

A binary number is below zero, or not, or it is undefined and no comparison holds of it.

* `compare_zero`, `compare_zero_eq_none_iff`: a comparison with zero the other way round, and when
  there is nothing to compare;
* `not_lt_zero_iff`, `not_le_zero_iff`: what it means that a comparison with zero fails.
-/

namespace NameTagger.Decimal

open Float.Model

/-- Zero compares to a number in the opposite way as the number to zero. -/
theorem compare_zero (sign : UnpackedFloat.Sign) (u : UnpackedFloat) :
    (UnpackedFloat.zero sign).compare u = (u.compare (.zero sign)).map Ordering.swap := by
  cases u with
  | infinity s => cases s <;> rfl
  | notANumber => rfl
  | zero s => rfl
  | finite s m e hm => cases s <;> rfl

/-- Only an undefined value cannot be compared with zero. -/
theorem compare_zero_eq_none_iff (sign : UnpackedFloat.Sign) (u : UnpackedFloat) :
    u.compare (.zero sign) = none ↔ u.isNaN = true := by
  cases u with
  | infinity s => cases s <;> exact iff_of_false nofun Bool.false_ne_true
  | notANumber => exact iff_of_true rfl rfl
  | zero s => exact iff_of_false nofun Bool.false_ne_true
  | finite s m e hm => cases s <;> exact iff_of_false nofun Bool.false_ne_true

theorem lt_iff (x y : Float) :
    x < y ↔ x.toModel.unpack.compare y.toModel.unpack = some .lt :=
  (decide_eq_true_iff (p := x.toModel < y.toModel)).trans beq_iff_eq

theorem le_iff (x y : Float) :
    x ≤ y ↔ (x.toModel.unpack.compare y.toModel.unpack).any (·.isLE) = true :=
  decide_eq_true_iff (p := x.toModel ≤ y.toModel)

theorem unpack_zero : (0.0 : Float).toModel.unpack = .zero .positive := rfl

section

variable (x : Float)

theorem isNaN_iff : x.isNaN = true ↔ x.toModel.unpack.compare (.zero .positive) = none :=
  (compare_zero_eq_none_iff .positive x.toModel.unpack).symm

/-- What is not below zero is zero or above, or undefined. -/
theorem not_lt_zero_iff : ¬x < 0.0 ↔ 0.0 ≤ x ∨ x.isNaN = true := by
  rw [lt_iff, le_iff, isNaN_iff, unpack_zero, compare_zero]
  cases x.toModel.unpack.compare (.zero .positive) with
  | none => simp
  | some order => cases order <;> simp

/-- What is not zero or below is above zero, or undefined. -/
theorem not_le_zero_iff : ¬x ≤ 0.0 ↔ 0.0 < x ∨ x.isNaN = true := by
  rw [lt_iff, le_iff, isNaN_iff, unpack_zero, compare_zero]
  cases x.toModel.unpack.compare (.zero .positive) with
  | none => simp
  | some order => cases order <;> simp

end

end NameTagger.Decimal
