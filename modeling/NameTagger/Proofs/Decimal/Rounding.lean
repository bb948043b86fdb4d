import Mathlib
import NameTagger.Decimal.Binary

/-!
# Rounding of binary numbers

Binary numbers are rounded with the help of two bits behind the mantissa.  The bits locate the exact
value well enough to find the nearest number.

* `Located`: where the exact value lies, by a mantissa and the bits behind it;
* `Located.shiftRight`, `located_div`: values that are halved, and quotients;
* `Located.roundedMantissa_eq`: the nearest integer;
* `Magnitude.IsCanonical`, `Magnitude.Admits`: a positive binary number, and the values that are
  rounded to it;
* `roundWithAccuracy_eq`: a value is rounded to the number that admits it.
-/

namespace NameTagger.Decimal

open Float.Model
open Float.Model.UnpackedFloat

/-! ### Mantissas -/

/-- The exact value, in units of the mantissa: the first bit behind it tells whether a half is
reached, the second whether there is anything else. -/
def Located : ExtendedMantissa → ℚ → Prop
  | ⟨m, false, false⟩, x => x = m
  | ⟨m, false, true⟩, x => m < x ∧ x < m + 1 / 2
  | ⟨m, true, false⟩, x => x = m + 1 / 2
  | ⟨m, true, true⟩, x => m + 1 / 2 < x ∧ x < m + 1

namespace Located

variable {em : ExtendedMantissa} {x : ℚ}

theorem bounds (h : Located em x) : em.mantissa ≤ x ∧ x < em.mantissa + 1 := by
  obtain ⟨m, r, s⟩ := em
  cases r <;> cases s <;> simp only [Located] at h ⊢ <;> constructor <;> linarith

theorem shiftRightOne (h : Located em x) : Located em.shiftRightOne (x / 2) := by
  obtain ⟨m, r, s⟩ := em
  have hm : (m : ℚ) = 2 * (m / 2 : ℕ) + (m % 2 : ℕ) := by exact_mod_cast (Nat.div_add_mod m 2).symm
  rw [ExtendedMantissa.shiftRightOne]
  generalize m / 2 = half at *
  rcases Nat.mod_two_eq_zero_or_one m with hbit | hbit <;> simp only [hbit] at hm ⊢ <;>
    push_cast at hm <;> cases r <;> cases s <;> simp only [Located] at h ⊢
  all_goals
    first
    | change x / 2 = half; linarith
    | change x / 2 = half + 1 / 2; linarith
    | change (half : ℚ) < x / 2 ∧ x / 2 < half + 1 / 2; constructor <;> linarith
    | change half + 1 / 2 < x / 2 ∧ x / 2 < half + 1; constructor <;> linarith

/-- Every shift to the right halves the value. -/
theorem shiftRight (h : Located em x) (n : ℕ) : Located (em >>> n) (x / 2 ^ n) := by
  show Located (n.repeat ExtendedMantissa.shiftRightOne em) _
  induction n with
  | zero => simpa [Nat.repeat] using h
  | succ n ih =>
    have hhalf := ih.shiftRightOne
    rwa [div_div, ← pow_succ] at hhalf

/-- The rounded mantissa is the nearest integer, and an even one in the middle. -/
theorem roundedMantissa_eq (h : Located em x) {n : ℕ} (hlow : (n : ℚ) - 1 / 2 ≤ x)
    (hhigh : x ≤ n + 1 / 2) (heven : x = n - 1 / 2 ∨ x = n + 1 / 2 → n % 2 = 0) :
    em.roundedMantissa = n := by
  obtain ⟨m, r, s⟩ := em
  have hlt {a b : ℕ} (hab : (a : ℚ) < b + 1) : a ≤ b := by
    have : a < b + 1 := by exact_mod_cast hab
    omega
  cases r <;> cases s <;> simp only [Located] at h
  · change m = n
    exact Nat.le_antisymm (hlt (by linarith)) (hlt (by linarith))
  · change m = n
    exact Nat.le_antisymm (hlt (by linarith [h.1])) (hlt (by linarith [h.2]))
  · -- in the middle: the neighbour that is even
    have hmn : m ≤ n := hlt (by linarith)
    have hnm : n ≤ m + 1 := hlt (by push_cast; linarith)
    change m + m % 2 = n
    rcases Nat.eq_or_lt_of_le hmn with rfl | hlt'
    · have := heven (.inr h)
      omega
    · obtain rfl : n = m + 1 := by omega
      have := heven (.inl (by rw [h]; push_cast; ring))
      omega
  · change m + 1 = n
    exact Nat.le_antisymm (hlt (by push_cast; linarith [h.1]))
      (hlt (by push_cast; linarith [h.2]))

end Located

theorem mantissa_ofMantissaAndAccuracy (m : ℕ) (acc : Accuracy) :
    (ExtendedMantissa.ofMantissaAndAccuracy m acc).mantissa = m := by
  rcases acc with _ | _ | _ | _ <;> rfl

theorem located_exact (m : ℕ) : Located (.ofMantissaAndAccuracy m .exact) m := rfl

/-- The quotient of a division, with what the remainder tells. -/
theorem located_div (n : ℕ) {d : ℕ} (hd : 0 < d) :
    Located (.ofMantissaAndAccuracy (n / d) (accuracyOfFraction (n % d) d)) (n / d) := by
  have hd' : (0 : ℚ) < d := by exact_mod_cast hd
  have hn : (n : ℚ) / d = (n / d : ℕ) + (n % d : ℕ) / d := by
    rw [eq_comm, eq_div_iff hd'.ne', add_mul, div_mul_cancel₀ _ hd'.ne']
    exact_mod_cast Nat.div_add_mod' n d
  have hmod : ((n % d : ℕ) : ℚ) / d < 1 := by
    rw [div_lt_one hd']
    exact_mod_cast Nat.mod_lt n hd
  rw [hn, accuracyOfFraction]
  generalize n / d = q at *
  generalize n % d = r at *
  split
  next hr =>
    subst hr
    simp [ExtendedMantissa.ofMantissaAndAccuracy, Located]
  next hr =>
    have hr' : (0 : ℚ) < r / d := div_pos (by exact_mod_cast Nat.pos_of_ne_zero hr) hd'
    rcases h : compare (2 * r) d with _ | _ | _
    · have hhalf : (r : ℚ) / d < 1 / 2 := by
        rw [div_lt_div_iff₀ hd' two_pos, one_mul, mul_comm]
        exact_mod_cast Nat.compare_eq_lt.1 h
      exact ⟨by linarith, by linarith⟩
    · have hhalf : (r : ℚ) / d = 1 / 2 := by
        rw [div_eq_div_iff hd'.ne' two_ne_zero, one_mul, mul_comm]
        exact_mod_cast Nat.compare_eq_eq.1 h
      show _ = _
      rw [hhalf]
    · have hhalf : 1 / 2 < (r : ℚ) / d := by
        rw [div_lt_div_iff₀ two_pos hd', one_mul, mul_comm (r : ℚ)]
        exact_mod_cast Nat.compare_eq_gt.1 h
      exact ⟨by linarith, by linarith⟩

/-! ### The number that a value is rounded to -/

namespace Magnitude

/-- A positive number as it is stored: the mantissa has 53 bits, or the exponent is the least. -/
structure IsCanonical (x : Magnitude) : Prop where
  mantissa_pos : 0 < x.mantissa
  mantissa_lt : x.mantissa < 2 ^ 53
  least_le : -1074 ≤ x.exponent
  eq_or_le : x.exponent = -1074 ∨ 2 ^ 52 ≤ x.mantissa
  narrowBelow_iff : x.narrowBelow = true ↔ x.mantissa = 2 ^ 52 ∧ x.exponent ≠ -1074

/-- How far the least value that is rounded to a number lies below it, in units of the mantissa. -/
def gap (x : Magnitude) : ℚ := if x.narrowBelow then 1 / 4 else 1 / 2

/-- A value is rounded to the number.  The middle between two numbers goes to the even one. -/
structure Admits (x : Magnitude) (v : ℚ) : Prop where
  low : x.mantissa - x.gap ≤ v / 2 ^ x.exponent
  high : v / 2 ^ x.exponent ≤ x.mantissa + 1 / 2
  even : v / 2 ^ x.exponent = x.mantissa - x.gap ∨ v / 2 ^ x.exponent = x.mantissa + 1 / 2 →
    x.mantissa % 2 = 0

variable {x : Magnitude} {v : ℚ}

theorem gap_le (x : Magnitude) : x.gap ≤ 1 / 2 := by
  rw [gap]
  split <;> norm_num

/-- A number admits its own value. -/
theorem admits_self (x : Magnitude) : x.Admits (x.mantissa * 2 ^ x.exponent) := by
  have hgap : 0 < x.gap := by
    rw [gap]
    split <;> norm_num
  have hvalue : (x.mantissa * 2 ^ x.exponent : ℚ) / 2 ^ x.exponent = x.mantissa :=
    mul_div_cancel_right₀ _ (by positivity)
  refine ⟨?_, ?_, ?_⟩ <;> rw [hvalue]
  · linarith
  · linarith
  · rintro (h | h) <;> linarith

theorem Admits.lt (hv : x.Admits v) (hx : x.IsCanonical) : v < 2 ^ (x.exponent + 53) := by
  have hm : (x.mantissa : ℚ) + 1 ≤ 2 ^ 53 := by exact_mod_cast hx.mantissa_lt
  rw [zpow_add₀ two_ne_zero, mul_comm, ← div_lt_iff₀ (by positivity)]
  norm_num at hm ⊢
  linarith [hv.high]

/-- A number whose exponent is not the least admits values of 53 bits, and if it is a power of two
also some that are smaller. -/
theorem Admits.le_or (hv : x.Admits v) (hx : x.IsCanonical) (hleast : x.exponent ≠ -1074) :
    2 ^ (x.exponent + 52) ≤ v ∨
      (x.mantissa = 2 ^ 52 ∧ 2 ^ (x.exponent + 51) ≤ v ∧ v < 2 ^ (x.exponent + 52)) := by
  have hm : 2 ^ 52 ≤ x.mantissa := hx.eq_or_le.resolve_left hleast
  have hm' : (2 : ℚ) ^ 52 ≤ x.mantissa := by exact_mod_cast hm
  have hlow := hv.low
  have hgap := x.gap_le
  have hunit : (0 : ℚ) < 2 ^ x.exponent := by positivity
  rw [or_iff_not_imp_left, not_le, zpow_add₀ two_ne_zero, zpow_add₀ two_ne_zero]
  intro hlt
  have hscaled : v / 2 ^ x.exponent < 2 ^ 52 := by
    rw [div_lt_iff₀ hunit, mul_comm]
    exact_mod_cast hlt
  refine ⟨?_, ?_, hlt⟩
  · have hmantissa : (x.mantissa : ℚ) < (2 ^ 52 + 1 : ℕ) := by
      push_cast
      linarith
    have : x.mantissa < 2 ^ 52 + 1 := by exact_mod_cast hmantissa
    omega
  · rw [mul_comm, ← le_div_iff₀ hunit]
    have hpow : (2 : ℚ) ^ (51 : ℤ) ≤ 2 ^ 52 - 1 / 2 := by norm_num
    linarith

end Magnitude

/-- The exponent to which a mantissa is shifted. -/
theorem targetExponent_eq (m : ℕ) (e : ℤ) :
    Format.binary64.targetExponent (totalExponent m e) = max (m.log2 + e - 52) (-1074) := by
  rw [Format.targetExponent, totalExponent]
  simp only [Format.mantissaBits, Format.minExponent]
  norm_num
  omega

theorem shiftToTargetExponent_eq {m : ℕ} {e : ℤ} (acc : Accuracy) {target : ℤ}
    (htarget : max (m.log2 + e - 52) (-1074) = target) (he : e ≤ target) :
    shiftToTargetExponent Format.binary64 m e acc =
      (ExtendedMantissa.ofMantissaAndAccuracy m acc >>> (target - e).toNat, target) := by
  rw [shiftToTargetExponent, targetExponent_eq, htarget]
  simp only [shiftToExponent, Prod.mk.injEq, true_and]
  omega

/-- A value lies below the power of two behind its mantissa. -/
theorem Located.lt_zpow {m : ℕ} {acc : Accuracy} {v : ℚ} {e : ℤ}
    (h : Located (.ofMantissaAndAccuracy m acc) (v / 2 ^ e)) : v < 2 ^ (m.log2 + e + 1) := by
  have hm : (m : ℚ) + 1 ≤ 2 ^ (m.log2 + 1) := by exact_mod_cast Nat.lt_log2_self
  have hlt := h.bounds.2
  rw [mantissa_ofMantissaAndAccuracy] at hlt
  have hexponent : (m.log2 : ℤ) + e + 1 = ((m.log2 + 1 : ℕ) : ℤ) + e := by
    push_cast
    ring
  rw [hexponent, zpow_add₀ two_ne_zero, zpow_natCast, ← div_lt_iff₀ (by positivity)]
  exact hlt.trans_le hm

/-- A value with a mantissa lies above the power of two before it. -/
theorem Located.zpow_le {m : ℕ} {acc : Accuracy} {v : ℚ} {e : ℤ} (hm : m ≠ 0)
    (h : Located (.ofMantissaAndAccuracy m acc) (v / 2 ^ e)) : 2 ^ (m.log2 + e) ≤ v := by
  have hm : (2 : ℚ) ^ m.log2 ≤ m := by exact_mod_cast Nat.log2_self_le hm
  have hle := h.bounds.1
  rw [mantissa_ofMantissaAndAccuracy] at hle
  rw [zpow_add₀ two_ne_zero, zpow_natCast, ← le_div_iff₀ (by positivity)]
  exact hm.trans hle

/-- A value is shifted to the exponent of the number that admits it, or to the one before. -/
theorem target_eq_or {x : Magnitude} (hx : x.IsCanonical) {v : ℚ} (hv : x.Admits v) {m : ℕ}
    {acc : Accuracy} {e : ℤ} (hloc : Located (.ofMantissaAndAccuracy m acc) (v / 2 ^ e))
    (he : e ≤ max (m.log2 + e - 52) (-1074)) :
    max (m.log2 + e - 52) (-1074) = x.exponent ∨
      (max (m.log2 + e - 52) (-1074) = x.exponent - 1 ∧ x.mantissa = 2 ^ 52 ∧
        x.exponent ≠ -1074 ∧ v < 2 ^ (x.exponent + 52)) := by
  have hpow {a b : ℤ} (h : (2 : ℚ) ^ a < 2 ^ b) : a < b :=
    (zpow_lt_zpow_iff_right₀ one_lt_two).1 h
  have hleast := hx.least_le
  have habove : (m.log2 : ℤ) + e < x.exponent + 53 := by
    by_cases hm : m = 0
    · have hlog : m.log2 = 0 := by rw [hm, Nat.log2_zero]
      omega
    · exact hpow ((hloc.zpow_le hm).trans_lt (hv.lt hx))
  by_cases hexponent : x.exponent = -1074
  · exact .inl (by omega)
  · rcases hv.le_or hx hexponent with hle | ⟨hmantissa, hle, hlt⟩
    · have := hpow (hle.trans_lt hloc.lt_zpow)
      exact .inl (by omega)
    · have := hpow (hle.trans_lt hloc.lt_zpow)
      have htarget : max ((m.log2 : ℤ) + e - 52) (-1074) = x.exponent ∨
          max ((m.log2 : ℤ) + e - 52) (-1074) = x.exponent - 1 := by
        omega
      exact htarget.imp_right fun h => ⟨h, hmantissa, hexponent, hlt⟩

/-- The mantissa of a number is not shifted any further. -/
theorem Magnitude.IsCanonical.target_eq {x : Magnitude} (hx : x.IsCanonical) :
    max ((x.mantissa.log2 : ℤ) + x.exponent - 52) (-1074) = x.exponent := by
  have hlt : x.mantissa.log2 < 53 := (Nat.log2_lt hx.mantissa_pos.ne').2 hx.mantissa_lt
  have hleast := hx.least_le
  rcases hx.eq_or_le with h | h
  · omega
  · have hle := (Nat.le_log2 hx.mantissa_pos.ne').2 h
    omega

/-- A shift to the exponent of a number rounds to the number. -/
theorem roundedMantissa_eq_mantissa {x : Magnitude} {v : ℚ} (hv : x.Admits v)
    {em : ExtendedMantissa} (hloc : Located em (v / 2 ^ x.exponent)) :
    em.roundedMantissa = x.mantissa := by
  have hgap := x.gap_le
  have hlow := hv.low
  refine hloc.roundedMantissa_eq (by linarith) hv.high fun h => hv.even (h.imp_left fun h => ?_)
  linarith

/-- Below a power of two the mantissas are twice as dense; rounding may end at the power itself. -/
theorem roundedMantissa_eq_pow {x : Magnitude} (hx : x.IsCanonical) {v : ℚ} (hv : x.Admits v)
    (hmantissa : x.mantissa = 2 ^ 52) (hleast : x.exponent ≠ -1074)
    (hlt : v < 2 ^ (x.exponent + 52)) {em : ExtendedMantissa}
    (hloc : Located em (v / 2 ^ (x.exponent - 1))) : em.roundedMantissa = 2 ^ 53 := by
  have hunit : (0 : ℚ) < 2 ^ x.exponent := by positivity
  have hscaled : v / 2 ^ (x.exponent - 1) = 2 * (v / 2 ^ x.exponent) := by
    rw [zpow_sub_one₀ two_ne_zero]
    field_simp
  have hgap : x.gap = 1 / 4 := by
    rw [Magnitude.gap, if_pos (hx.narrowBelow_iff.2 ⟨hmantissa, hleast⟩)]
  have hlow := hv.low
  have hhigh : v / 2 ^ x.exponent < 2 ^ 52 := by
    rw [div_lt_iff₀ hunit, mul_comm]
    rw [zpow_add₀ two_ne_zero] at hlt
    exact_mod_cast hlt
  rw [hgap, hmantissa] at hlow
  rw [hscaled] at hloc
  push_cast at hlow
  exact hloc.roundedMantissa_eq (by push_cast; linarith) (by push_cast; linarith)
    fun _ => by norm_num

/-- A value is rounded to the number that admits it. -/
theorem roundWithAccuracy_eq {x : Magnitude} (hx : x.IsCanonical) {v : ℚ} (hv : x.Admits v)
    {m : ℕ} {acc : Accuracy} {e : ℤ}
    (hloc : Located (.ofMantissaAndAccuracy m acc) (v / 2 ^ e))
    (he : e ≤ max (m.log2 + e - 52) (-1074)) (s : Sign) :
    roundWithAccuracy Format.binary64 s m e acc =
      .finite s x.mantissa x.exponent hx.mantissa_pos := by
  have hleast := hx.least_le
  -- what is left after the first shift
  have hshifted (target : ℤ) (htarget : e ≤ target) :
      Located (ExtendedMantissa.ofMantissaAndAccuracy m acc >>> (target - e).toNat)
        (v / 2 ^ target) := by
    have h := hloc.shiftRight (target - e).toNat
    have hpow : (2 : ℚ) ^ e * 2 ^ (target - e).toNat = 2 ^ target := by
      rw [← zpow_natCast, ← zpow_add₀ two_ne_zero]
      congr 1
      omega
    rwa [div_div, hpow] at h
  rcases target_eq_or hx hv hloc he with htarget | ⟨htarget, hmantissa, hexponent, hlt⟩
  · have hround := roundedMantissa_eq_mantissa hv (hshifted x.exponent (htarget ▸ he))
    rw [roundWithAccuracy, shiftToTargetExponent_eq acc htarget (htarget ▸ he)]
    simp only [hround, shiftToTargetExponent_eq .exact hx.target_eq le_rfl, Int.sub_self]
    exact dif_neg hx.mantissa_pos.ne'
  · -- the mantissa overflows, and is shifted once more
    have hround := roundedMantissa_eq_pow hx hv hmantissa hexponent hlt
      (hshifted (x.exponent - 1) (htarget ▸ he))
    have hagain : max (((2 ^ 53 : ℕ).log2 : ℤ) + (x.exponent - 1) - 52) (-1074) = x.exponent := by
      rw [Nat.log2_two_pow]
      omega
    rw [roundWithAccuracy, shiftToTargetExponent_eq acc htarget (htarget ▸ he)]
    simp only [hround, shiftToTargetExponent_eq .exact hagain (sub_one_lt _).le, sub_sub_cancel]
    obtain ⟨mantissa, exponent, narrow⟩ := x
    subst hmantissa
    rfl

end NameTagger.Decimal
