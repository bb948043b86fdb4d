import NameTagger.Decimal.Read
import NameTagger.Proofs.Decimal.Bits
import NameTagger.Proofs.Decimal.Digits

/-!
# Decimals as binary numbers

A decimal becomes the binary number that admits its value.

* `mul_eq`, `div_eq`: products and quotients are rounded to the number that admits them;
* `isExact_toFloat`, `isExact_exactlyRepresentablePowersOfTen`: numbers that are not rounded at all;
* `ofScientific_eq`, `float_ofScientific_eq`: a decimal becomes the number that admits it;
* `ofDecimal_eq`, `ofDecimal_zero`: the digits of a number denote the number.
-/

namespace NameTagger.Decimal

open Float.Model
open Float.Model.UnpackedFloat

section

variable {x : Magnitude} {v : ℚ} {m₁ m₂ : ℕ} {e₁ e₂ : ℤ}

/-- A product is rounded to the number that admits it. -/
theorem mul_eq (hx : x.IsCanonical) (s₁ s₂ : Sign) (h₁ : 0 < m₁) (h₂ : 0 < m₂)
    (hv : x.Admits (m₁ * 2 ^ e₁ * (m₂ * 2 ^ e₂))) (hlog : 52 ≤ (m₁ * m₂).log2) :
    UnpackedFloat.mul Format.binary64 (.finite s₁ m₁ e₁ h₁) (.finite s₂ m₂ e₂ h₂) =
      .finite (s₁ * s₂) x.mantissa x.exponent hx.mantissa_pos := by
  refine roundWithAccuracy_eq hx hv ?_ (by omega) _
  have hvalue : (m₁ * 2 ^ e₁ * (m₂ * 2 ^ e₂) : ℚ) / 2 ^ (e₁ + e₂) = (m₁ * m₂ : ℕ) := by
    rw [zpow_add₀ two_ne_zero, Nat.cast_mul, div_eq_iff (by positivity)]
    ring
  rw [hvalue]
  exact located_exact _

theorem log2_mul_two_pow {n : ℕ} (hn : n ≠ 0) (k : ℕ) : (n * 2 ^ k).log2 = n.log2 + k := by
  induction k with
  | zero => simp
  | succ k ih =>
    rw [pow_succ, ← mul_assoc, mul_comm, Nat.log2_two_mul (by positivity), ih, add_assoc]

/-- A quotient has at least as many bits as the dividend has more than the divisor. -/
theorem le_log2_div {n d k : ℕ} (hn : n ≠ 0) (hd : 0 < d) (h : d.log2 + 1 + k ≤ n.log2) :
    k ≤ (n / d).log2 := by
  have hle : 2 ^ k * d ≤ n := calc
    2 ^ k * d ≤ 2 ^ k * 2 ^ (d.log2 + 1) := Nat.mul_le_mul_left _ Nat.lt_log2_self.le
    _ = 2 ^ (d.log2 + 1 + k) := by rw [← pow_add, add_comm]
    _ ≤ n := (Nat.le_log2 hn).1 h
  have hquotient : 2 ^ k ≤ n / d := (Nat.le_div_iff_mul_le hd).2 hle
  exact (Nat.le_log2 (by have := Nat.two_pow_pos k; omega)).2 hquotient

/-- A quotient is rounded to the number that admits it. -/
theorem div_eq (hx : x.IsCanonical) (s₁ s₂ : Sign) (h₁ : 0 < m₁) (h₂ : 0 < m₂)
    (hv : x.Admits (m₁ * 2 ^ e₁ / (m₂ * 2 ^ e₂))) :
    UnpackedFloat.div Format.binary64 (.finite s₁ m₁ e₁ h₁) (.finite s₂ m₂ e₂ h₂) =
      .finite (s₁ / s₂) x.mantissa x.exponent hx.mantissa_pos := by
  have htarget : Format.binary64.targetExponent (totalExponent m₁ e₁ - totalExponent m₂ e₂) =
      max ((m₁.log2 : ℤ) + e₁ - (m₂.log2 + e₂) - 53) (-1074) := by
    rw [Format.targetExponent, totalExponent, totalExponent]
    change max (_ - ((53 : ℕ) : ℤ)) (-1074) = _
    congr 1
    push_cast
    ring
  rw [UnpackedFloat.div, divCore, htarget]
  -- the dividend is shifted until the quotient has enough bits
  generalize ht : min (e₁ - e₂) (max ((m₁.log2 : ℤ) + e₁ - (m₂.log2 + e₂) - 53) (-1074)) = t
  obtain ⟨k, hk⟩ : ∃ k : ℕ, e₁ - e₂ - t = k := Int.eq_ofNat_of_zero_le (by omega)
  have hshift : m₁ <<< (e₁ - e₂ - t).toNat = m₁ * 2 ^ k := by
    rw [hk, Int.toNat_natCast, Nat.shiftLeft_eq]
  simp only [hshift]
  refine roundWithAccuracy_eq hx hv ?_ ?_ _
  · have hvalue : (m₁ * 2 ^ e₁ / (m₂ * 2 ^ e₂) : ℚ) / 2 ^ t = (m₁ * 2 ^ k : ℕ) / m₂ := by
      have hpow : (2 : ℚ) ^ e₁ = 2 ^ k * 2 ^ t * 2 ^ e₂ := by
        rw [← zpow_natCast, ← zpow_add₀ two_ne_zero, ← zpow_add₀ two_ne_zero]
        congr 1
        omega
      have hm₂ : (m₂ : ℚ) ≠ 0 := by exact_mod_cast h₂.ne'
      rw [hpow]
      push_cast
      field_simp
    rw [hvalue]
    exact located_div _ h₂
  · by_cases hleast : t ≤ -1074
    · exact hleast.trans (le_max_right _ _)
    · have hlog := log2_mul_two_pow h₁.ne' k
      have := le_log2_div (n := m₁ * 2 ^ k) (d := m₂) (k := 52) (by positivity) h₂ (by omega)
      omega

/-! ### The range -/

theorem Magnitude.Admits.least_le (hv : x.Admits v) (hx : x.IsCanonical) : 2 ^ (-1075 : ℤ) ≤ v := by
  have hm : (1 : ℚ) ≤ x.mantissa := by exact_mod_cast hx.mantissa_pos
  have hgap := x.gap_le
  have hlow := hv.low
  have hunit : (2 : ℚ) ^ (-1074 : ℤ) ≤ 2 ^ x.exponent := zpow_le_zpow_right₀ one_le_two hx.least_le
  calc (2 : ℚ) ^ (-1075 : ℤ) = 1 / 2 * 2 ^ (-1074 : ℤ) := by
        rw [show (-1075 : ℤ) = -1 + -1074 by norm_num, zpow_add₀ two_ne_zero]
        norm_num
    _ ≤ 1 / 2 * 2 ^ x.exponent := by gcongr
    _ ≤ v := (le_div_iff₀ (by positivity)).1 (by linarith)

theorem Magnitude.Admits.lt_top (hv : x.Admits v) (hx : x.IsCanonical) (htop : x.exponent ≤ 971) :
    v < 2 ^ (1024 : ℤ) :=
  (hv.lt hx).trans_le (zpow_le_zpow_right₀ one_le_two (by omega))

theorem Magnitude.Admits.pos (hv : x.Admits v) (hx : x.IsCanonical) : 0 < v :=
  (by positivity : (0 : ℚ) < 2 ^ (-1075 : ℤ)).trans_le (hv.least_le hx)

/-- The power of ten of a number in the range. -/
theorem exponent_bounds {m : ℕ} {e : ℤ} (hm : m ≠ 0) (hleast : 2 ^ (-1075 : ℤ) ≤ (m * 10 ^ e : ℚ))
    (htop : (m * 10 ^ e : ℚ) < 2 ^ (1024 : ℤ)) : e ≤ 1024 ∧ -((1075 : ℤ) + m.log2) ≤ e := by
  have hpow {a b : ℤ} (h : (2 : ℚ) ^ a < 2 ^ b) : a < b :=
    (zpow_lt_zpow_iff_right₀ one_lt_two).1 h
  have hpow' (n : ℕ) : (2 : ℚ) ^ n ≤ 10 ^ n := pow_le_pow_left₀ two_pos.le (by norm_num) n
  constructor
  · by_contra hlarge
    have hone : (1 : ℚ) ≤ m := by exact_mod_cast Nat.one_le_iff_ne_zero.2 hm
    obtain ⟨n, rfl⟩ := Int.eq_ofNat_of_zero_le (by omega : 0 ≤ e)
    have hle : (2 : ℚ) ^ (n : ℤ) ≤ m * 10 ^ (n : ℤ) := calc
      (2 : ℚ) ^ (n : ℤ) ≤ 1 * 10 ^ (n : ℤ) := by
        rw [one_mul, zpow_natCast, zpow_natCast]
        exact hpow' n
      _ ≤ m * 10 ^ (n : ℤ) := by gcongr
    have := hpow (hle.trans_lt htop)
    omega
  · by_contra hsmall
    obtain ⟨n, hn⟩ := Int.eq_ofNat_of_zero_le (by omega : 0 ≤ -e)
    have hm' : (m : ℚ) < 2 ^ ((m.log2 : ℤ) + 1) := by exact_mod_cast Nat.lt_log2_self
    have hlt : (m * 10 ^ e : ℚ) < 2 ^ ((m.log2 : ℤ) + 1 + e) := calc
      (m * 10 ^ e : ℚ) < 2 ^ ((m.log2 : ℤ) + 1) * 10 ^ e := by gcongr
      _ ≤ 2 ^ ((m.log2 : ℤ) + 1) * 2 ^ e := by
        gcongr ?_ * ?_
        rw [← neg_neg e, hn, zpow_neg, zpow_neg, zpow_natCast, zpow_natCast]
        exact inv_anti₀ (by positivity) (hpow' n)
      _ = _ := by rw [← zpow_add₀ two_ne_zero]
    have := hpow (hleast.trans_lt hlt)
    omega

/-- A decimal becomes the number that admits it. -/
theorem ofScientific_eq (hx : x.IsCanonical) (htop : x.exponent ≤ 971) {m : ℕ} {e : ℤ}
    (hv : x.Admits (m * 10 ^ e)) :
    UnpackedFloat.ofScientific Format.binary64 m e =
      .finite .positive x.mantissa x.exponent hx.mantissa_pos := by
  have hm : m ≠ 0 := by
    rintro rfl
    simpa using hv.pos hx
  obtain ⟨hlarge, hsmall⟩ := exponent_bounds hm (hv.least_le hx) (hv.lt_top hx htop)
  rw [UnpackedFloat.ofScientific, dif_neg hm,
    if_neg (show ¬ e > 2 ^ 11 by omega),
    if_neg (show ¬ e < -((2 ^ 11 : ℤ) + m.log2) by omega)]
  split
  next he =>
    obtain ⟨n, rfl⟩ := Int.eq_ofNat_of_zero_le he
    refine mul_eq hx _ _ _ _ ?_ ?_
    · rw [Int.toNat_natCast, Nat.shiftLeft_eq]
      convert hv using 1
      generalize Format.binary64.mantissaBits = bits
      rw [zpow_neg, zpow_natCast, zpow_natCast]
      push_cast
      field_simp
    · rw [Int.toNat_natCast, Nat.shiftLeft_eq, Nat.le_log2 (by positivity)]
      calc 2 ^ 52 ≤ 1 * 2 ^ 53 * 1 := by norm_num
        _ ≤ m * 2 ^ 53 * 10 ^ n := by
          gcongr
          · exact Nat.one_le_iff_ne_zero.2 hm
          · exact Nat.one_le_pow _ _ (by norm_num)
  next he =>
    obtain ⟨n, hn⟩ := Int.eq_ofNat_of_zero_le (by omega : 0 ≤ -e)
    refine div_eq hx _ _ _ _ ?_
    rw [hn, Int.toNat_natCast]
    convert hv using 1
    rw [← neg_neg e, hn, zpow_neg, zpow_natCast]
    push_cast
    simp [div_eq_mul_inv]

end

/-! ### Exact numbers -/

/-- A number of 53 bits that has a given value. -/
def IsExact (f : UnpackedFloat) (v : ℚ) : Prop :=
  ∃ m e h, f = .finite .positive m e h ∧ 2 ^ 52 ≤ m ∧ (m * 2 ^ e : ℚ) = v

/-- A natural number of at most 53 bits, shifted until it has all of them. -/
def scaledUp (n : ℕ) : Magnitude :=
  ⟨n * 2 ^ (52 - n.log2), n.log2 - 52, n * 2 ^ (52 - n.log2) = 2 ^ 52⟩

section

variable {n : ℕ}

theorem log2_scaledUp (hn : 0 < n) (hlt : n < 2 ^ 53) : (scaledUp n).mantissa.log2 = 52 := by
  have hlog : n.log2 < 53 := (Nat.log2_lt hn.ne').2 hlt
  rw [scaledUp, log2_mul_two_pow hn.ne']
  omega

theorem isCanonical_scaledUp (hn : 0 < n) (hlt : n < 2 ^ 53) : (scaledUp n).IsCanonical := by
  have hlog := log2_scaledUp hn hlt
  have hpos : (scaledUp n).mantissa ≠ 0 := (by positivity : n * 2 ^ (52 - n.log2) ≠ 0)
  have hexponent : (scaledUp n).exponent = (n.log2 : ℤ) - 52 := rfl
  refine ⟨Nat.pos_of_ne_zero hpos, (Nat.log2_lt hpos).1 (by omega), by omega,
    .inr ((Nat.le_log2 hpos).1 hlog.ge), ?_⟩
  have hne : (n.log2 : ℤ) - 52 ≠ -1074 := by omega
  simp [scaledUp, hne]

theorem value_scaledUp (hn : 0 < n) (hlt : n < 2 ^ 53) :
    ((scaledUp n).mantissa * 2 ^ (scaledUp n).exponent : ℚ) = n := by
  have hlog : n.log2 < 53 := (Nat.log2_lt hn.ne').2 hlt
  rw [scaledUp, Nat.cast_mul, Nat.cast_pow, Nat.cast_ofNat, mul_assoc, ← zpow_natCast,
    ← zpow_add₀ two_ne_zero, show ((52 - n.log2 : ℕ) : ℤ) + (n.log2 - 52) = 0 by omega, zpow_zero,
    mul_one]

theorem round_eq_scaledUp (hn : 0 < n) (hlt : n < 2 ^ 53) :
    UnpackedFloat.round Format.binary64 .positive n 0 = .finite .positive (scaledUp n).mantissa
      (scaledUp n).exponent (isCanonical_scaledUp hn hlt).mantissa_pos := by
  have hlog : n.log2 < 53 := (Nat.log2_lt hn.ne').2 hlt
  have hlog' := log2_scaledUp hn hlt
  have htarget : max ((n.log2 : ℤ) + 0 - 52) (-1074) = n.log2 - 52 := by omega
  have hshift : (0 - ((n.log2 : ℤ) - 52)).toNat = 52 - n.log2 := by omega
  rw [UnpackedFloat.round, targetExponent_eq, htarget, decreaseExponent, hshift,
    Nat.shiftLeft_eq, show (0 : ℤ) - (52 - n.log2 : ℕ) = n.log2 - 52 by omega]
  refine roundWithAccuracy_eq (isCanonical_scaledUp hn hlt) (Magnitude.admits_self _) ?_ ?_ _
  · rw [scaledUp, mul_div_cancel_right₀ _ (by positivity)]
    exact located_exact _
  · change (n.log2 : ℤ) - 52 ≤ max (((scaledUp n).mantissa.log2 : ℤ) + (n.log2 - 52) - 52) (-1074)
    omega

/-- Natural numbers of at most 53 bits are kept as they are. -/
theorem isExact_toFloat (hn : 0 < n) (hlt : n < 2 ^ 53) :
    IsExact n.toUInt64.toFloat.toModel.unpack n := by
  have hcanonical := isCanonical_scaledUp hn hlt
  have hlog : n.log2 < 53 := (Nat.log2_lt hn.ne').2 hlt
  have hconvert : UnpackedFloat.ofUInt64 Format.binary64 n.toUInt64 =
      UnpackedFloat.round Format.binary64 .positive n 0 := by
    have hn' : n.toUInt64.toNat = n := UInt64.toNat_ofNat_of_lt' (hlt.trans (by norm_num))
    rw [UnpackedFloat.ofUInt64, hn', UnpackedFloat.ofNat, UnpackedFloat.ofInt,
      UnpackedFloat.normalize, Int.compare_eq_gt.2 (by omega)]
    rfl
  refine ⟨_, _, hcanonical.mantissa_pos, ?_,
    (Nat.le_log2 hcanonical.mantissa_pos.ne').1 (log2_scaledUp hn hlt).ge, value_scaledUp hn hlt⟩
  change (Float.Model.pack (UnpackedFloat.ofUInt64 Format.binary64 n.toUInt64)).unpack = _
  rw [hconvert, round_eq_scaledUp hn hlt]
  exact unpack_pack hcanonical (show (n.log2 : ℤ) - 52 ≤ 971 by omega) _

end

/-- Whether a number is a power of ten. -/
def isPowerOfTen (k : ℕ) : UnpackedFloat → Bool
  | .finite .positive m e _ => 2 ^ 52 ≤ m && m * 2 ^ e.toNat = 10 ^ k * 2 ^ (-e).toNat
  | _ => false

theorem isExact_of_isPowerOfTen {k : ℕ} {f : UnpackedFloat} (h : isPowerOfTen k f = true) :
    IsExact f (10 ^ k) := by
  rw [isPowerOfTen.eq_def] at h
  split at h
  next m e hm =>
    rw [Bool.and_eq_true, decide_eq_true_eq, decide_eq_true_eq] at h
    refine ⟨m, e, hm, rfl, h.1, ?_⟩
    have hvalue : (m * 2 ^ e.toNat : ℚ) = 10 ^ k * 2 ^ (-e).toNat := by exact_mod_cast h.2
    rw [← Int.toNat_sub_toNat_neg e, zpow_sub₀ two_ne_zero, zpow_natCast, zpow_natCast,
      ← mul_div_assoc, hvalue, mul_div_cancel_right₀ _ (by positivity)]
  next => exact absurd h Bool.false_ne_true

/-- The powers of ten that are kept are exact. -/
theorem isExact_exactlyRepresentablePowersOfTen {k : ℕ}
    (hk : k < Float.exactlyRepresentablePowersOfTen.size) :
    IsExact Float.exactlyRepresentablePowersOfTen[k].toModel.unpack (10 ^ k) := by
  have h : ∀ k : Fin 23,
      isPowerOfTen k Float.exactlyRepresentablePowersOfTen[k].toModel.unpack = true := by
    decide +kernel
  exact isExact_of_isPowerOfTen (h ⟨k, hk⟩)

section

variable {x : Magnitude} {a b : Float} {v w : ℚ}

theorem float_mul_eq (hx : x.IsCanonical) (ha : IsExact a.toModel.unpack v)
    (hb : IsExact b.toModel.unpack w) (hv : x.Admits (v * w)) :
    a * b = .ofModel (.pack (.finite .positive x.mantissa x.exponent hx.mantissa_pos)) := by
  obtain ⟨m₁, e₁, h₁, hunpack₁, hbits₁, rfl⟩ := ha
  obtain ⟨m₂, e₂, h₂, hunpack₂, hbits₂, rfl⟩ := hb
  have hlog : 52 ≤ (m₁ * m₂).log2 := by
    rw [Nat.le_log2 (by positivity)]
    exact hbits₁.trans (Nat.le_mul_of_pos_right m₁ h₂)
  change Float.ofModel (.pack (UnpackedFloat.mul Format.binary64 a.toModel.unpack
    b.toModel.unpack)) = _
  rw [hunpack₁, hunpack₂, mul_eq hx .positive .positive h₁ h₂ hv hlog]
  rfl

theorem float_div_eq (hx : x.IsCanonical) (ha : IsExact a.toModel.unpack v)
    (hb : IsExact b.toModel.unpack w) (hv : x.Admits (v / w)) :
    a / b = .ofModel (.pack (.finite .positive x.mantissa x.exponent hx.mantissa_pos)) := by
  obtain ⟨m₁, e₁, h₁, hunpack₁, -, rfl⟩ := ha
  obtain ⟨m₂, e₂, h₂, hunpack₂, -, rfl⟩ := hb
  change Float.ofModel (.pack (UnpackedFloat.div Format.binary64 a.toModel.unpack
    b.toModel.unpack)) = _
  rw [hunpack₁, hunpack₂, div_eq hx .positive .positive h₁ h₂ hv]
  rfl

end

/-! ### Decimals -/

section

variable {x : Magnitude}

/-- A decimal becomes the number that admits it, also where this takes a single operation. -/
theorem float_ofScientific_eq (hx : x.IsCanonical) (htop : x.exponent ≤ 971) {m : ℕ} {e : ℤ}
    (hv : x.Admits (m * 10 ^ e)) :
    Float.ofScientific m (e < 0) e.natAbs =
      .ofModel (.pack (.finite .positive x.mantissa x.exponent hx.mantissa_pos)) := by
  have hm : 0 < m := by
    rw [Nat.pos_iff_ne_zero]
    rintro rfl
    simpa using hv.pos hx
  rw [Float.ofScientific]
  split
  next hsmall =>
    have hpower := isExact_exactlyRepresentablePowersOfTen (k := e.natAbs)
      (Nat.lt_succ_of_le hsmall.2)
    have hnumber := isExact_toFloat hm hsmall.1
    split
    next he =>
      rw [decide_eq_true_eq] at he
      refine float_div_eq hx hnumber hpower ?_
      rwa [← zpow_natCast, Int.ofNat_natAbs_of_nonpos he.le, zpow_neg, div_inv_eq_mul]
    next he =>
      rw [decide_eq_true_eq, not_lt] at he
      refine float_mul_eq hx hnumber hpower ?_
      rwa [← zpow_natCast, Int.natAbs_of_nonneg he]
  next hlarge =>
    have he : (if decide (e < 0) = true then Int.negOfNat e.natAbs else Int.ofNat e.natAbs) =
        e := by
      rcases e with n | n
      · rfl
      · rw [decide_eq_true (Int.negSucc_lt_zero n)]
        rfl
    simp only [he]
    rw [Float.Model.ofScientific, ofScientific_eq hx htop hv]

end

/-- The place of the first digit of a number in the range. -/
theorem lead_bounds {m : ℕ} {e : ℤ} (hm : m ≠ 0) (hleast : 2 ^ (-1075 : ℤ) ≤ (m * 10 ^ e : ℚ))
    (htop : (m * 10 ^ e : ℚ) < 2 ^ (1024 : ℤ)) :
    e + (Nat.toDigits 10 m).length ≤ 310 ∧ -330 ≤ e + (Nat.toDigits 10 m).length := by
  have hten : (1 : ℚ) ≤ 10 := by norm_num
  have hlength : 0 < (Nat.toDigits 10 m).length := Nat.length_toDigits_pos
  have hfirst := ten_pow_le_of_ne_zero hm
  generalize hn : (Nat.toDigits 10 m).length = n at *
  constructor
  · by_contra hlarge
    have hle : (10 : ℚ) ^ (n - 1) ≤ m := by exact_mod_cast hfirst
    refine absurd htop (not_lt.2 ?_)
    have htwo : (2 : ℕ) ^ 1024 ≤ 10 ^ 310 := by decide +kernel
    calc (2 : ℚ) ^ (1024 : ℤ) ≤ 10 ^ (310 : ℤ) := by exact_mod_cast htwo
      _ ≤ 10 ^ (((n - 1 : ℕ) : ℤ) + e) := zpow_le_zpow_right₀ hten (by omega)
      _ = 10 ^ (n - 1) * 10 ^ e := by rw [zpow_add₀ (by norm_num), zpow_natCast]
      _ ≤ m * 10 ^ e := by gcongr
  · by_contra hsmall
    have hlt : (m : ℚ) < 10 ^ n := by
      exact_mod_cast (Nat.length_toDigits_le_iff (by norm_num) hlength).1 hn.le
    refine absurd hleast (not_le.2 ?_)
    have htwo : (2 : ℕ) ^ 1075 ≤ 10 ^ 331 := by decide +kernel
    calc (m * 10 ^ e : ℚ) < 10 ^ n * 10 ^ e := by gcongr
      _ = 10 ^ ((n : ℤ) + e) := by rw [zpow_add₀ (by norm_num), zpow_natCast]
      _ ≤ 10 ^ (-331 : ℤ) := zpow_le_zpow_right₀ hten (by omega)
      _ ≤ 2 ^ (-1075 : ℤ) := by
        rw [zpow_neg, zpow_neg]
        exact inv_anti₀ (by positivity) (by exact_mod_cast htwo)

theorem neg_zero_eq : -(0.0 : Float) = .ofModel (.pack (.zero .negative)) := by
  decide +kernel

/-- A decimal with a sign becomes the number that admits it. -/
theorem ofDecimal_of_admits {x : Magnitude} (hx : x.IsCanonical) (htop : x.exponent ≤ 971) {m : ℕ}
    {e : ℤ} (hv : x.Admits (m * 10 ^ e)) (negative : Bool) :
    ofDecimal negative m e =
      .ofModel (.pack (.finite (signOf negative) x.mantissa x.exponent hx.mantissa_pos)) := by
  have hm : m ≠ 0 := by
    rintro rfl
    simpa using hv.pos hx
  obtain ⟨hlarge, hsmall⟩ := lead_bounds hm (hv.least_le hx) (hv.lt_top hx htop)
  rw [ofDecimal]
  simp only [if_neg hm, if_neg hlarge.not_gt, if_neg hsmall.not_gt,
    float_ofScientific_eq hx htop hv]
  cases negative with
  | false => rfl
  | true =>
    change Float.ofModel (.pack (Float.Model.pack (.finite .positive _ _ _)).unpack.neg) = _
    rw [unpack_pack hx htop]
    rfl

/-- The digits of a finite number denote it, if they have its sign and a value that it admits. -/
theorem ofDecimal_eq {x : Float} (h : x.isFinite = true) (hpos : (Magnitude.ofFloat x).mantissa ≠ 0)
    {m : ℕ} {e : ℤ} (hv : (Magnitude.ofFloat x).Admits (m * 10 ^ e)) :
    ofDecimal (isNegative x) m e = x := by
  obtain ⟨hx, htop⟩ := isCanonical_ofFloat h hpos
  have hself := ofModel_pack_unpacked h
  rw [Magnitude.unpacked, dif_neg hpos] at hself
  rw [ofDecimal_of_admits hx htop hv, hself]

/-- The digit of zero denotes it, with either sign. -/
theorem ofDecimal_zero {x : Float} (h : x.isFinite = true)
    (hzero : (Magnitude.ofFloat x).mantissa = 0) (e : ℤ) : ofDecimal (isNegative x) 0 e = x := by
  have hself := ofModel_pack_unpacked h
  rw [Magnitude.unpacked, dif_pos hzero] at hself
  rw [ofDecimal]
  cases hnegative : isNegative x with
  | false =>
    rw [hnegative] at hself
    exact hself
  | true =>
    rw [hnegative] at hself
    exact neg_zero_eq.trans hself

end NameTagger.Decimal
