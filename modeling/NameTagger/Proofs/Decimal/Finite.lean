import NameTagger.Proofs.Decimal.Nearest

/-!
# Numbers that are read are finite

* `admits_of_nearest`, `exists_admits`: every value in the range is admitted by some number;
* `isNaN_ofDecimal`: no decimal becomes an undefined value;
* `isFinite_ofInteger`: integers of at most 64 bits become finite numbers.
-/

namespace NameTagger.Decimal

open Float.Model
open Float.Model.UnpackedFloat

/-- There is an integer next to every number, and an even one in the middle between two. -/
theorem exists_nearest {y : ℚ} (hy : 0 ≤ y) : ∃ n : ℕ, (n : ℚ) - 1 / 2 ≤ y ∧ y ≤ n + 1 / 2 ∧
    (y = n - 1 / 2 ∨ y = n + 1 / 2 → n % 2 = 0) := by
  have hle := Nat.floor_le hy
  have hlt := Nat.lt_floor_add_one y
  generalize ⌊y⌋₊ = k at *
  rcases lt_trichotomy y (k + 1 / 2) with h | h | h
  · exact ⟨k, by linarith, h.le, by rintro (h' | h') <;> linarith⟩
  · rcases Nat.mod_two_eq_zero_or_one k with heven | hodd
    · exact ⟨k, by linarith, h.le, fun _ => heven⟩
    · exact ⟨k + 1, by push_cast; linarith, by push_cast; linarith, fun _ => by omega⟩
  · exact ⟨k + 1, by push_cast; linarith, by push_cast; linarith,
      by push_cast; rintro (h' | h') <;> linarith⟩

section

variable {n : ℕ} {e : ℤ} {v : ℚ}

/-- A mantissa that is next to a value is that of a number which admits the value. -/
theorem admits_of_nearest (hlarge : 2 ^ 52 ≤ v / 2 ^ e) (hlow : (n : ℚ) - 1 / 2 ≤ v / 2 ^ e)
    (hhigh : v / 2 ^ e ≤ n + 1 / 2)
    (heven : v / 2 ^ e = n - 1 / 2 ∨ v / 2 ^ e = n + 1 / 2 → n % 2 = 0) :
    Magnitude.Admits ⟨n, e, n = 2 ^ 52 ∧ e ≠ -1074⟩ v := by
  by_cases hnarrow : n = 2 ^ 52 ∧ e ≠ -1074
  · have hgap : Magnitude.gap ⟨n, e, n = 2 ^ 52 ∧ e ≠ -1074⟩ = 1 / 4 :=
      if_pos (decide_eq_true hnarrow)
    obtain ⟨rfl, -⟩ := hnarrow
    refine ⟨?_, hhigh, fun _ => by norm_num⟩
    rw [hgap]
    push_cast
    linarith
  · have hgap : Magnitude.gap ⟨n, e, n = 2 ^ 52 ∧ e ≠ -1074⟩ = 1 / 2 :=
      if_neg (by rw [decide_eq_false hnarrow]; exact Bool.false_ne_true)
    exact ⟨by rw [hgap]; exact hlow, hhigh, by rw [hgap]; exact heven⟩

/-- Where the mantissa would need one bit more, the number is the next power of two. -/
theorem admits_of_overflow (hlow : (2 : ℚ) ^ 53 - 1 / 2 ≤ v / 2 ^ e) (hhigh : v / 2 ^ e < 2 ^ 53) :
    Magnitude.Admits ⟨2 ^ 52, e + 1, true⟩ v := by
  have hhalf : v / 2 ^ (e + 1) = v / 2 ^ e / 2 := by rw [zpow_add_one₀ two_ne_zero, div_div]
  have hgap : Magnitude.gap ⟨2 ^ 52, e + 1, true⟩ = 1 / 4 := rfl
  refine ⟨?_, ?_, fun _ => by norm_num⟩ <;> simp only [hhalf, hgap] <;> push_cast <;> linarith

end

/-- Every value in the range is admitted by some number. -/
theorem exists_admits {v : ℚ} {k : ℤ} (hlow : 2 ^ k ≤ v) (hhigh : v < 2 ^ (k + 1))
    (hleast : -1022 ≤ k) (htop : k ≤ 1022) :
    ∃ x : Magnitude, x.IsCanonical ∧ x.exponent ≤ 971 ∧ x.Admits v := by
  obtain ⟨e, rfl⟩ : ∃ e : ℤ, k = e + 52 := ⟨k - 52, by omega⟩
  have hunit : (0 : ℚ) < 2 ^ e := by positivity
  have hy : (2 : ℚ) ^ 52 ≤ v / 2 ^ e := by
    rwa [le_div_iff₀ hunit, ← zpow_natCast, ← zpow_add₀ two_ne_zero, add_comm]
  have hy' : v / 2 ^ e < 2 ^ 53 := by
    rwa [div_lt_iff₀ hunit, ← zpow_natCast, ← zpow_add₀ two_ne_zero,
      show ((53 : ℕ) : ℤ) + e = e + 52 + 1 by omega]
  obtain ⟨n, hn, hn', heven⟩ := exists_nearest ((by positivity : (0 : ℚ) ≤ 2 ^ 52).trans hy)
  have hlarge : 2 ^ 52 ≤ n := by
    have : ((2 ^ 52 : ℕ) : ℚ) < (n + 1 : ℕ) := by
      push_cast
      linarith
    have : 2 ^ 52 < n + 1 := by exact_mod_cast this
    omega
  have hsmall : n ≤ 2 ^ 53 := by
    have : (n : ℚ) < (2 ^ 53 + 1 : ℕ) := by
      push_cast
      linarith
    have : n < 2 ^ 53 + 1 := by exact_mod_cast this
    omega
  rcases hsmall.lt_or_eq with hlt | rfl
  · exact ⟨⟨n, e, n = 2 ^ 52 ∧ e ≠ -1074⟩,
      ⟨show 0 < n by omega, hlt, show -1074 ≤ e by omega, .inr hlarge, by simp⟩,
      show e ≤ 971 by omega, admits_of_nearest hy hn hn' heven⟩
  · push_cast at hn
    exact ⟨⟨2 ^ 52, e + 1, true⟩, ⟨by norm_num, by norm_num, show -1074 ≤ e + 1 by omega,
      .inr le_rfl, by simp; omega⟩, show e + 1 ≤ 971 by omega, admits_of_overflow hn hy'⟩

/-- Integers of at most 64 bits become finite numbers. -/
theorem isFinite_ofInteger {n : ℤ} (hn : n.natAbs ≤ 2 ^ 64) : (ofInteger n).isFinite = true := by
  rw [ofInteger]
  by_cases hzero : n.natAbs = 0
  · rw [hzero]
    cases decide (n < 0) <;> decide +kernel
  · have hlog : n.natAbs.log2 < 65 := (Nat.log2_lt hzero).2 (hn.trans_lt (by norm_num))
    obtain ⟨x, hx, htop, hv⟩ := exists_admits (v := n.natAbs) (k := n.natAbs.log2)
      (by exact_mod_cast Nat.log2_self_le hzero) (by exact_mod_cast Nat.lt_log2_self) (by omega)
      (by omega)
    have hv' : x.Admits (n.natAbs * 10 ^ (0 : ℤ)) := by rwa [zpow_zero, mul_one]
    rw [ofDecimal_of_admits hx htop hv']
    change (Float.Model.pack _).unpack.isFinite = true
    rw [unpack_pack hx htop]
    rfl

/-! ### No undefined values -/

/-- Packing leaves a defined value defined. -/
theorem isNaN_unpack_pack {f : UnpackedFloat} (h : f.isNaN = false) :
    (Float.Model.pack f).unpack.isNaN = false := by
  cases f with
  | infinity s =>
    have hunpack : (Float.Model.pack (.infinity s)).unpack = .infinity s := unpack_packedInfinity s
    rw [hunpack]
    rfl
  | notANumber => cases h
  | zero s =>
    have hunpack : (Float.Model.pack (.zero s)).unpack = .zero s := unpack_packedZero
    rw [hunpack]
    rfl
  | finite s m e hm =>
    obtain ⟨hfinite, hinfinite⟩ := unpack_pack_finite s m e hm
    rcases le_or_gt e 971 with he | he
    · exact (isFinite_iff (x := .ofModel (.pack (.finite s m e hm)))).1 (hfinite he) |>.1
    · rw [hinfinite (by omega)]
      rfl

theorem isNaN_round (s : Sign) (m : ℕ) (e : ℤ) (acc : Accuracy) :
    (roundWithAccuracy Format.binary64 s m e acc).isNaN = false := by
  rw [roundWithAccuracy]
  dsimp only
  split <;> rfl

theorem isNaN_model_ofScientific (m : ℕ) (e : ℤ) :
    (UnpackedFloat.ofScientific Format.binary64 m e).isNaN = false := by
  rw [UnpackedFloat.ofScientific]
  split
  · rfl
  split
  · rfl
  split
  · rfl
  split
  · exact isNaN_round _ _ _ _
  · exact isNaN_round _ _ _ _

theorem isNaN_of_isExact {a b : Float} {v w : ℚ} (ha : IsExact a.toModel.unpack v)
    (hb : IsExact b.toModel.unpack w) : (a * b).isNaN = false ∧ (a / b).isNaN = false := by
  obtain ⟨m₁, e₁, h₁, ha, -, -⟩ := ha
  obtain ⟨m₂, e₂, h₂, hb, -, -⟩ := hb
  constructor
  · change (Float.Model.pack (UnpackedFloat.mul Format.binary64 a.toModel.unpack
      b.toModel.unpack)).unpack.isNaN = false
    rw [ha, hb]
    exact isNaN_unpack_pack (isNaN_round _ _ _ _)
  · change (Float.Model.pack (UnpackedFloat.div Format.binary64 a.toModel.unpack
      b.toModel.unpack)).unpack.isNaN = false
    rw [ha, hb]
    exact isNaN_unpack_pack (isNaN_round _ _ _ _)

theorem isNaN_float_ofScientific {m : ℕ} (hm : 0 < m) (s : Bool) (e : ℕ) :
    (Float.ofScientific m s e).isNaN = false := by
  rw [Float.ofScientific]
  split
  next hsmall =>
    have hnumber := isExact_toFloat hm hsmall.1
    have hpower := isExact_exactlyRepresentablePowersOfTen (k := e) (Nat.lt_succ_of_le hsmall.2)
    dsimp only
    split
    · exact (isNaN_of_isExact hnumber hpower).2
    · exact (isNaN_of_isExact hnumber hpower).1
  next => exact isNaN_unpack_pack (isNaN_model_ofScientific _ _)

theorem isNaN_neg {x : Float} (h : x.isNaN = false) : (-x).isNaN = false := by
  refine isNaN_unpack_pack ?_
  change x.toModel.unpack.isNaN = false at h
  cases hx : x.toModel.unpack <;> rw [hx] at h <;> first | rfl | cases h

/-- No decimal becomes an undefined value. -/
theorem isNaN_ofDecimal (negative : Bool) (m : ℕ) (e : ℤ) :
    (ofDecimal negative m e).isNaN = false := by
  have hmagnitude : (if m = 0 then (0.0 : Float)
      else if e + (Nat.toDigits 10 m).length > 310 then 1.0 / 0.0
      else if e + (Nat.toDigits 10 m).length < -330 then 0.0
      else Float.ofScientific m (e < 0) e.natAbs).isNaN = false := by
    split
    · decide +kernel
    next hm =>
      split
      · decide +kernel
      split
      · decide +kernel
      · exact isNaN_float_ofScientific (Nat.pos_of_ne_zero hm) _ _
  rw [ofDecimal]
  cases negative with
  | false => exact hmagnitude
  | true => exact isNaN_neg hmagnitude

end NameTagger.Decimal
