import NameTagger.Proofs.Decimal.Rounding

/-!
# Binary numbers and their bits

* `Magnitude.unpacked`: a sign and a magnitude as one number;
* `unpack_toModel`: the sign and the magnitude of a finite number are those of its bits;
* `isCanonical_ofFloat`: the magnitude of a number other than zero;
* `unpack_pack`: nothing gets lost when a canonical number is packed.
-/

namespace NameTagger.Decimal

open Float.Model
open Float.Model.UnpackedFloat

/-- A sign as it is stored. -/
def signOf (negative : Bool) : Sign := if negative then .negative else .positive

/-- A number by its sign and its magnitude. -/
def Magnitude.unpacked (negative : Bool) (x : Magnitude) : UnpackedFloat :=
  if h : x.mantissa = 0 then .zero (signOf negative)
  else .finite (signOf negative) x.mantissa x.exponent (Nat.pos_of_ne_zero h)

/-! ### The parts of the bits -/

section

variable (bits : UInt64)

theorem toNat_unpackExponent :
    (@unpackExponent Format.binary64 bits.toBitVec).toNat =
      ((bits >>> 52) &&& 0x7FF).toNat := by
  rw [unpackExponent_def, BitVec.extractLsb'_toNat]
  simp
  exact (Nat.and_two_pow_sub_one_eq_mod _ 11).symm

theorem toNat_unpackMantissa :
    (@unpackMantissa Format.binary64 bits.toBitVec).toNat =
      (bits &&& 0xFFFFFFFFFFFFF).toNat := by
  rw [unpackMantissa_def, BitVec.extractLsb'_toNat]
  simp
  exact (Nat.and_two_pow_sub_one_eq_mod _ 52).symm

theorem ofBitVec_unpackSign :
    Sign.ofBitVec (@unpackSign Format.binary64 bits.toBitVec) =
      signOf (bits >>> 63 == 1) := by
  have h : (@unpackSign Format.binary64 bits.toBitVec).toNat = (bits >>> 63).toNat := by
    rw [unpackSign_def, BitVec.extractLsb'_toNat]
    have := bits.toNat_lt
    simp [Nat.shiftRight_eq_div_pow]
    omega
  have hlt : (@unpackSign Format.binary64 bits.toBitVec).toNat < 2 := BitVec.isLt _
  rw [Sign.ofBitVec, signOf, beq_eq_decide]
  simp only [← BitVec.toNat_inj, ← UInt64.toNat_inj, ← h]
  generalize (@unpackSign Format.binary64 bits.toBitVec).toNat = n at *
  interval_cases n <;> simp

end

theorem toNat_append_one (m : BitVec 52) : (1#1 ++ m).toNat = 2 ^ 52 + m.toNat := by
  rw [BitVec.toNat_append, ← Nat.shiftLeft_add_eq_or_of_lt m.isLt]
  simp [Nat.shiftLeft_eq]

theorem exponentBias_eq : Format.binary64.exponentBias = 1023 := rfl

variable {bits : UInt64}

/-- The exponent of a finite number is not the one of all ones. -/
theorem unpackExponent_ne
    (h : (UnpackedFloat.unpack Format.binary64 bits.toBitVec).isFinite = true) :
    @unpackExponent Format.binary64 bits.toBitVec ≠ -1#_ := by
  intro hall
  rw [UnpackedFloat.unpack] at h
  simp only [if_pos hall] at h
  split at h <;> exact Bool.false_ne_true h

/-- The sign and the magnitude of a finite number are those of its bits. -/
theorem unpack_ofBits (h : (UnpackedFloat.unpack Format.binary64 bits.toBitVec).isFinite = true) :
    UnpackedFloat.unpack Format.binary64 bits.toBitVec =
      (Magnitude.ofBits bits).unpacked (bits >>> 63 == 1) := by
  have hexponent := toNat_unpackExponent bits
  have hmantissa := toNat_unpackMantissa bits
  have hne := unpackExponent_ne h
  rw [UnpackedFloat.unpack, Magnitude.ofBits, ← hexponent, ← hmantissa]
  simp only [ofBitVec_unpackSign, if_neg hne, exponentBias_eq]
  have hzero {w : ℕ} (b : BitVec w) : b = 0#w ↔ b.toNat = 0 := by
    rw [← BitVec.toNat_inj, BitVec.toNat_zero]
  split
  next he =>
    have he' := (hzero _).1 he
    rw [if_pos he', Magnitude.unpacked]
    split
    next hm => rw [dif_pos ((hzero _).1 hm)]
    next hm =>
      rw [dif_neg (mt (hzero _).2 hm), he']
      rfl
  next he =>
    rw [if_neg (mt (hzero _).2 he), Magnitude.unpacked, dif_neg (by simp)]
    simp only [toNat_append_one]
    rfl

/-! ### Packing -/

/-- The bits of a number other than zero. -/
theorem pack_finite (s : Sign) (m : ℕ) (e : ℤ) (hm : 0 < m) :
    UnpackedFloat.pack Format.binary64 (.finite s m e hm) =
      if 972 ≤ e then packedInfinity Format.binary64 s
      else if m.log2 = 52 then
        packComponents Format.binary64 s (BitVec.ofNat 11 (e + 1075).toNat) (BitVec.ofNat 52 m)
      else packComponents Format.binary64 s 0#11 (BitVec.ofNat 52 m) := by
  have htop : 2 ^ Format.binary64.exponentBits ≤ (e + Format.binary64.exponentBias +
      Format.binary64.mantissaBitsWithoutImplicit).toNat + 1 ↔ 972 ≤ e := by
    change 2 ^ 11 ≤ (e + (1023 : ℕ) + (52 : ℕ)).toNat + 1 ↔ _
    omega
  have hlog : m.log2 + 1 = Format.binary64.mantissaBits ↔ m.log2 = 52 := by
    change m.log2 + 1 = 53 ↔ _
    omega
  have hbiased : (e + Format.binary64.exponentBias +
      Format.binary64.mantissaBitsWithoutImplicit).toNat = (e + 1075).toNat := by
    change (e + (1023 : ℕ) + (52 : ℕ)).toNat = _
    omega
  rw [UnpackedFloat.pack]
  simp only [htop, hlog]
  rw [hbiased]

theorem unpack_packedInfinity (s : Sign) :
    UnpackedFloat.unpack Format.binary64 (packedInfinity Format.binary64 s) = .infinity s := by
  simp [packedInfinity, UnpackedFloat.unpack]

/-- Of bits with other exponents than the one of all ones a finite number is left. -/
theorem isFinite_unpack_packComponents (s : Sign) {exponent : BitVec 11} (h : exponent ≠ -1#11)
    (mantissa : BitVec 52) : (UnpackedFloat.unpack Format.binary64
      (packComponents Format.binary64 s exponent mantissa)).isFinite = true := by
  rw [UnpackedFloat.unpack]
  simp only [unpackExponent_packComponents, unpackMantissa_packComponents, if_neg h]
  split
  · split <;> rfl
  · rfl

/-- A number whose exponent is small enough stays finite when it is packed, any other becomes
infinite. -/
theorem unpack_pack_finite (s : Sign) (m : ℕ) (e : ℤ) (hm : 0 < m) :
    (e ≤ 971 → (Float.Model.pack (.finite s m e hm)).unpack.isFinite = true) ∧
      (972 ≤ e → (Float.Model.pack (.finite s m e hm)).unpack = .infinity s) := by
  change (_ → (UnpackedFloat.unpack Format.binary64 (UnpackedFloat.pack Format.binary64
    (.finite s m e hm))).isFinite = true) ∧ (_ → UnpackedFloat.unpack Format.binary64
      (UnpackedFloat.pack Format.binary64 (.finite s m e hm)) = _)
  rw [pack_finite]
  constructor
  · intro h
    rw [if_neg (by omega)]
    split
    · refine isFinite_unpack_packComponents s (fun hall => ?_) _
      have := congrArg BitVec.toNat hall
      simp at this
      omega
    · exact isFinite_unpack_packComponents s (by decide) _
  · intro h
    rw [if_pos h, unpack_packedInfinity]

/-- Nothing gets lost when a canonical number is packed. -/
theorem unpack_pack {x : Magnitude} (hx : x.IsCanonical) (htop : x.exponent ≤ 971) (s : Sign) :
    (Float.Model.pack (.finite s x.mantissa x.exponent hx.mantissa_pos)).unpack =
      .finite s x.mantissa x.exponent hx.mantissa_pos := by
  change UnpackedFloat.unpack Format.binary64 (UnpackedFloat.pack Format.binary64 _) = _
  have hleast := hx.least_le
  have hlt := hx.mantissa_lt
  have hpos := hx.mantissa_pos
  rw [pack_finite, if_neg (by omega), UnpackedFloat.unpack]
  split
  next hlog =>
    have hlarge : 2 ^ 52 ≤ x.mantissa := (Nat.le_log2 hpos.ne').1 hlog.ge
    have hexponent : (BitVec.ofNat 11 (x.exponent + 1075).toNat).toNat =
        (x.exponent + 1075).toNat := by
      rw [BitVec.toNat_ofNat]
      omega
    have hmantissa : (1#1 ++ BitVec.ofNat 52 x.mantissa).toNat = x.mantissa := by
      rw [toNat_append_one, BitVec.toNat_ofNat]
      omega
    have hne (n : ℕ) (hn : (x.exponent + 1075).toNat ≠ n % 2 ^ 11) :
        BitVec.ofNat 11 (x.exponent + 1075).toNat ≠ BitVec.ofNat 11 n := by
      rw [ne_eq, ← BitVec.toNat_inj, hexponent, BitVec.toNat_ofNat]
      exact hn
    have hne₁ : BitVec.ofNat 11 (x.exponent + 1075).toNat ≠ -1#11 := hne 2047 (by omega)
    have hne₀ : BitVec.ofNat 11 (x.exponent + 1075).toNat ≠ 0#11 := hne 0 (by omega)
    simp only [unpackExponent_packComponents, unpackMantissa_packComponents,
      unpackSign_packComponents, Sign.ofBitVec_toBitVec, if_neg hne₁, if_neg hne₀, hexponent,
      hmantissa, exponentBias_eq]
    congr 1
    omega
  next hlog =>
    have hsmall : x.mantissa < 2 ^ 52 := by
      have hlog' : x.mantissa.log2 < 53 := (Nat.log2_lt hpos.ne').2 hlt
      exact (Nat.log2_lt hpos.ne').1 (by omega)
    have hexponent : x.exponent = -1074 := hx.eq_or_le.resolve_right (by omega)
    have hmantissa : (BitVec.ofNat 52 x.mantissa).toNat = x.mantissa := by
      rw [BitVec.toNat_ofNat, Nat.mod_eq_of_lt hsmall]
    have hne : BitVec.ofNat 52 x.mantissa ≠ 0#52 :=
      fun h => absurd (congrArg BitVec.toNat h) (by rw [hmantissa]; exact hpos.ne')
    have hne' : (0#11) ≠ -1#11 := by decide
    simp only [unpackExponent_packComponents, unpackMantissa_packComponents,
      unpackSign_packComponents, Sign.ofBitVec_toBitVec, if_neg hne', dif_neg hne, hmantissa,
      exponentBias_eq]
    rw [hexponent]
    rfl

/-! ### Numbers -/

section

variable {x : Float}

theorem unpack_toModel (h : x.isFinite = true) :
    x.toModel.unpack = (Magnitude.ofFloat x).unpacked (isNegative x) :=
  unpack_ofBits h

/-- A number is finite if it is neither infinite nor undefined. -/
theorem isFinite_iff : x.isFinite = true ↔ x.isNaN = false ∧ x.isInf = false := by
  change x.toModel.unpack.isFinite = true ↔
    x.toModel.unpack.isNaN = false ∧ x.toModel.unpack.isInf = false
  cases x.toModel.unpack <;> simp [UnpackedFloat.isFinite, UnpackedFloat.isNaN, UnpackedFloat.isInf]

theorem ofModel_pack_unpack (x : Float) : Float.ofModel (.pack x.toModel.unpack) = x :=
  Float.ofBits_toBits x

/-- A finite number by its sign and its magnitude. -/
theorem ofModel_pack_unpacked (h : x.isFinite = true) :
    Float.ofModel (.pack ((Magnitude.ofFloat x).unpacked (isNegative x))) = x := by
  rw [← unpack_toModel h, ofModel_pack_unpack]

/-- The magnitude of a number other than zero. -/
theorem isCanonical_ofFloat (h : x.isFinite = true)
    (hpos : (Magnitude.ofFloat x).mantissa ≠ 0) :
    (Magnitude.ofFloat x).IsCanonical ∧ (Magnitude.ofFloat x).exponent ≤ 971 := by
  have hne := unpackExponent_ne h
  have hexponent := (toNat_unpackExponent x.toBits).symm
  have hmantissa := (toNat_unpackMantissa x.toBits).symm
  have hlt : (@unpackMantissa Format.binary64 x.toBits.toBitVec).toNat < 2 ^ 52 :=
    BitVec.isLt _
  have hlt' : (@unpackExponent Format.binary64 x.toBits.toBitVec).toNat < 2 ^ 11 :=
    BitVec.isLt _
  have htop : (@unpackExponent Format.binary64 x.toBits.toBitVec).toNat ≠ 2047 :=
    fun heq => hne (BitVec.eq_of_toNat_eq heq)
  rw [Magnitude.ofFloat, Magnitude.ofBits, hexponent, hmantissa] at hpos ⊢
  generalize (@unpackExponent Format.binary64 x.toBits.toBitVec).toNat = e at *
  generalize (@unpackMantissa Format.binary64 x.toBits.toBitVec).toNat = m at *
  by_cases he : e = 0
  · rw [if_pos he] at hpos ⊢
    exact ⟨⟨Nat.pos_of_ne_zero hpos, hlt.trans (by decide), le_rfl, .inl rfl, by simp⟩, by simp⟩
  · rw [if_neg he]
    refine ⟨⟨by simp, ?_, ?_, .inr (Nat.le_add_right _ _), ?_⟩, ?_⟩
    · simp; omega
    · simp; omega
    · simp; omega
    · simp; omega

end

end NameTagger.Decimal
