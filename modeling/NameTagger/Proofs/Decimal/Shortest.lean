import NameTagger.Decimal.Shortest
import NameTagger.Proofs.Decimal.Rounding

/-!
# The fewest digits suffice

The decimal that is written for a binary number is one that the number admits.

* `Numeral.value`: the value of a decimal;
* `admits_of_accepts`: a decimal that is accepted is admitted;
* `admits_shortest`: the decimal of fewest digits is admitted.
-/

namespace NameTagger.Decimal

/-- The value of a decimal. -/
def Numeral.value (d : Numeral) : ℚ := d.digits * 10 ^ d.exponent

theorem Numeral.value_strip (d : Numeral) : d.strip.value = d.value := by
  induction d using Numeral.strip.induct with
  | case1 d h ih =>
    rw [Numeral.strip, dif_pos h, ih]
    have hdigits : (d.digits : ℚ) = 10 * (d.digits / 10 : ℕ) := by
      exact_mod_cast (Nat.mul_div_cancel' (Nat.dvd_of_mod_eq_zero h.2)).symm
    rw [value, value, hdigits, zpow_add_one₀ (by norm_num)]
    ring
  | case2 d h => rw [Numeral.strip, dif_neg h]

/-- Decimals are compared by their values. -/
theorem Numeral.compares_compareTo (d : Numeral) (n : ℕ) (e : ℤ) :
    (d.compareTo n e).Compares d.value (n * 2 ^ e : ℚ) := by
  have hsplit {a : ℚ} (ha : a ≠ 0) (i : ℤ) : a ^ i * a ^ (-i).toNat = a ^ i.toNat := by
    rw [← zpow_natCast, ← zpow_natCast, ← zpow_add₀ ha]
    congr 1
    omega
  -- both sides are multiplied by what makes them natural numbers
  have hscale : (0 : ℚ) < 10 ^ (-d.exponent).toNat * 2 ^ (-e).toNat := by positivity
  have hleft : ((d.digits * 10 ^ d.exponent.toNat * 2 ^ (-e).toNat : ℕ) : ℚ) =
      d.value * (10 ^ (-d.exponent).toNat * 2 ^ (-e).toNat) := by
    push_cast
    rw [Numeral.value, ← hsplit (by norm_num) d.exponent]
    ring
  have hright : ((n * 2 ^ e.toNat * 10 ^ (-d.exponent).toNat : ℕ) : ℚ) =
      n * 2 ^ e * (10 ^ (-d.exponent).toNat * 2 ^ (-e).toNat) := by
    push_cast
    rw [← hsplit two_ne_zero e]
    ring
  rw [compareTo]
  change (compare (d.digits * 10 ^ d.exponent.toNat * 2 ^ (-e).toNat)
    (n * 2 ^ e.toNat * 10 ^ (-d.exponent).toNat)).Compares _ _
  rcases h : compare (d.digits * 10 ^ d.exponent.toNat * 2 ^ (-e).toNat)
    (n * 2 ^ e.toNat * 10 ^ (-d.exponent).toNat) with _ | _ | _
  · refine lt_of_mul_lt_mul_right ?_ hscale.le
    rw [← hleft, ← hright]
    exact_mod_cast Nat.compare_eq_lt.1 h
  · refine mul_right_cancel₀ hscale.ne' ?_
    rw [← hleft, ← hright]
    exact_mod_cast Nat.compare_eq_eq.1 h
  · refine lt_of_mul_lt_mul_right ?_ hscale.le
    rw [← hleft, ← hright]
    exact_mod_cast Nat.compare_eq_gt.1 h

namespace Magnitude

variable {x : Magnitude}

/-- A decimal that is accepted is admitted. -/
theorem admits_of_accepts (hpos : 0 < x.mantissa) {d : Numeral} (h : x.accepts d = true) :
    x.Admits d.value := by
  have hunit : (0 : ℚ) < 2 ^ x.exponent := by positivity
  have hquarter (n : ℕ) : (n * 2 ^ (x.exponent - 2) : ℚ) = n / 4 * 2 ^ x.exponent := by
    rw [zpow_sub₀ two_ne_zero]
    norm_num
    ring
  have hlower : ((if x.narrowBelow then 4 * x.mantissa - 1 else 4 * x.mantissa - 2 : ℕ) : ℚ) / 4 =
      x.mantissa - x.gap := by
    rw [gap]
    split
    · rw [Nat.cast_sub (by omega)]
      push_cast
      ring
    · rw [Nat.cast_sub (by omega)]
      push_cast
      ring
  have hupper : ((4 * x.mantissa + 2 : ℕ) : ℚ) / 4 = x.mantissa + 1 / 2 := by
    push_cast
    ring
  have hbelow := d.compares_compareTo
    (if x.narrowBelow then 4 * x.mantissa - 1 else 4 * x.mantissa - 2) (x.exponent - 2)
  have habove := d.compares_compareTo (4 * x.mantissa + 2) (x.exponent - 2)
  rw [hquarter, hlower] at hbelow
  rw [hquarter, hupper] at habove
  simp only [accepts, Bool.and_eq_true, Bool.or_eq_true, decide_eq_true_eq] at h
  generalize d.compareTo _ (x.exponent - 2) = below at *
  generalize d.compareTo _ (x.exponent - 2) = above at *
  obtain ⟨hlow, hhigh⟩ := h
  have hlow' : x.mantissa - x.gap < d.value / 2 ^ x.exponent ∨
      (x.mantissa % 2 = 0 ∧ d.value / 2 ^ x.exponent = x.mantissa - x.gap) := by
    rw [lt_div_iff₀ hunit, div_eq_iff hunit.ne']
    rcases hlow with rfl | ⟨heven, rfl⟩
    · exact .inl hbelow
    · exact .inr ⟨heven, hbelow⟩
  have hhigh' : d.value / 2 ^ x.exponent < x.mantissa + 1 / 2 ∨
      (x.mantissa % 2 = 0 ∧ d.value / 2 ^ x.exponent = x.mantissa + 1 / 2) := by
    rw [div_lt_iff₀ hunit, div_eq_iff hunit.ne']
    rcases hhigh with rfl | ⟨heven, rfl⟩
    · exact .inl habove
    · exact .inr ⟨heven, habove⟩
  refine ⟨hlow'.elim le_of_lt fun h => h.2.ge, hhigh'.elim le_of_lt fun h => h.2.le, ?_⟩
  rintro (heq | heq)
  · exact hlow'.elim (fun hlt => absurd heq hlt.ne') And.left
  · exact hhigh'.elim (fun hlt => absurd heq hlt.ne) And.left

theorem roundHalfEven_eq_or (r : Ratio) :
    roundHalfEven r = r.num / r.den ∨ roundHalfEven r = r.num / r.den + 1 := by
  rw [roundHalfEven]
  split
  · exact .inl rfl
  · exact .inr rfl
  · split <;> [exact .inl rfl; exact .inr rfl]

theorem accepts_of_nearest? {e : ℤ} {d : Numeral} (h : x.nearest? e = some d) :
    x.accepts d = true := by
  rw [nearest?] at h
  split at h
  next hlow hhigh =>
    obtain rfl := Option.some.inj h
    rcases roundHalfEven_eq_or (.scaled x.mantissa x.exponent (-e)) with hround | hround <;>
      rwa [hround]
  next hlow _ => exact Option.some.inj h ▸ hlow
  next _ hhigh => exact Option.some.inj h ▸ hhigh
  next => cases h

theorem value_exact (x : Magnitude) : x.exact.value = x.mantissa * 2 ^ x.exponent := by
  rw [exact]
  split
  next h =>
    obtain ⟨n, hn⟩ := Int.eq_ofNat_of_zero_le h
    rw [Numeral.value, hn]
    simp
  next h =>
    obtain ⟨n, hn⟩ := Int.eq_ofNat_of_zero_le (by omega : 0 ≤ -x.exponent)
    rw [Numeral.value, hn, ← neg_neg x.exponent, hn, Int.toNat_natCast, zpow_neg, zpow_neg,
      zpow_natCast, zpow_natCast, show (10 : ℚ) = 5 * 2 by norm_num, mul_pow, Nat.pow_eq]
    push_cast
    field_simp

/-- The decimal of fewest digits is admitted. -/
theorem admits_shortest (hpos : 0 < x.mantissa) : x.Admits x.shortest.value := by
  rw [shortest, Numeral.value_strip]
  rcases h : (List.range mostDigits).findSome? fun n : ℕ => x.nearest? (x.point - (n + 1)) with
    _ | d
  · rw [Option.getD_none, value_exact]
    exact x.admits_self
  · obtain ⟨n, -, hn⟩ := List.exists_of_findSome?_eq_some h
    exact admits_of_accepts hpos (accepts_of_nearest? hn)

end Magnitude

end NameTagger.Decimal
