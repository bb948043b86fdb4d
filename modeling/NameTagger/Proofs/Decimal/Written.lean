import NameTagger.Decimal.Layout
import NameTagger.Proofs.Decimal.Nearest
import NameTagger.Proofs.Decimal.Shortest

/-!
# The parts of a written number

However a decimal is laid out, the digits before and behind the point and the power of ten give its
value again.

* `Written`: digits before and behind a point, and a power of ten;
* `Written.text`, `Written.value`: how they are written, and what they denote;
* `Written.IsRegular`: a number can be read from them;
* `Written.exists_denotes_plain`, `Written.exists_denotes_scaled`: the parts of a decimal without a
  power of ten, and with one;
* `exists_written`: the parts of a decimal in a layout;
* `exists_written_write`: the number that is read from the parts of a written number.
-/

namespace NameTagger.Decimal

/-- The digits before and behind the point, and the power of ten with its sign. -/
structure Written where
  whole : List Char
  fraction : List Char
  power? : Option (Bool × List Char)

namespace Written

/-- The digits behind the point, if there are any, and the point. -/
def pointText (w : Written) : List Char := if w.fraction = [] then [] else '.' :: w.fraction

/-- The power of ten, if there is one. -/
def powerText (w : Written) : List Char :=
  match w.power? with
  | none => []
  | some (down, digits) => 'e' :: (if down then '-' else '+') :: digits

/-- The parts one behind the other. -/
def text (w : Written) : List Char := w.whole ++ (w.pointText ++ w.powerText)

/-- The power of ten, zero if there is none. -/
def power (w : Written) : Int :=
  match w.power? with
  | none => 0
  | some (down, digits) => if down then -(valueOf digits : Int) else valueOf digits

/-- The power of ten that scales all the digits. -/
def exponent (w : Written) : Int := w.power - w.fraction.length

/-- What the parts denote. -/
def value (w : Written) : ℚ := Numeral.value ⟨valueOf (w.whole ++ w.fraction), w.exponent⟩

/-- There are digits before the point, with no zero that could be left out, and in the power. -/
structure IsRegular (w : Written) : Prop where
  whole_ne_nil : w.whole ≠ []
  whole_head : w.whole = ['0'] ∨ w.whole.head? ≠ some '0'
  whole_digits : IsDigits w.whole
  fraction_digits : IsDigits w.fraction
  power_digits : ∀ p ∈ w.power?, p.2 ≠ [] ∧ IsDigits p.2

end Written

/-- What stands before the sign of a number. -/
def signText (negative : Bool) : List Char := if negative then ['-'] else []

/-! ### Layouts -/

@[simp] theorem toList_zeros (n : Nat) : (zeros n).toList = List.replicate n '0' := by
  rw [zeros, String.toList_ofList]

theorem toList_pointAfter (n : Nat) (digits : List Char) :
    (pointAfter n digits).toList = digits.take n ++ '.' :: digits.drop n := by
  simp [pointAfter]

/-- The digits of an exponent, with the zeros before them. -/
def exponentDigits (width : Nat) (e : Int) : List Char :=
  List.replicate (width - (Nat.toDigits 10 e.natAbs).length) '0' ++ Nat.toDigits 10 e.natAbs

theorem toList_exponentText (width : Nat) (e : Int) :
    (exponentText width e).toList =
      (if decide (e < 0) then '-' else '+') :: exponentDigits width e := by
  rw [exponentText, exponentDigits, digitsOf, String.length_ofList]
  by_cases he : e < 0 <;> simp [he]

theorem valueOf_exponentDigits (width : Nat) (e : Int) :
    valueOf (exponentDigits width e) = e.natAbs := by
  rw [exponentDigits, valueOf_append, valueOf_replicate_zero, valueOf_toDigits, Nat.zero_mul,
    Nat.zero_add]

theorem isDigits_exponentDigits (width : Nat) (e : Int) : IsDigits (exponentDigits width e) :=
  (isDigits_replicate_zero _).append (isDigits_toDigits _)

/-- The parts of a number that show that it is no integer. -/
structure Written.IsMarked (w : Written) : Prop extends w.IsRegular where
  isMarked : w.fraction = [] → w.power?.isSome

/-- The parts denote a decimal. -/
structure Written.Denotes (w : Written) (d : Numeral) : Prop extends w.IsMarked where
  value_eq : w.value = d.value

namespace Written

variable {digits : List Char} {e : Int}

/-- A point among digits, and a power of ten. -/
theorem denotes_split (hdigits : IsDigits digits) (hhead : digits.head? ≠ some '0') {n : Nat}
    (hpos : 0 < n) (hn : n ≤ digits.length) (power? : Option (Bool × List Char))
    (hpower : ∀ p ∈ power?, p.2 ≠ [] ∧ IsDigits p.2)
    (hmarked : n = digits.length → power?.isSome)
    (hexponent : exponent ⟨digits.take n, digits.drop n, power?⟩ = e) :
    Denotes ⟨digits.take n, digits.drop n, power?⟩ ⟨valueOf digits, e⟩ where
  whole_ne_nil := List.ne_nil_of_length_pos (by rw [List.length_take]; omega)
  whole_head := .inr (by rwa [List.head?_take, if_neg (by omega)])
  whole_digits c hc := hdigits c (List.mem_of_mem_take hc)
  fraction_digits c hc := hdigits c (List.mem_of_mem_drop hc)
  power_digits := hpower
  isMarked h := hmarked (Nat.le_antisymm hn (List.drop_eq_nil_iff.1 h))
  value_eq := by rw [value, hexponent, List.take_append_drop]

/-- Digits behind zeros behind the point. -/
theorem denotes_small (hdigits : IsDigits digits) (hne : digits ≠ []) {n : Nat}
    (he : e = -((n : Int) + digits.length)) :
    Denotes ⟨['0'], List.replicate n '0' ++ digits, none⟩ ⟨valueOf digits, e⟩ where
  whole_ne_nil := List.cons_ne_nil _ _
  whole_head := .inl rfl
  whole_digits := isDigits_replicate_zero 1
  fraction_digits := (isDigits_replicate_zero n).append hdigits
  power_digits _ hp := nomatch hp
  isMarked h := absurd (List.append_eq_nil_iff.1 h).2 hne
  value_eq := by
    have hvalue : valueOf (['0'] ++ (List.replicate n '0' ++ digits)) = valueOf digits := by
      rw [← List.append_assoc, ← List.replicate_one, List.replicate_append_replicate,
        valueOf_append, valueOf_replicate_zero, Nat.zero_mul, Nat.zero_add]
    rw [value, hvalue, exponent, power, List.length_append, List.length_replicate, he]
    push_cast
    rw [zero_sub]

/-- Zeros behind digits, and one more behind the point. -/
theorem denotes_large (hdigits : IsDigits digits) (hhead : digits.head? ≠ some '0')
    (hne : digits ≠ []) (he : 0 ≤ e) :
    Denotes ⟨digits ++ List.replicate e.toNat '0', ['0'], none⟩ ⟨valueOf digits, e⟩ where
  whole_ne_nil := List.append_ne_nil_of_left_ne_nil hne _
  whole_head := .inr (by
    rwa [List.head?_append, Option.or_of_isSome (List.isSome_head?.2 hne)])
  whole_digits := hdigits.append (isDigits_replicate_zero _)
  fraction_digits := isDigits_replicate_zero 1
  power_digits _ hp := nomatch hp
  isMarked h := absurd h (List.cons_ne_nil _ _)
  value_eq := by
    obtain ⟨n, rfl⟩ := Int.eq_ofNat_of_zero_le he
    have hvalue : valueOf (digits ++ List.replicate n '0' ++ ['0']) =
        valueOf digits * 10 ^ (n + 1) := by
      rw [List.append_assoc, ← List.replicate_one, List.replicate_append_replicate,
        valueOf_append, valueOf_replicate_zero, List.length_replicate, Nat.add_zero]
    rw [value, Int.toNat_natCast, hvalue]
    simp only [Numeral.value, exponent, power, List.length_singleton]
    push_cast
    rw [pow_succ, mul_assoc, mul_assoc]
    norm_num

/-- The parts of a decimal without a power of ten. -/
theorem exists_denotes_plain (hdigits : IsDigits digits) (hhead : digits.head? ≠ some '0')
    (hne : digits ≠ []) {lead : Int} (hlead : e + digits.length - 1 = lead) :
    ∃ w : Written, w.Denotes ⟨valueOf digits, e⟩ ∧
      (if lead < 0 then "0." ++ zeros (-lead - 1).toNat ++ String.ofList digits
        else if 0 ≤ e then String.ofList digits ++ zeros e.toNat ++ ".0"
        else pointAfter (lead + 1).toNat digits).toList = w.text := by
  split
  next hsmall =>
    refine ⟨_, denotes_small (n := (-lead - 1).toNat) hdigits hne (by omega), ?_⟩
    simp [text, pointText, powerText, hne]
  next hsmall =>
    split
    next he =>
      refine ⟨_, denotes_large hdigits hhead hne he, ?_⟩
      simp [text, pointText, powerText]
    next he =>
      refine ⟨_, denotes_split hdigits hhead (n := (lead + 1).toNat) (by omega) (by omega) none
        (fun p hp => nomatch hp) (by omega) ?_, ?_⟩
      · simp only [exponent, power, List.length_drop]
        omega
      · have hdrop : digits.drop (lead + 1).toNat ≠ [] := by
          rw [ne_eq, List.drop_eq_nil_iff]
          omega
        rw [toList_pointAfter]
        simp [text, pointText, powerText, hdrop]

/-- The parts of a decimal with a power of ten. -/
theorem exists_denotes_scaled (hdigits : IsDigits digits) (hhead : digits.head? ≠ some '0')
    (hne : digits ≠ []) {lead : Int} (hlead : e + digits.length - 1 = lead) (width : Nat) :
    ∃ w : Written, w.Denotes ⟨valueOf digits, e⟩ ∧
      ((if digits.length = 1 then String.ofList digits else pointAfter 1 digits) ++ "e" ++
        exponentText width lead).toList = w.text := by
  have hlength : 0 < digits.length := List.length_pos_iff.2 hne
  have hexponent (p : Bool × List Char)
      (hp : p ∈ some (decide (lead < 0), exponentDigits width lead)) :
      p.2 ≠ [] ∧ IsDigits p.2 := by
    obtain rfl := Option.mem_some.1 hp
    exact ⟨by simp [exponentDigits], isDigits_exponentDigits _ _⟩
  have hpower (whole fraction : List Char) :
      power ⟨whole, fraction, some (decide (lead < 0), exponentDigits width lead)⟩ = lead := by
    simp only [power, valueOf_exponentDigits, decide_eq_true_eq]
    split <;> omega
  refine ⟨_, denotes_split hdigits hhead (n := 1) (by omega) hlength _ hexponent
    (fun _ => rfl) ?_, ?_⟩
  · rw [exponent, hpower, List.length_drop]
    omega
  · simp only [String.toList_append, toList_exponentText]
    split
    next hone =>
      have hdrop : digits.drop 1 = [] := List.drop_eq_nil_iff.2 hone.le
      have htake : digits.take 1 = digits := List.take_of_length_le hone.le
      simp [text, pointText, powerText, htake, hdrop]
    next hmore =>
      have htail : digits.tail ≠ [] := by
        rw [← List.drop_one, ne_eq, List.drop_eq_nil_iff]
        omega
      rw [toList_pointAfter]
      simp [text, pointText, powerText, htail]

end Written

/-- However a decimal is laid out, its parts denote it. -/
theorem exists_written (layout : Layout) {d : Numeral} (hd : 0 < d.digits) :
    ∃ w : Written, w.Denotes d ∧ (layout.writeDecimal d).toList = w.text := by
  obtain ⟨n, e⟩ := d
  have hdigits := isDigits_toDigits n
  have hhead := head?_toDigits_ne_zero hd
  have hne : Nat.toDigits 10 n ≠ [] := Nat.toDigits_ne_nil
  have hvalue := valueOf_toDigits n
  rw [Layout.writeDecimal]
  dsimp only
  generalize Nat.toDigits 10 n = digits at *
  subst hvalue
  split
  · exact Written.exists_denotes_plain hdigits hhead hne rfl
  · exact Written.exists_denotes_scaled hdigits hhead hne rfl layout.exponentWidth

theorem isMarked_zero : Written.IsMarked ⟨['0'], ['0'], none⟩ where
  whole_ne_nil := List.cons_ne_nil _ _
  whole_head := .inl rfl
  whole_digits := isDigits_replicate_zero 1
  fraction_digits := isDigits_replicate_zero 1
  power_digits _ hp := nomatch hp
  isMarked h := absurd h (List.cons_ne_nil _ _)

/-- In every layout the parts of a finite number denote the number itself. -/
theorem exists_written_write (layout : Layout) {x : Float} (h : x.isFinite = true) :
    ∃ w : Written, w.IsMarked ∧ (layout.write x).toList = signText (isNegative x) ++ w.text ∧
      ofDecimal (isNegative x) (valueOf (w.whole ++ w.fraction)) w.exponent = x := by
  have hsign : (if isNegative x then "-" else "").toList = signText (isNegative x) := by
    cases isNegative x <;> rfl
  rw [Layout.write, String.toList_append, hsign]
  by_cases hzero : (Magnitude.ofFloat x).mantissa = 0
  · rw [if_pos hzero]
    exact ⟨⟨['0'], ['0'], none⟩, isMarked_zero, rfl, ofDecimal_zero h hzero _⟩
  · rw [if_neg hzero]
    have hadmits := Magnitude.admits_shortest (Nat.pos_of_ne_zero hzero)
    have hdigits : 0 < (Magnitude.ofFloat x).shortest.digits := by
      rw [Nat.pos_iff_ne_zero]
      intro hnone
      have := hadmits.pos (isCanonical_ofFloat h hzero).1
      rw [Numeral.value, hnone] at this
      simp at this
    obtain ⟨w, hw, htext⟩ := exists_written layout hdigits
    refine ⟨w, hw.toIsMarked, by rw [htext], ofDecimal_eq h hzero ?_⟩
    rw [← hw.value_eq] at hadmits
    exact hadmits

end NameTagger.Decimal
