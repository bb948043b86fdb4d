import NameTagger.Json.Read
import NameTagger.Json.Write
import NameTagger.Proofs.Decimal.Nearest
import NameTagger.Proofs.Decimal.Written

/-!
# Numbers in JSON

* `Stops`: a text that ends the number before it;
* `number_text`: the parts of a written number are read back;
* `exists_numeral_int`, `exists_numeral_float`: so are the integers and the binary numbers.
-/

namespace NameTagger.Json

open Decimal

/-- No part of the number before it. -/
def Stops (s : List Char) : Prop :=
  ∀ c ∈ s.head?, isPlainDigit c = false ∧ c ≠ '.' ∧ c ≠ 'e' ∧ c ≠ 'E'

theorem Stops.noDigit {s : List Char} (h : Stops s) : NoDigit s := fun c hc => (h c hc).1

/-- The exponent of a numeral that is written in parts, which an integer lacks. -/
def exponentOf? (w : Written) : Option Int :=
  if w.fraction = [] ∧ w.power? = none then none else some w.exponent

theorem readFraction_of_head {s : List Char} (h : s.head? ≠ some '.') :
    readFraction s = ([], s) := by
  rw [readFraction.eq_def]
  split
  next t => exact absurd rfl h
  next => rfl

variable {w : Written}

theorem noDigit_powerText {rest : List Char} (hrest : Stops rest) :
    NoDigit (w.powerText ++ rest) := by
  rw [Written.powerText]
  split
  · exact hrest.noDigit
  · intro c hc
    obtain rfl := Option.mem_some.1 hc
    decide

theorem head?_powerText_ne_dot {rest : List Char} (hrest : Stops rest) :
    (w.powerText ++ rest).head? ≠ some '.' := by
  rw [Written.powerText]
  split
  · exact fun h => (hrest _ h).2.1 rfl
  · exact fun h => absurd (Option.some.inj h) (by decide)

theorem readFraction_pointText (hw : w.IsRegular) {rest : List Char} (hrest : Stops rest) :
    readFraction (w.pointText ++ (w.powerText ++ rest)) = (w.fraction, w.powerText ++ rest) := by
  rw [Written.pointText]
  split
  next hnone =>
    rw [hnone, List.nil_append, readFraction_of_head (head?_powerText_ne_dot hrest)]
  next =>
    rw [List.cons_append, readFraction,
      takeWhile_isDigits_append hw.fraction_digits (noDigit_powerText hrest),
      dropWhile_isDigits_append hw.fraction_digits (noDigit_powerText hrest)]

theorem noDigit_pointText {rest : List Char} (hrest : Stops rest) :
    NoDigit (w.pointText ++ (w.powerText ++ rest)) := by
  rw [Written.pointText]
  split
  · exact noDigit_powerText hrest
  · intro c hc
    obtain rfl := Option.mem_some.1 hc
    decide

/-- A sign that is written before digits is read. -/
theorem head?_signText {s : List Char} (negative : Bool) (hs : ∃ c ∈ s.head?, isPlainDigit c) :
    (signText negative ++ s).head? = some '-' ↔ negative = true := by
  cases negative with
  | true => exact ⟨fun _ => rfl, fun _ => rfl⟩
  | false =>
    obtain ⟨c, hc, hdigit⟩ := hs
    rw [signText, if_neg Bool.false_ne_true, List.nil_append, Option.mem_def.1 hc]
    refine ⟨fun h => ?_, fun h => nomatch h⟩
    rw [Option.some.inj h] at hdigit
    exact absurd hdigit (by decide)

/-- The parts of a number are read as they were written. -/
theorem number_text (hw : w.IsRegular) (negative : Bool) {rest : List Char} (hrest : Stops rest) :
    number (signText negative ++ (w.text ++ rest)) =
      .ok (⟨negative, w.whole ++ w.fraction, exponentOf? w⟩, rest) := by
  have htext : w.text ++ rest = w.whole ++ (w.pointText ++ (w.powerText ++ rest)) := by
    simp only [Written.text, List.append_assoc]
  have hhead : ∃ c ∈ (w.text ++ rest).head?, isPlainDigit c := by
    obtain ⟨c, s, hcs⟩ := List.exists_cons_of_ne_nil hw.whole_ne_nil
    refine ⟨c, ?_, hw.whole_digits c (by rw [hcs]; exact List.mem_cons_self)⟩
    rw [htext, hcs]
    rfl
  have hunsigned : (if negative = true then (signText negative ++ (w.text ++ rest)).drop 1
      else signText negative ++ (w.text ++ rest)) = w.text ++ rest := by
    cases negative <;> rfl
  have hzero : ¬ (1 < w.whole.length && w.whole.head? = some '0') := by
    rcases hw.whole_head with h | h <;> simp [h]
  have hpoint : ¬ ((w.pointText ++ (w.powerText ++ rest)).head? = some '.' && w.fraction = []) := by
    rw [Written.pointText]
    split
    next h =>
      rw [List.nil_append, decide_eq_false (head?_powerText_ne_dot hrest)]
      exact Bool.false_ne_true
    next h => simp [h]
  have hnodigit := noDigit_pointText (w := w) hrest
  simp only [number, head?_signText negative hhead, Bool.decide_eq_true, hunsigned]
  rw [htext, takeWhile_isDigits_append hw.whole_digits hnodigit,
    dropWhile_isDigits_append hw.whole_digits hnodigit, readFraction_pointText hw hrest]
  rw [if_neg hw.whole_ne_nil, if_neg hzero, if_neg hpoint]
  cases hpower : w.power? with
  | none =>
    have hplain : w.powerText ++ rest = rest := by rw [Written.powerText, hpower]; rfl
    rw [hplain]
    split
    next t heq => exact absurd rfl (hrest 'e' (congrArg List.head? heq)).2.2.1
    next t heq => exact absurd rfl (hrest 'E' (congrArg List.head? heq)).2.2.2
    next =>
      by_cases hfraction : w.fraction = []
      · simp [hfraction, exponentOf?, hpower, Written.pointText]
      · simp [hfraction, exponentOf?, Written.exponent, Written.power, hpower]
  | some p =>
    obtain ⟨down, digits⟩ := p
    obtain ⟨hne, hdigits⟩ := hw.power_digits _ hpower
    have hsign : readSign ((if down then '-' else '+') :: (digits ++ rest)) =
        (down, digits ++ rest) := by
      cases down <;> rfl
    have hscaled : w.powerText ++ rest =
        'e' :: ((if down then '-' else '+') :: (digits ++ rest)) := by
      rw [Written.powerText, hpower]
      rfl
    rw [hscaled]
    simp only [hsign, takeWhile_isDigits_append hdigits hrest.noDigit,
      dropWhile_isDigits_append hdigits hrest.noDigit, if_neg hne]
    simp [exponentOf?, Written.exponent, Written.power, hpower]

/-! ### Integers -/

/-- An integer is written as its sign and the digits of its absolute value. -/
theorem toList_toString_int (n : Int) :
    (toString n).toList = signText (n < 0) ++ Nat.toDigits 10 n.natAbs := by
  rw [Int.toString_eq_repr, Int.repr_eq_if]
  split
  next h =>
    rw [decide_eq_false h.not_gt, Nat.toList_repr, show n.toNat = n.natAbs by omega]
    rfl
  next h =>
    rw [decide_eq_true (not_le.1 h), String.toList_append, Nat.toList_repr,
      show (-n).toNat = n.natAbs by omega]
    rfl

/-- The digits of an integer. -/
theorem isRegular_toDigits (n : Nat) : Written.IsRegular ⟨Nat.toDigits 10 n, [], none⟩ where
  whole_ne_nil := Nat.toDigits_ne_nil
  whole_head := by
    rcases Nat.eq_zero_or_pos n with rfl | hn
    · exact .inl (Nat.toDigits_zero 10)
    · exact .inr (head?_toDigits_ne_zero hn)
  whole_digits := isDigits_toDigits n
  fraction_digits _ hc := nomatch hc
  power_digits _ hp := nomatch hp

/-- An integer of at most 64 bits is read back. -/
theorem exists_numeral_int {n : Int} (hn : -2 ^ 63 ≤ n ∧ n < 2 ^ 64) {rest : List Char}
    (hrest : Stops rest) :
    ∃ numeral, number ((toString n).toList ++ rest) = .ok (numeral, rest) ∧
      numeral.toJson = .ok (.int n) := by
  refine ⟨⟨n < 0, Nat.toDigits 10 n.natAbs, none⟩, ?_, ?_⟩
  · have h := number_text (isRegular_toDigits n.natAbs) (n < 0) hrest
    have htext : Written.text ⟨Nat.toDigits 10 n.natAbs, [], none⟩ = Nat.toDigits 10 n.natAbs :=
      List.append_nil _
    rw [htext, List.append_nil] at h
    rw [toList_toString_int, List.append_assoc, h]
    rfl
  · have hinteger : Numeral.integer ⟨n < 0, Nat.toDigits 10 n.natAbs, none⟩ = n := by
      rw [Numeral.integer, valueOf_toDigits]
      split
      next h => rw [decide_eq_true_eq] at h; omega
      next h => rw [decide_eq_true_eq] at h; omega
    have hrange : Numeral.leastInt ≤ n ∧ n ≤ Numeral.greatestInt := by
      rw [Numeral.leastInt, Numeral.greatestInt]
      change -2 ^ 63 ≤ n ∧ n ≤ 2 ^ 64 - 1
      omega
    rw [Numeral.toJson, hinteger]
    simp [hrange]

/-! ### Binary numbers -/

/-- A finite number is read back. -/
theorem exists_numeral_float {x : Float} (h : x.isFinite = true) {rest : List Char}
    (hrest : Stops rest) :
    ∃ numeral, number ((numberText x).toList ++ rest) = .ok (numeral, rest) ∧
      numeral.toJson = .ok (.float x) := by
  obtain ⟨hnan, hinf⟩ := isFinite_iff.1 h
  obtain ⟨w, hw, htext, hread⟩ := exists_written_write numberLayout h
  have hexponent : exponentOf? w = some w.exponent := by
    rw [exponentOf?, if_neg]
    rintro ⟨hfraction, hpower⟩
    have hmarked := hw.isMarked hfraction
    rw [hpower] at hmarked
    cases hmarked
  refine ⟨⟨isNegative x, w.whole ++ w.fraction, some w.exponent⟩, ?_, ?_⟩
  · rw [numberText, hnan, hinf, Bool.or_self, if_neg Bool.false_ne_true, htext,
      List.append_assoc, number_text hw.toIsRegular (isNegative x) hrest, hexponent]
  · have hbinary : Numeral.binary ⟨isNegative x, w.whole ++ w.fraction, some w.exponent⟩ = x :=
      hread
    rw [Numeral.toJson, hbinary, hinf]
    rfl

end NameTagger.Json
