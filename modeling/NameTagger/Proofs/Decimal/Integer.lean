import Mathlib.Data.List.TakeWhile
import NameTagger.Proofs.Decimal.Digits

/-!
# Integers in decimal

An integer that is written in the usual digits, with or without a sign, is read as what it denotes,
unless it has more digits than are read.

* `Spells`: a text of a sign and digits, and its integer;
* `plainText_of_isNumeral`: such a text has no margins, and its digits are the usual ones already;
* `readNatural_of_isDigits`, `readInteger_of_spells`: how it is read.
-/

namespace NameTagger.Decimal

open NameTagger.Text

/-- A text consists of digits behind a sign, which may be missing, and denotes an integer. -/
structure Spells (s : String) (digits : List Char) (n : Int) : Prop where
  ne_nil : digits ≠ []
  isDigits : IsDigits digits
  toList_eq : (s.toList = digits ∨ s.toList = '+' :: digits) ∧ n = valueOf digits ∨
    s.toList = '-' :: digits ∧ n = -(valueOf digits : Int)

/-! ### Characters -/

/-- The ten usual digits. -/
def plainDigits : List Char := ['0', '1', '2', '3', '4', '5', '6', '7', '8', '9']

theorem mem_plainDigits {c : Char} (h : isPlainDigit c = true) : c ∈ plainDigits := by
  simp only [isPlainDigit, Bool.and_eq_true, decide_eq_true_eq, Char.le_def,
    UInt32.le_iff_toNat_le] at h
  obtain ⟨hlow, hhigh⟩ := h
  have hzero : '0'.val.toNat = 48 := rfl
  have hnine : '9'.val.toNat = 57 := rfl
  have hten : ∀ i < 10, Char.ofNat (48 + i) ∈ plainDigits := by decide
  have hc := hten (c.toNat - 48) (by rw [Char.toNat]; omega)
  rwa [show 48 + (c.toNat - 48) = c.toNat by rw [Char.toNat]; omega, Char.ofNat_toNat] at hc

/-- The characters of a number: digits and signs. -/
def IsNumeral (c : Char) : Prop := isPlainDigit c = true ∨ c = '-' ∨ c = '+'

/-- They stay as they are, and none of them can be left out. -/
theorem IsNumeral.plainDigit_eq {c : Char} (h : IsNumeral c) :
    plainDigit c = c ∧ isMargin c = false := by
  have hall : ∀ c ∈ '-' :: '+' :: plainDigits, (plainDigit c == c && !isMargin c) = true :=
    List.all_eq_true.mp (by decide)
  have hmem : c ∈ '-' :: '+' :: plainDigits := by
    rcases h with h | rfl | rfl
    · exact .tail _ (.tail _ (mem_plainDigits h))
    · exact .head _
    · exact .tail _ (.head _)
  simpa using hall c hmem

/-! ### Texts -/

theorem dropMargins_of_isNumeral {s : List Char} (h : ∀ c ∈ s, IsNumeral c) :
    dropMargins s = s := by
  -- the margin is looked for at the front and, in the reversed text, at the end
  have hkeep {t : List Char} (ht : t ⊆ s) : t.dropWhile isMargin = t := by
    cases t with
    | nil => rfl
    | cons c t =>
      have hc := (h c (ht List.mem_cons_self)).plainDigit_eq.2
      rw [List.dropWhile_cons_of_neg (by rw [hc]; exact Bool.false_ne_true)]
  rw [dropMargins, hkeep (List.Subset.refl s), hkeep (List.reverse_subset.2 (List.Subset.refl s)),
    List.reverse_reverse]

theorem plainText_of_isNumeral {s : String} (h : ∀ c ∈ s.toList, IsNumeral c) :
    plainText s = s.toList := by
  rw [plainText, dropMargins_of_isNumeral h]
  exact (List.map_congr_left fun c hc => (h c hc).plainDigit_eq.1).trans (List.map_id' _)

theorem dropUnderscores_of_isDigits {digits : List Char} (h : IsDigits digits)
    (behindDigit : Bool) : dropUnderscores behindDigit digits = some digits := by
  induction digits generalizing behindDigit with
  | nil => rfl
  | cons c digits ih =>
    obtain ⟨hc, hdigits⟩ := List.forall_mem_cons.1 h
    rw [dropUnderscores, ih hdigits]
    · rfl
    · rintro rfl
      exact absurd hc (by decide)

/-- Nothing stands behind the digits. -/
theorem readNatural_of_isDigits {digits : List Char} (hne : digits ≠ []) (h : IsDigits digits) :
    readNatural digits =
      if longestInteger < digits.length then .error (.overlong digits.length)
      else .ok (valueOf digits) := by
  have hcontinues : ∀ c ∈ digits, continuesInteger c = true := fun c hc => by
    rw [continuesInteger, h c hc, Bool.true_or]
  rw [readNatural, List.takeWhile_eq_self_iff.2 hcontinues, List.dropWhile_eq_nil_iff.2 hcontinues,
    dropUnderscores_of_isDigits h]
  cases digits with
  | nil => exact absurd rfl hne
  | cons c digits => rfl

theorem readSign_of_isDigits {digits : List Char} (h : IsDigits digits) :
    readSign digits = (false, digits) := by
  cases digits with
  | nil => rfl
  | cons c digits =>
    have hc := h c List.mem_cons_self
    rw [readSign]
    · rintro s hs
      rw [(List.cons.inj hs).1] at hc
      exact absurd hc (by decide)
    · rintro s hs
      rw [(List.cons.inj hs).1] at hc
      exact absurd hc (by decide)

variable {s : String} {digits : List Char} {n : Int}

theorem Spells.forall_isNumeral (h : Spells s digits n) : ∀ c ∈ s.toList, IsNumeral c := by
  have hdigits : ∀ c ∈ digits, IsNumeral c := fun c hc => .inl (h.isDigits c hc)
  rcases h.toList_eq with ⟨hs | hs, -⟩ | ⟨hs, -⟩ <;> rw [hs]
  · exact hdigits
  · exact List.forall_mem_cons.2 ⟨.inr (.inr rfl), hdigits⟩
  · exact List.forall_mem_cons.2 ⟨.inr (.inl rfl), hdigits⟩

theorem Spells.readSign_eq (h : Spells s digits n) :
    ∃ negative, readSign s.toList = (negative, digits) ∧
      n = if negative then -(valueOf digits : Int) else valueOf digits := by
  rcases h.toList_eq with ⟨hs | hs, hn⟩ | ⟨hs, hn⟩ <;> rw [hs]
  · exact ⟨false, readSign_of_isDigits h.isDigits, hn⟩
  · exact ⟨false, rfl, hn⟩
  · exact ⟨true, rfl, hn⟩

/-- A text that spells an integer is read as that integer if it is not too long. -/
theorem readInteger_of_spells (h : Spells s digits n) :
    readInteger s =
      if longestInteger < digits.length then .error (.overlong digits.length) else .ok n := by
  obtain ⟨negative, hsign, hn⟩ := h.readSign_eq
  rw [readInteger, plainText_of_isNumeral h.forall_isNumeral, hsign]
  dsimp only
  rw [readNatural_of_isDigits h.ne_nil h.isDigits, hn]
  by_cases hlong : longestInteger < digits.length
  · rw [if_pos hlong, if_pos hlong]
    rfl
  · rw [if_neg hlong, if_neg hlong]
    cases negative <;> rfl

end NameTagger.Decimal
