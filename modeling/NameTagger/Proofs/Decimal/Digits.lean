import Mathlib.Algebra.Ring.Nat
import NameTagger.Decimal.Read

/-!
# Digits and what they denote

* `IsDigits`: a text of the usual digits;
* `valueOf_append`, `valueOf_replicate_zero`, `valueOf_toDigits`: the number that digits denote;
* `takeWhile_isDigits_append`, `dropWhile_isDigits_append`: where digits end;
* `head?_toDigits_ne_zero`: the digits of a number begin with none that could be left out;
* `ten_pow_le_of_ne_zero`: a number is at least the power of ten of its first digit.
-/

namespace NameTagger.Decimal

/-- Only the usual digits. -/
def IsDigits (s : List Char) : Prop := ∀ c ∈ s, isPlainDigit c = true

instance : DecidablePred IsDigits := fun s =>
  List.decidableBAll (fun c => isPlainDigit c = true) s

theorem IsDigits.append {s t : List Char} (hs : IsDigits s) (ht : IsDigits t) :
    IsDigits (s ++ t) :=
  fun c hc => (List.mem_append.1 hc).elim (hs c) (ht c)

theorem isDigits_toDigits (n : Nat) : IsDigits (Nat.toDigits 10 n) := fun c hc => by
  have h : c.isDigit = true := Nat.isDigit_of_mem_toDigits (by decide) (by decide) hc
  exact h

theorem isDigits_replicate_zero (n : Nat) : IsDigits (List.replicate n '0') := fun c hc => by
  rw [List.eq_of_mem_replicate hc]
  decide

/-! ### The number -/

theorem valueOf_eq (s : List Char) : valueOf s = Nat.ofDigitChars 10 s 0 := by
  rw [valueOf, Nat.ofDigitChars_eq_foldl]
  simp only [Nat.mul_comm]

theorem valueOf_append (s t : List Char) :
    valueOf (s ++ t) = valueOf s * 10 ^ t.length + valueOf t := by
  rw [valueOf_eq, valueOf_eq, valueOf_eq, Nat.ofDigitChars_append,
    Nat.ofDigitChars_eq_ofDigitChars_zero, Nat.mul_comm]

@[simp] theorem valueOf_toDigits (n : Nat) : valueOf (Nat.toDigits 10 n) = n := by
  rw [valueOf_eq, Nat.ofDigitChars_toDigits (by decide) (by decide)]

@[simp] theorem valueOf_replicate_zero (n : Nat) : valueOf (List.replicate n '0') = 0 := by
  rw [valueOf_eq, Nat.ofDigitChars_replicate_zero, Nat.mul_zero]

/-! ### Where digits end -/

/-- A text that does not begin with a digit. -/
def NoDigit (s : List Char) : Prop := ∀ c ∈ s.head?, isPlainDigit c = false

theorem takeWhile_isDigits_append {s rest : List Char} (hs : IsDigits s) (hrest : NoDigit rest) :
    (s ++ rest).takeWhile isPlainDigit = s := by
  have hnone : rest.takeWhile isPlainDigit = [] := by
    cases rest with
    | nil => rfl
    | cons c rest => rw [List.takeWhile_cons, hrest c rfl]; rfl
  rw [List.takeWhile_append_of_pos hs, hnone, List.append_nil]

theorem dropWhile_isDigits_append {s rest : List Char} (hs : IsDigits s) (hrest : NoDigit rest) :
    (s ++ rest).dropWhile isPlainDigit = rest := by
  rw [List.dropWhile_append_of_pos hs]
  cases rest with
  | nil => rfl
  | cons c rest => rw [List.dropWhile_cons, hrest c rfl]; rfl

/-- A positive number is not written with a zero at the front. -/
theorem head?_toDigits_ne_zero {n : Nat} (hn : 0 < n) :
    (Nat.toDigits 10 n).head? ≠ some '0' := by
  induction n using Nat.strongRecOn with
  | ind n ih =>
    rw [Nat.toDigits_eq_if (by decide)]
    split
    · simpa using Nat.pos_iff_ne_zero.1 hn
    · rw [List.head?_append, Option.or_of_isSome (List.isSome_head?.2 Nat.toDigits_ne_nil)]
      exact ih (n / 10) (by omega) (by omega)

/-- A number is at least the power of ten of its first digit. -/
theorem ten_pow_le_of_ne_zero {m : Nat} (hm : m ≠ 0) :
    10 ^ ((Nat.toDigits 10 m).length - 1) ≤ m := by
  rcases Nat.eq_zero_or_pos ((Nat.toDigits 10 m).length - 1) with h | h
  · rw [h, Nat.pow_zero]
    exact Nat.one_le_iff_ne_zero.2 hm
  · by_contra hlt
    have := (Nat.length_toDigits_le_iff (by decide) h).2 (Nat.not_le.1 hlt)
    omega

end NameTagger.Decimal
