import Mathlib.Tactic.IntervalCases
import NameTagger.Json.Read
import NameTagger.Json.Write

/-!
# Strings in JSON

* `chars_escape`: an escaped character is read back;
* `string_quote`: so is a string between its quotes.
-/

namespace NameTagger.Json

/-- The code of a control is read back. -/
theorem unit?_control {c : Char} (hc : c.toNat < 0x20) (rest : List Char) :
    unit? ('0' :: '0' :: Nat.digitChar (c.toNat / 16) :: Nat.digitChar (c.toNat % 16) :: rest) =
      some (c, rest) := by
  have hof := Char.ofNat_toNat c
  generalize c.toNat = n at *
  subst hof
  interval_cases n <;> rfl

/-- A character that needs no escape is read as it is. -/
theorem chars_plain {c : Char} (hquote : c ≠ '\x22') (hbackslash : c ≠ '\x5c')
    (hcontrol : ¬ c.toNat < 0x20) (done rest : List Char) :
    chars done (c :: rest) = chars (c :: done) rest := by
  rw [chars, if_neg hbackslash, if_neg hcontrol]
  · exact hquote
  · exact fun _ h => absurd h hbackslash
  · exact fun _ _ h => absurd h hbackslash

/-- An escape of a letter is read as what it stands for. -/
theorem chars_letter {c l : Char} (hl : letter? l = some c) (done rest : List Char) :
    chars done ('\x5c' :: l :: rest) = chars (c :: done) rest := by
  rw [chars, hl]
  rintro rfl
  cases hl

/-- The code of a control is read as the control. -/
theorem chars_control {c : Char} (hc : c.toNat < 0x20) (done rest : List Char) :
    chars done ('\x5c' :: 'u' :: '0' :: '0' :: Nat.digitChar (c.toNat / 16) ::
      Nat.digitChar (c.toNat % 16) :: rest) = chars (c :: done) rest := by
  have hcode := unit?_control hc rest
  rw [chars]
  split
  next h =>
    obtain ⟨rfl, rfl⟩ := Prod.mk.inj (Option.some.inj (hcode.symm.trans h))
    rfl
  next h => cases hcode.symm.trans h

/-- Whatever its escape is, a character is read back. -/
theorem chars_escape (c : Char) (done rest : List Char) :
    chars done (escape c ++ rest) = chars (c :: done) rest := by
  rw [escape]
  split
  next h =>
    refine chars_letter ?_ done rest
    rw [Bool.or_eq_true, decide_eq_true_eq, decide_eq_true_eq] at h
    rcases h with rfl | rfl <;> rfl
  next hplain =>
    rw [Bool.or_eq_true, decide_eq_true_eq, decide_eq_true_eq, not_or] at hplain
    split
    next h => subst h; exact chars_letter rfl done rest
    split
    next h => subst h; exact chars_letter rfl done rest
    split
    next h => subst h; exact chars_letter rfl done rest
    split
    next h => subst h; exact chars_letter rfl done rest
    split
    next h => subst h; exact chars_letter rfl done rest
    split
    next h => exact chars_control h done rest
    next h => exact chars_plain hplain.1 hplain.2 h done rest

/-- A string is read back. -/
theorem string_quote (s : String) (rest : List Char) :
    string (s.toList.flatMap escape ++ '\x22' :: rest) = .ok (s, rest) := by
  have h (done cs : List Char) : chars done (cs.flatMap escape ++ '\x22' :: rest) =
      .ok (String.ofList (done.reverse ++ cs), rest) := by
    induction cs generalizing done with
    | nil =>
      rw [List.flatMap_nil, List.nil_append, chars, List.append_nil]
    | cons c cs ih =>
      rw [List.flatMap_cons, List.append_assoc, chars_escape, ih, List.reverse_cons,
        List.append_assoc, List.singleton_append]
  rw [string, h, List.reverse_nil, List.nil_append, String.ofList_toList]

end NameTagger.Json
