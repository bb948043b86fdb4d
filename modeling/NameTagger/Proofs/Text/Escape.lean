import NameTagger.Text.Blank
import NameTagger.Text.Reference

/-!
# Text as it is written in markup

* `encodeReferences`: the three characters that markup does not hold as they are become references;
* `decodeReferences_encodeReferences`: the references are those that are decoded, and nothing else
  is;
* `lt_notMem_encodeReferences`, `hasOverlongCode_encodeReferences`: neither a tag nor a character
  code begins in the result.
-/

namespace NameTagger.Text

/-- What a character is written as. -/
def encodeChar (c : Char) : List Char :=
  if c = '&' then "&amp;".toList
  else if c = '<' then "&lt;".toList
  else if c = '>' then "&gt;".toList
  else [c]

/-- What a text is written as. -/
def encodeReferences (s : List Char) : List Char := s.flatMap encodeChar

@[simp] theorem encodeReferences_cons (c : Char) (s : List Char) :
    encodeReferences (c :: s) = encodeChar c ++ encodeReferences s := rfl

theorem encodeChar_cases (c : Char) :
    (c = '&' ∧ encodeChar c = '&' :: "amp;".toList) ∨
      (c = '<' ∧ encodeChar c = '&' :: "lt;".toList) ∨
      (c = '>' ∧ encodeChar c = '&' :: "gt;".toList) ∨
      ((c ≠ '&' ∧ c ≠ '<' ∧ c ≠ '>') ∧ encodeChar c = [c]) := by
  rw [encodeChar]
  split
  · next h => exact .inl ⟨h, rfl⟩
  · next hamp =>
    split
    · next h => exact .inr (.inl ⟨h, rfl⟩)
    · next hlt =>
      split
      · next h => exact .inr (.inr (.inl ⟨h, rfl⟩))
      · next hgt => exact .inr (.inr (.inr ⟨⟨hamp, hlt, hgt⟩, rfl⟩))

/-! ### Decoding -/

theorem decodeReferences_cons_of_ne {c : Char} (hc : c ≠ '&') (s : List Char) :
    decodeReferences (c :: s) = c :: decodeReferences s := by
  rw [decodeReferences, if_neg hc]

theorem decodeReferences_cons_of_read {s : List Char} {reference : Reference} {length : Nat}
    (h : Reference.read s = some (reference, length)) :
    decodeReferences ('&' :: s) = reference.text ++ decodeReferences (s.drop length) := by
  rw [decodeReferences, if_pos rfl, h]

theorem decodeReferences_encodeChar_append (c : Char) (s : List Char) :
    decodeReferences (encodeChar c ++ s) = c :: decodeReferences s := by
  rcases encodeChar_cases c with ⟨rfl, h⟩ | ⟨rfl, h⟩ | ⟨rfl, h⟩ | ⟨⟨hc, -⟩, h⟩
  · have hread : Reference.read ("amp;".toList ++ s) = some (.name "amp;".toList, 4) := rfl
    rw [h, List.cons_append, decodeReferences_cons_of_read hread]
    rfl
  · have hread : Reference.read ("lt;".toList ++ s) = some (.name "lt;".toList, 3) := rfl
    rw [h, List.cons_append, decodeReferences_cons_of_read hread]
    rfl
  · have hread : Reference.read ("gt;".toList ++ s) = some (.name "gt;".toList, 3) := rfl
    rw [h, List.cons_append, decodeReferences_cons_of_read hread]
    rfl
  · rw [h, List.singleton_append, decodeReferences_cons_of_ne hc]

/-- Nothing is lost between a text and what it is written as. -/
@[simp] theorem decodeReferences_encodeReferences (s : List Char) :
    decodeReferences (encodeReferences s) = s := by
  induction s with
  | nil => exact decodeReferences_nil
  | cons c s ih => rw [encodeReferences_cons, decodeReferences_encodeChar_append, ih]

/-! ### What the result does not hold -/

theorem lt_notMem_encodeReferences (s : List Char) : '<' ∉ encodeReferences s := by
  intro h
  obtain ⟨c, -, hc⟩ := List.mem_flatMap.1 h
  rcases encodeChar_cases c with ⟨-, h⟩ | ⟨-, h⟩ | ⟨-, h⟩ | ⟨⟨-, hlt, -⟩, h⟩
  · rw [h] at hc
    exact absurd hc (by decide)
  · rw [h] at hc
    exact absurd hc (by decide)
  · rw [h] at hc
    exact absurd hc (by decide)
  · rw [h] at hc
    exact hlt (List.mem_singleton.1 hc).symm

theorem encodeReferences_ne_nil {s : List Char} (h : s ≠ []) : encodeReferences s ≠ [] := by
  intro hnil
  have hdecode := decodeReferences_encodeReferences s
  rw [hnil, decodeReferences_nil] at hdecode
  exact h hdecode.symm

@[simp] theorem hasOverlongCode_encodeReferences (s : List Char) :
    hasOverlongCode (encodeReferences s) = false := by
  induction s with
  | nil => rfl
  | cons c s ih =>
    rw [encodeReferences_cons]
    rcases encodeChar_cases c with ⟨-, h⟩ | ⟨-, h⟩ | ⟨-, h⟩ | ⟨⟨hc, -⟩, h⟩
    · rw [h]
      exact ih
    · rw [h]
      exact ih
    · rw [h]
      exact ih
    · rw [h, List.singleton_append, hasOverlongCode_cons_of_ne hc, ih]

end NameTagger.Text
