import Std.Data.HashMap
import NameTagger.Text.Quoted

/-!
# Lexicons

A lexicon numbers strings densely in the order in which they arrive.  It grows while a model is
trained; frozen, it only looks up.

* `Lexicon`: the strings with an index that agrees with them;
* `id?`, `string?`, `stringAt?`, `strings`, `size`: the two directions and the whole;
* `intern`: the number of a string, which is added when it is new, or `Lexicon.ReadOnly`, and the
  lexicon behind it;
* `ofStrings`, `freeze`.
-/

namespace NameTagger

/-- Strings numbered from zero on, with the number of each. -/
structure Lexicon where
  entries : Array String
  index : Std.HashMap String Nat
  frozen : Bool
  /-- The index gives the place of each string, and of nothing else. -/
  index_eq : ∀ (s : String) (i : Nat), index[s]? = some i ↔ entries[i]? = some s

namespace Lexicon

/-- The refusal to add a string to a frozen lexicon. -/
structure ReadOnly where
  entry : String
deriving DecidableEq, Repr

/-- The refusal in words. -/
def ReadOnly.message (e : ReadOnly) : String :=
  "Cannot insert " ++ Text.quoted e.entry ++ ": dictionary is read-only"

/-- The lexicon without strings. -/
def empty : Lexicon where
  entries := #[]
  index := ∅
  frozen := false
  index_eq := by simp

/-- The number of strings. -/
def size (d : Lexicon) : Nat := d.entries.size

/-- The strings in the order of their numbers. -/
def strings (d : Lexicon) : List String := d.entries.toList

/-- The number of a string. -/
def id? (d : Lexicon) (s : String) : Option Nat := d.index[s]?

/-- The string with a number. -/
def string? (d : Lexicon) (i : Nat) : Option String := d.entries[i]?

/-- The string with a number that may have a sign; there is none with a negative one. -/
def stringAt? (d : Lexicon) (i : Int) : Option String :=
  if i < 0 then none else d.string? i.toNat

/-- Whether a string has a number. -/
def contains (d : Lexicon) (s : String) : Bool := (d.id? s).isSome

/-- The same lexicon, closed to new strings. -/
def freeze (d : Lexicon) : Lexicon := { d with frozen := true }

/-- Add a string that has no number yet. -/
def push (d : Lexicon) (s : String) (h : d.index[s]? = none) : Lexicon :=
  match d, h with
  | ⟨entries, index, frozen, index_eq⟩, h =>
    let next := entries.size
    { entries := entries.push s
      index := index.insert s next
      frozen := frozen
      index_eq := by
        intro t i
        have ht := index_eq t i
        have hs := index_eq s i
        rw [Std.HashMap.getElem?_insert, Array.getElem?_push]
        by_cases hst : s = t
        · subst hst
          by_cases hi : i = entries.size
          · simp [next, hi]
          · simp only [beq_self_eq_true, ↓reduceIte, Option.some.injEq, next, hi]
            rw [← hs, h]
            simp [Ne.symm hi]
        · by_cases hi : i = entries.size
          · subst hi
            have hnone : entries[entries.size]? = none := by simp
            simp only [beq_iff_eq, hst, ↓reduceIte, Option.some.injEq, iff_false]
            rw [ht, hnone]
            simp
          · simpa [hst, hi] using ht }

/-- The lexicon behind the request for the number of a string, and the number.  A new string goes to
the end; a frozen lexicon refuses it and stays as it is. -/
def intern (d : Lexicon) (s : String) : Lexicon × Except ReadOnly Nat :=
  match h : d.index[s]? with
  | some i => (d, .ok i)
  | none =>
      if d.frozen then (d, .error ⟨s⟩)
      else
        let next := d.size
        (d.push s h, .ok next)

/-- Add strings as far as possible: the lexicon that results, and the refusal that stopped it. -/
def internAll (d : Lexicon) : List String → Lexicon × Except ReadOnly Unit
  | [] => (d, .ok ())
  | s :: rest =>
      match d.intern s with
      | (d, .error e) => (d, .error e)
      | (d, .ok _) => d.internAll rest

/-- The lexicon of the strings of a list, numbered by their first occurrence. -/
def ofStrings (ss : List String) : Lexicon := (empty.internAll ss).1

/-- A lexicon in words. -/
def describe (d : Lexicon) : String :=
  "<Dictionary " ++ toString d.size ++ " entries, " ++
    (if d.frozen then "frozen" else "growing") ++ ">"

@[simp] theorem size_empty : empty.size = 0 := rfl

@[simp] theorem strings_empty : empty.strings = [] := rfl

@[simp] theorem strings_freeze (d : Lexicon) : d.freeze.strings = d.strings := rfl

@[simp] theorem id?_freeze (d : Lexicon) (s : String) : d.freeze.id? s = d.id? s := rfl

@[simp] theorem string?_freeze (d : Lexicon) (i : Nat) : d.freeze.string? i = d.string? i := rfl

@[simp] theorem stringAt?_natCast (d : Lexicon) (i : Nat) : d.stringAt? i = d.string? i := by
  rw [stringAt?, if_neg (by omega), Int.toNat_natCast]

theorem length_strings (d : Lexicon) : d.strings.length = d.size := by
  simp [strings, size]

theorem string?_eq (d : Lexicon) (i : Nat) : d.string? i = d.strings[i]? := by
  simp [string?, strings]

/-- The two directions are inverse to each other. -/
theorem id?_eq_some_iff (d : Lexicon) (s : String) (i : Nat) :
    d.id? s = some i ↔ d.string? i = some s :=
  d.index_eq s i

@[simp] theorem strings_push (d : Lexicon) (s : String) (h : d.index[s]? = none) :
    (d.push s h).strings = d.strings ++ [s] := by
  cases d
  simp [push, strings]

end Lexicon

end NameTagger
