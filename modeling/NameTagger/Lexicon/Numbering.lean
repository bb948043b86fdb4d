import NameTagger.Decimal.Binary
import NameTagger.Decimal.Read
import NameTagger.Fault
import NameTagger.Lexicon

/-!
# Lexicons from numbered strings

A model that was written out lists its strings with numbers of its own, which may have gaps and may
be given as texts.

* `SourceId`, `SourceId.value`: a number as it is listed, and the integer that it denotes;
* `Lexicon.ofNumbered`: the frozen lexicon of such a list.  The order of the numbers is kept, the
  order of the list among equal numbers; the numbers themselves are replaced by dense ones.
-/

namespace NameTagger

/-- A number as a list gives it. -/
inductive SourceId where
  | int (n : Int)
  | float (x : Float)
  | text (s : String)
deriving DecidableEq, Repr

namespace SourceId

/-- The integer part of a finite number. -/
def truncate (x : Float) : Int :=
  let m := Decimal.Magnitude.ofFloat x
  let r := Decimal.Ratio.scaled m.mantissa m.exponent 0
  if Decimal.isNegative x then -((r.num / r.den : Nat) : Int) else (r.num / r.den : Nat)

/-- The integer that a binary number denotes, without the part behind the point. -/
def ofFloat (x : Float) : Except Fault Int :=
  if x.isNaN then .error ⟨.value, "cannot convert float NaN to integer"⟩
  else if x.isInf then .error ⟨.overflow, "cannot convert float infinity to integer"⟩
  else .ok (truncate x)

/-- The most characters of a quoted text that a message shows. -/
def longestShown : Nat := 200

/-- Why a text denotes no integer, in words. -/
def problemText (s : String) : Decimal.IntegerProblem → String
  | .malformed =>
      "invalid literal for int() with base 10: " ++
        String.ofList ((Text.quoted s).toList.take longestShown)
  | .overlong digits => Decimal.unreadText digits

/-- The integer that a text denotes. -/
def ofText (s : String) : Except Fault Int :=
  match Decimal.readInteger s with
  | .ok n => .ok n
  | .error problem => .error ⟨.value, problemText s problem⟩

/-- The integer that a listed number denotes. -/
def value : SourceId → Except Fault Int
  | .int n => .ok n
  | .float x => ofFloat x
  | .text s => ofText s

end SourceId

namespace Lexicon

/-- The strings with the integers of their numbers, or the fault of the first that has none. -/
def values : List (String × SourceId) → Except Fault (List (String × Int))
  | [] => .ok []
  | (s, id) :: rest => do
      let n ← id.value
      let rest ← values rest
      .ok ((s, n) :: rest)

/-- The frozen lexicon of numbered strings, in the order of their numbers. -/
def ofNumbered (listed : List (String × SourceId)) : Except Fault Lexicon := do
  let numbered ← values listed
  .ok (ofStrings ((numbered.mergeSort fun a b => a.2 ≤ b.2).map (·.1))).freeze

end Lexicon

end NameTagger
