/-!
# Sets of characters as spans of code points

A character class is a short list of spans.  Where a class takes every second character of a
stretch of the code, as the letter cases do, the span has the stride two.

* `Span`: first and last code point and a stride;
* `Span.contains`: one span; `Span.mem`: an ascending list of them.
-/

namespace NameTagger.Text

/-- The code points `first`, `first + stride`, and so on up to `last`. -/
structure Span where
  first : Nat
  last : Nat
  stride : Nat
deriving DecidableEq, Repr

/-- Whether a code point belongs to the span. -/
def Span.contains (span : Span) (n : Nat) : Bool :=
  span.first ≤ n && n ≤ span.last && (n - span.first) % span.stride == 0

/-- Whether a code point belongs to one of the spans.  They ascend by their first code point, so
the search ends at the first span that begins above the code point. -/
def Span.mem : List Span → Nat → Bool
  | [], _ => false
  | span :: rest, n =>
      if n < span.first then false else span.contains n || Span.mem rest n

@[simp] theorem Span.mem_nil (n : Nat) : Span.mem [] n = false := rfl

end NameTagger.Text
