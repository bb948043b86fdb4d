/-!
# Line breaks

* `unifyBreaks`: every line break becomes a line feed;
* `lineAt`: the number of the line in which an offset lies.
-/

namespace NameTagger.Text

/-- A carriage return, alone or before a line feed, becomes a line feed. -/
def unifyBreaks : List Char → List Char
  | [] => []
  | '\r' :: '\n' :: s => '\n' :: unifyBreaks s
  | '\r' :: s => '\n' :: unifyBreaks s
  | c :: s => c :: unifyBreaks s

/-- The number of the line, counted from one, that holds the character at an offset. -/
def lineAt (s : List Char) (offset : Nat) : Nat := (s.take offset).count '\n' + 1

end NameTagger.Text
