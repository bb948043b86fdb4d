import NameTagger.Text.Blank

/-!
# Log lines

A training library writes its log in chunks that may end anywhere.  A line is passed on when its end
has come, without the blanks at its end; a line of which nothing is left is not passed on.

* `LogLines.cut`: the complete lines of a text, and what follows the last of them;
* `LogLines.feed`: the lines that a chunk completes, and what is pending behind it;
* `LogLines.feedAll`: the same for several chunks.
-/

namespace NameTagger.LogLines

open Text

/-- The complete lines of a text, and what follows the last one. -/
def cut : List Char → List (List Char) × List Char
  | [] => ([], [])
  | c :: s =>
      match cut s with
      | (lines, rest) =>
          if c = '\n' then ([] :: lines, rest)
          else
            match lines with
            | [] => ([], c :: rest)
            | line :: lines => ((c :: line) :: lines, rest)

/-- A line as it is passed on, if anything is left of it. -/
def shown? (line : List Char) : Option String :=
  match trimEnd line with
  | [] => none
  | line => some (String.ofList line)

/-- The lines that a chunk completes, and what is pending behind it. -/
def feed (pending : List Char) (chunk : String) : List String × List Char :=
  let (lines, pending) := cut (pending ++ chunk.toList)
  (lines.filterMap shown?, pending)

/-- The lines that chunks complete, and what is pending behind them. -/
def feedAll (pending : List Char) : List String → List String × List Char
  | [] => ([], pending)
  | chunk :: rest =>
      let (lines, pending) := feed pending chunk
      let (more, pending) := feedAll pending rest
      (lines ++ more, pending)

end NameTagger.LogLines
