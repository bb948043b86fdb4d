import NameTagger.Corpus.Basic
import NameTagger.Markup.Scan
import NameTagger.Text.Lines
import NameTagger.Text.Reference

/-!
# Reading a corpus

A labeled name is a `Name` element.  Each element inside it is a token: its tag is the label, and
its text is the token.  Whatever stands outside a name is passed over, and so are text and single
tags between the tokens of a name.

* `normalize`, `normalize?`: the token text that the characters inside a label element stand for;
* `State`, `Reader`, `Reader.step`: what is known between two events;
* `Violation`, `Error`: the ways in which a corpus is malformed, with the place; `Failure`: also
  that a character code cannot be read;
* `parse`: the corpus that a text describes.
-/

namespace NameTagger.Corpus

open Text Markup

/-- The element of a name. -/
def nameElement : String := "Name"

/-- A token text: character references are decoded, and each run of blanks is one space. -/
def normalize (raw : List Char) : List Char := squeeze (decodeReferences raw)

/-- The ways in which a corpus is malformed. -/
inductive Violation where
  | markup (problem : Problem)
  | nestedName
  | strayClosing (tag : String)
  | mismatchedClosing (tag label : String)
  | nestedTag (tag label : String)
  | openLabel (label : String)
  | openName
deriving DecidableEq, Repr

/-- The violation in words. -/
def Violation.message : Violation → String
  | .markup problem => problem.message
  | .nestedName => "Nested <" ++ nameElement ++ "> element"
  | .strayClosing tag => "Unexpected closing tag </" ++ tag ++ "> inside <" ++ nameElement ++ ">"
  | .mismatchedClosing tag label =>
      "Mismatched closing tag </" ++ tag ++ ">, expected </" ++ label ++ ">"
  | .nestedTag tag label => "Tag <" ++ tag ++ "> opened inside <" ++ label ++ ">"
  | .openLabel label => "Unterminated <" ++ label ++ "> element"
  | .openName => "Unterminated <" ++ nameElement ++ "> element"

/-- The token text of the characters inside a label element, or the number of digits of a character
code that cannot be read. -/
def normalize? (raw : List Char) : Except Nat (List Char) :=
  match overlongCode? raw with
  | some digits => .error digits
  | none => .ok (normalize raw)

/-- Why a text describes no corpus.  A character code of too many digits is told without a place. -/
inductive Failure (ε : Type) where
  | malformed (error : ε)
  | overlongCode (digits : Nat)
deriving DecidableEq, Repr

/-- The same with another error. -/
def Failure.map {ε ε' : Type} (f : ε → ε') : Failure ε → Failure ε'
  | .malformed error => .malformed (f error)
  | .overlongCode digits => .overlongCode digits

/-- A violation and the offset of the tag or section to blame. -/
structure Violation.At where
  violation : Violation
  offset : Nat
deriving DecidableEq, Repr

/-- What is open between two events. -/
inductive State where
  | outside
  | inName (start : Nat) (tokens : Array LabeledToken)
  | inLabel (start : Nat) (tokens : Array LabeledToken) (label : String) (labelStart : Nat)
      (raw : List Char)
deriving DecidableEq, Repr

/-- The names that are complete, and what is open. -/
structure Reader where
  done : Array Sequence
  state : State
deriving DecidableEq, Repr

namespace Reader

/-- Nothing was met yet. -/
def start : Reader := ⟨#[], .outside⟩

/-- Complete names with an empty one left out. -/
def close (done : Array Sequence) (tokens : Array LabeledToken) : Array Sequence :=
  if tokens.isEmpty then done else done.push tokens.toList

/-- Tokens with that of a label element, which is left out if it has no text. -/
def label (tokens : Array LabeledToken) (label : String) : List Char → Array LabeledToken
  | [] => tokens
  | text => tokens.push ⟨String.ofList text, label⟩

/-- The state behind an event, or what prevents it. -/
def step (reader : Reader) (event : Event) : Except (Failure Violation.At) Reader :=
  let enter (state : State) : Except (Failure Violation.At) Reader := .ok { reader with state }
  let refuse (violation : Violation) : Except (Failure Violation.At) Reader :=
    .error (.malformed ⟨violation, event.offset⟩)
  match reader.state, event.item with
  | .outside, .tag ⟨.opening, name⟩ =>
      if name = nameElement then enter (.inName event.offset #[]) else .ok reader
  | .outside, _ => .ok reader
  | .inName start tokens, .tag ⟨.opening, name⟩ =>
      if name = nameElement then refuse .nestedName
      else enter (.inLabel start tokens name event.offset [])
  | .inName _ tokens, .tag ⟨.closing, name⟩ =>
      if name = nameElement then .ok ⟨close reader.done tokens, .outside⟩
      else refuse (.strayClosing name)
  | .inName _ _, _ => .ok reader
  | .inLabel start tokens open_ labelStart raw, .text chars =>
      enter (.inLabel start tokens open_ labelStart (raw ++ chars))
  | .inLabel start tokens open_ _ raw, .tag ⟨.closing, name⟩ =>
      if name = open_ then
        match normalize? raw with
        | .ok text => enter (.inName start (label tokens open_ text))
        | .error digits => .error (.overlongCode digits)
      else refuse (.mismatchedClosing name open_)
  | .inLabel _ _ open_ _ _, .tag tag => refuse (.nestedTag tag.name open_)

/-- The corpus at the end of the text, where nothing may be open. -/
def finish (reader : Reader) : Except (Failure Violation.At) Corpus :=
  match reader.state with
  | .outside => .ok reader.done.toList
  | .inName start _ => .error (.malformed ⟨.openName, start⟩)
  | .inLabel _ _ label start _ => .error (.malformed ⟨.openLabel label, start⟩)

end Reader

/-- The corpus of a scanned text.  What is wrong with the events comes before the problem that ended
the scan, and that before what the end of the text leaves open. -/
def ofScan (scan : Scan) : Except (Failure Violation.At) Corpus := do
  let reader ← scan.events.foldlM Reader.step .start
  match scan.halt? with
  | some halt => .error (.malformed ⟨.markup halt.problem, halt.offset⟩)
  | none => reader.finish

/-- What is wrong with a malformed corpus. -/
structure Error where
  violation : Violation
  /-- The number of the line to blame, from one on. -/
  line : Nat
deriving DecidableEq, Repr

/-- A message that names a line, if it is known. -/
def located (message : String) (line? : Option Int) : String :=
  match line? with
  | some line => message ++ " (line " ++ toString line ++ ")"
  | none => message

/-- The error in words. -/
def Error.message (e : Error) : String := located e.violation.message (some e.line)

/-- A violation in a text, with its line in place of the offset. -/
def Violation.At.inText (text : String) (v : Violation.At) : Error :=
  ⟨v.violation, lineAt text.toList v.offset⟩

/-- The corpus that a text describes. -/
def parse (text : String) : Except (Failure Error) Corpus :=
  (ofScan (scan text.toList)).mapError (·.map (·.inText text))

end NameTagger.Corpus
