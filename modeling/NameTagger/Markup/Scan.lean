import NameTagger.Markup.Piece

/-!
# The events of a markup text

Each run of text and each tag of a markup text is an event with an offset; sections that are passed
over are none.  A problem ends the scan, and the events before it stand.

* `TagKind`, `Tag`, `Tag.ofInner?`: the kind and the name of a tag;
* `Item`, `Event`: what is met, and where;
* `Scan`, `scan`: the events of a text, and the problem that ended the scan, if there is one.
-/

namespace NameTagger.Markup

open Text

/-- The kinds of tag. -/
inductive TagKind where
  | opening
  | closing
  /-- A tag that opens and closes at once. -/
  | single
deriving DecidableEq, Repr

/-- A tag. -/
structure Tag where
  kind : TagKind
  name : String
deriving DecidableEq, Repr

namespace Tag

/-- The tag of a kind whose name is the first word of a text. -/
def named? (kind : TagKind) (s : List Char) : Option Tag :=
  (words s).head?.map fun name => ⟨kind, String.ofList name⟩

/-- The tag with a given text between its brackets: a slash at the head closes, one at the end makes
the tag a single one. -/
def ofInner? (inner : List Char) : Option Tag :=
  match trim inner with
  | '/' :: rest => named? .closing rest
  | s => if s.getLast? = some '/' then named? .single s.dropLast else named? .opening s

end Tag

/-- What is met in markup. -/
inductive Item where
  | text (chars : List Char)
  | tag (tag : Tag)
deriving DecidableEq, Repr

/-- What is met at an offset. -/
structure Event where
  offset : Nat
  item : Item
deriving DecidableEq, Repr

/-- The item of a piece, if it is not passed over. -/
def Piece.item? : Piece → Except Problem (Option Item)
  | .text chars => .ok (some (.text chars))
  | .special _ _ => .ok none
  | .tag inner =>
      match Tag.ofInner? inner with
      | some t => .ok (some (.tag t))
      | none => .error .namelessTag

/-- A problem and its offset. -/
structure Halt where
  offset : Nat
  problem : Problem
deriving DecidableEq, Repr

/-- The events of a text up to a problem. -/
structure Scan where
  events : List Event
  halt? : Option Halt
deriving DecidableEq, Repr

/-- The scan of an empty text. -/
def Scan.done : Scan := ⟨[], none⟩

/-- The scan that ends at a problem at once. -/
def Scan.failed (offset : Nat) (problem : Problem) : Scan := ⟨[], some ⟨offset, problem⟩⟩

/-- A scan with what was met before it. -/
def Scan.push (offset : Nat) (item? : Option Item) (scan : Scan) : Scan :=
  match item? with
  | some item => { scan with events := ⟨offset, item⟩ :: scan.events }
  | none => scan

/-- The scan of a text that begins at an offset. -/
def scanFrom (offset : Nat) (s : List Char) : Scan :=
  if hs : s = [] then .done
  else
    match h : Piece.read s with
    | .error problem => .failed offset problem
    | .ok (piece, rest) =>
        match piece.item? with
        | .error problem => .failed offset problem
        | .ok item? =>
            have : rest.length < s.length := length_lt_of_read hs h
            (scanFrom (offset + piece.source.length) rest).push offset item?
termination_by s.length

/-- The scan of a markup text. -/
def scan (s : List Char) : Scan := scanFrom 0 s

end NameTagger.Markup
