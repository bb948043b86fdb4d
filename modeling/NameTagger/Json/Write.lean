import NameTagger.Decimal.Layout
import NameTagger.Json.Codec

/-!
# Writing JSON

In a string only the quote, the backslash and the controls are escaped.  Binary numbers are written
with the fewest digits that identify them and always show that they are none of the integers; those
that are not finite become null.

* `compact`: without blanks; `indented`: one field or item a line, two spaces for a level;
* `refusal?`: integers beyond 64 bits and values nested too deeply are not written;
* `write`: the text of a value, or the refusal.
-/

namespace NameTagger.Json

/-- The escape of a character inside a string. -/
def escape (c : Char) : List Char :=
  if c = '\x22' || c = '\x5c' then ['\x5c', c]
  else if c = '\x08' then ['\x5c', 'b']
  else if c = '\t' then ['\x5c', 't']
  else if c = '\n' then ['\x5c', 'n']
  else if c = '\x0c' then ['\x5c', 'f']
  else if c = '\r' then ['\x5c', 'r']
  else if c.toNat < 0x20 then
    ['\x5c', 'u', '0', '0', Nat.digitChar (c.toNat / 16), Nat.digitChar (c.toNat % 16)]
  else [c]

/-- A string between its quotes. -/
def quote (s : String) : List Char := '\x22' :: s.toList.flatMap escape ++ ['\x22']

/-- Numbers in documents: positional from the fifth place behind the point to the sixteenth before
it, exponents without zeros before them. -/
def numberLayout : Decimal.Layout := ⟨-5, 16, 1⟩

/-- A binary number. -/
def numberText (x : Float) : String :=
  if x.isNaN || x.isInf then "null" else numberLayout.write x

/-- The text of a value that holds no others. -/
def leaf : Json → List Char
  | .null => "null".toList
  | .bool b => (if b then "true" else "false").toList
  | .int n => (toString n).toList
  | .float x => (numberText x).toList
  | .str s => quote s
  | .arr _ => ['[', ']']
  | .obj _ => ['\x7b', '\x7d']

mutual

/-- The characters of a value without blanks. -/
def compactChars : Json → List Char
  | .arr (item :: rest) => '[' :: (compactChars item ++ compactItems rest)
  | .obj ((key, v) :: rest) =>
      '\x7b' :: (quote key ++ ':' :: (compactChars v ++ compactFields rest))
  | v => leaf v

/-- Further items, each behind a comma, and the end of the array. -/
def compactItems : List Json → List Char
  | [] => [']']
  | item :: rest => ',' :: (compactChars item ++ compactItems rest)

/-- Further fields, each behind a comma, and the end of the object. -/
def compactFields : List (String × Json) → List Char
  | [] => ['\x7d']
  | (key, v) :: rest => ',' :: (quote key ++ ':' :: (compactChars v ++ compactFields rest))

end

/-- A value without blanks. -/
def compact (v : Json) : String := String.ofList (compactChars v)

/-- The beginning of a line at a level. -/
def newline (level : Nat) : List Char := '\n' :: List.replicate (2 * level) ' '

/-- A key and what stands between it and its value. -/
def heading (key : String) : List Char := quote key ++ [':', ' ']

mutual

/-- The characters of a value whose lines are indented to a level. -/
def indentedChars (level : Nat) : Json → List Char
  | .arr (item :: rest) =>
      '[' :: (newline (level + 1) ++ (indentedChars (level + 1) item ++ indentedItems level rest))
  | .obj ((key, v) :: rest) =>
      '\x7b' :: (newline (level + 1) ++
        (heading key ++ (indentedChars (level + 1) v ++ indentedFields level rest)))
  | v => leaf v

/-- Further items of an array at a level, each behind a comma on a line of its own, and the end of
the array. -/
def indentedItems (level : Nat) : List Json → List Char
  | [] => newline level ++ [']']
  | item :: rest =>
      ',' :: (newline (level + 1) ++ (indentedChars (level + 1) item ++ indentedItems level rest))

/-- Further fields of an object at a level, each behind a comma on a line of its own, and the end of
the object. -/
def indentedFields (level : Nat) : List (String × Json) → List Char
  | [] => newline level ++ ['\x7d']
  | (key, v) :: rest =>
      ',' :: (newline (level + 1) ++
        (heading key ++ (indentedChars (level + 1) v ++ indentedFields level rest)))

end

/-- A value with one field or item a line. -/
def indented (v : Json) : String := String.ofList (indentedChars 0 v)

/-- Why a value is not written. -/
inductive Refusal where
  | integerRange
  | depth
deriving DecidableEq, Repr

/-- The reason in words. -/
def Refusal.message : Refusal → String
  | .integerRange => "Integer exceeds 64-bit range"
  | .depth => "Recursion limit reached"

/-- How deep containers may be nested in a written value. -/
def deepestWritten : Nat := 254

mutual

/-- The first reason not to write a value, when `depth` more levels may be opened. -/
def refusalAt? (depth : Nat) : Json → Option Refusal
  | .int n => if -2 ^ 63 ≤ n && n < 2 ^ 64 then none else some .integerRange
  | .arr items =>
      match depth with
      | 0 => some .depth
      | depth + 1 => refusalIn? depth items
  | .obj fields =>
      match depth with
      | 0 => some .depth
      | depth + 1 => refusalInFields? depth fields
  | _ => none

/-- The first reason not to write one of several items. -/
def refusalIn? (depth : Nat) : List Json → Option Refusal
  | [] => none
  | item :: rest => refusalAt? depth item <|> refusalIn? depth rest

/-- The first reason not to write one of several fields. -/
def refusalInFields? (depth : Nat) : List (String × Json) → Option Refusal
  | [] => none
  | (_, v) :: rest => refusalAt? depth v <|> refusalInFields? depth rest

end

/-- The first reason not to write a value. -/
def refusal? (v : Json) : Option Refusal := refusalAt? deepestWritten v

/-- The text of a value that may be written. -/
def text : Style → Json → String
  | .compact => compact
  | .indented => indented

/-- The text of a value, or why it is not written. -/
def write (style : Style) (v : Json) : Except Refusal String :=
  match refusal? v with
  | some refusal => .error refusal
  | none => .ok (text style v)

end NameTagger.Json
