import NameTagger.Decimal.Read
import NameTagger.Json.Value

/-!
# Reading JSON

The strict grammar: no byte order mark, no comments, no trailing commas, no words for numbers that
are not finite, no lone surrogates.  Values may be nested to a depth of 1024.  An integer beyond 64
bits becomes a binary number; a number too large for one is refused.  Of a repeated key the last
value counts, in the place of the first.

* `Json.Error`: why a text is refused;
* `Json.parse`: the value that a text denotes;
* `Json.ofBytes`: the same for bytes, which have to be UTF-8.
-/

namespace NameTagger.Json

/-- Why a text is not read as a JSON value. -/
inductive Error where
  | encoding
  | ended
  | unexpected (c : Char)
  | trailing (c : Char)
  | depth
  | control (c : Char)
  | badEscape
  | badNumber
deriving DecidableEq, Repr

/-- The reason in words. -/
def Error.message : Error → String
  | .encoding => "not valid UTF-8"
  | .ended => "the text ends inside a value"
  | .unexpected c => "unexpected character with code " ++ toString c.toNat
  | .trailing c => "behind the value stands a character with code " ++ toString c.toNat
  | .depth => "nested too deeply"
  | .control c => "control character with code " ++ toString c.toNat ++ " in a string"
  | .badEscape => "invalid escape in a string"
  | .badNumber => "invalid number"

/-- What is read from the front of a text, with the rest of it. -/
abbrev Result (α : Type) := Except Error (α × List Char)

/-- The text without the blanks before the next token. -/
def skip (s : List Char) : List Char :=
  s.dropWhile fun c => c = ' ' || c = '\t' || c = '\n' || c = '\r'

/-- Read a given word. -/
def word (value : Json) : List Char → List Char → Result Json
  | [], s => .ok (value, s)
  | _ :: _, [] => .error .ended
  | w :: ws, c :: s => if c = w then word value ws s else .error (.unexpected c)

/-- The value of four hexadecimal digits. -/
def code? (s : List Char) : Option (Nat × List Char) :=
  match s with
  | a :: b :: c :: d :: rest => do
      let digit (c : Char) : Option Nat :=
        if '0' ≤ c && c ≤ '9' then some (c.toNat - '0'.toNat)
        else if 'a' ≤ c && c ≤ 'f' then some (c.toNat - 'a'.toNat + 10)
        else if 'A' ≤ c && c ≤ 'F' then some (c.toNat - 'A'.toNat + 10)
        else none
      some ((((← digit a) * 16 + (← digit b)) * 16 + (← digit c)) * 16 + (← digit d), rest)
  | _ => none

/-- The character of a code behind `\u`, with the second half of a pair of surrogates. -/
def unit? (s : List Char) : Option (Char × List Char) := do
  let (n, rest) ← code? s
  if 0xD800 ≤ n && n ≤ 0xDBFF then
    match rest with
    | '\x5c' :: 'u' :: rest =>
        let (m, rest) ← code? rest
        if 0xDC00 ≤ m && m ≤ 0xDFFF then
          some (Char.ofNat (0x10000 + (n - 0xD800) * 0x400 + (m - 0xDC00)), rest)
        else none
    | _ => none
  else if 0xDC00 ≤ n && n ≤ 0xDFFF then none
  else some (Char.ofNat n, rest)

/-- The character that a letter behind a backslash stands for. -/
def letter? : Char → Option Char
  | '\x22' => some '\x22'
  | '\x5c' => some '\x5c'
  | '/' => some '/'
  | 'b' => some '\x08'
  | 'f' => some '\x0c'
  | 'n' => some '\n'
  | 'r' => some '\r'
  | 't' => some '\t'
  | _ => none

theorem length_lt_of_code? {s rest : List Char} {n : Nat} (h : code? s = some (n, rest)) :
    rest.length < s.length := by
  unfold code? at h
  split at h
  · simp only [Option.bind_eq_bind, Option.bind_eq_some_iff, Option.some.injEq,
      Prod.mk.injEq] at h
    obtain ⟨_, _, _, _, _, _, _, _, _, rfl⟩ := h
    simp only [List.length_cons]
    omega
  · cases h

/-- A code takes up at least one character. -/
theorem length_lt_of_unit? {s rest : List Char} {c : Char} (h : unit? s = some (c, rest)) :
    rest.length < s.length := by
  simp only [unit?, Option.bind_eq_bind, Option.bind_eq_some_iff] at h
  obtain ⟨⟨n, behind⟩, hn, h⟩ := h
  have hlt := length_lt_of_code? hn
  simp only at h
  split at h
  · split at h
    · simp only [Option.bind_eq_some_iff] at h
      obtain ⟨⟨m, last⟩, hm, h⟩ := h
      have hlast := length_lt_of_code? hm
      simp only [List.length_cons] at hlt
      simp only at h
      split at h
      · simp only [Option.some.injEq, Prod.mk.injEq] at h
        rw [← h.2]
        omega
      · cases h
    · cases h
  · split at h
    · cases h
    · simp only [Option.some.injEq, Prod.mk.injEq] at h
      rw [← h.2]
      exact hlt

/-- The characters up to the closing quote; `done` holds those read so far, the last one first. -/
def chars (done : List Char) (s : List Char) : Result String :=
  match s with
  | [] => .error .ended
  | '\x22' :: s => .ok (String.ofList done.reverse, s)
  | '\x5c' :: 'u' :: s =>
      match h : unit? s with
      | some (c, rest) =>
          have : rest.length < s.length := length_lt_of_unit? h
          chars (c :: done) rest
      | none => .error .badEscape
  | '\x5c' :: l :: s =>
      match letter? l with
      | some c => chars (c :: done) s
      | none => .error .badEscape
  | c :: s =>
      if c = '\x5c' then .error .ended
      else if c.toNat < 0x20 then .error (.control c)
      else chars (c :: done) s
termination_by s.length

/-- Read a string behind its opening quote. -/
def string (s : List Char) : Result String := chars [] s

/-- A number as it is written: its sign, its digits, and the power of ten that scales them, which an
integer lacks. -/
structure Numeral where
  negative : Bool
  digits : List Char
  exponent? : Option Int
deriving DecidableEq, Repr

namespace Numeral

/-- The integer that the digits denote. -/
def integer (n : Numeral) : Int :=
  if n.negative then -(Decimal.valueOf n.digits : Int) else Decimal.valueOf n.digits

/-- The binary number that a numeral denotes, infinite if it is too large. -/
def binary (n : Numeral) : Float :=
  Decimal.ofDecimal n.negative (Decimal.valueOf n.digits) (n.exponent?.getD 0)

/-- The least integer that stays an integer. -/
def leastInt : Int := -Int.pow 2 63

/-- The greatest integer that stays an integer. -/
def greatestInt : Int := Int.pow 2 64 - 1

/-- The value of a numeral. -/
def toJson (n : Numeral) : Except Error Json :=
  if n.exponent? = none && leastInt ≤ n.integer && n.integer ≤ greatestInt then .ok (.int n.integer)
  else if n.binary.isInf then .error .badNumber
  else .ok (.float n.binary)

end Numeral

open Decimal in
/-- Read a number. -/
def number (s : List Char) : Result Numeral :=
  let negative := s.head? = some '-'
  let s := if negative then s.drop 1 else s
  let whole := s.takeWhile isPlainDigit
  let rest := s.dropWhile isPlainDigit
  let fraction := (readFraction rest).1
  let behind := (readFraction rest).2
  if whole = [] then
    match s with
    | [] => .error .ended
    | c :: _ => .error (.unexpected c)
  else if 1 < whole.length && whole.head? = some '0' then .error .badNumber
  else if rest.head? = some '.' && fraction = [] then .error .badNumber
  else
    match behind with
    | 'e' :: t | 'E' :: t =>
        let (down, t) := readSign t
        let power := t.takeWhile isPlainDigit
        if power = [] then .error .badNumber
        else
          let exponent : Int := if down then -(valueOf power : Int) else valueOf power
          .ok (⟨negative, whole ++ fraction, some (exponent - fraction.length)⟩,
            t.dropWhile isPlainDigit)
    | _ =>
        if fraction = [] then .ok (⟨negative, whole, none⟩, rest)
        else .ok (⟨negative, whole ++ fraction, some (-(fraction.length : Int))⟩, behind)

section

variable (denote : Numeral → Except Error Json)

mutual

/-- Read a value.  A container takes one of the `depth` levels that are left.  `fuel` bounds the
number of values and separators. -/
def value (fuel depth : Nat) (s : List Char) : Result Json :=
  match fuel with
  | 0 => .error .ended
  | fuel + 1 =>
    match skip s with
    | [] => .error .ended
    | c :: s =>
        if c = '\x7b' then
          match depth with
          | 0 => .error .depth
          | depth + 1 =>
              match skip s with
              | '\x7d' :: s => .ok (.obj [], s)
              | s => fields fuel depth [] s
        else if c = '[' then
          match depth with
          | 0 => .error .depth
          | depth + 1 =>
              match skip s with
              | ']' :: s => .ok (.arr [], s)
              | s => items fuel depth [] s
        else if c = '\x22' then (string s).map fun (text, s) => (.str text, s)
        else if c = 't' then word (.bool true) ['r', 'u', 'e'] s
        else if c = 'f' then word (.bool false) ['a', 'l', 's', 'e'] s
        else if c = 'n' then word .null ['u', 'l', 'l'] s
        else
          match number (c :: s) with
          | .error e => .error e
          | .ok (numeral, s) => (denote numeral).map fun v => (v, s)

/-- Read the items of an array behind those in `done`, the last of which comes first. -/
def items (fuel depth : Nat) (done : List Json) (s : List Char) : Result Json :=
  match fuel with
  | 0 => .error .ended
  | fuel + 1 =>
    match value fuel depth s with
    | .error e => .error e
    | .ok (v, s) =>
        match skip s with
        | [] => .error .ended
        | ',' :: s => items fuel depth (v :: done) s
        | ']' :: s => .ok (.arr (v :: done).reverse, s)
        | c :: _ => .error (.unexpected c)

/-- Read the fields of an object behind those in `done`. -/
def fields (fuel depth : Nat) (done : Fields) (s : List Char) : Result Json :=
  match fuel with
  | 0 => .error .ended
  | fuel + 1 =>
    match skip s with
    | [] => .error .ended
    | '\x22' :: s =>
        match string s with
        | .error e => .error e
        | .ok (key, s) =>
            match skip s with
            | [] => .error .ended
            | ':' :: s =>
                match value fuel depth s with
                | .error e => .error e
                | .ok (v, s) =>
                    match skip s with
                    | [] => .error .ended
                    | ',' :: s => fields fuel depth (done.put key v) s
                    | '\x7d' :: s => .ok (.obj (done.put key v), s)
                    | c :: _ => .error (.unexpected c)
            | c :: _ => .error (.unexpected c)
    | c :: _ => .error (.unexpected c)

end

/-- The depth to which values may be nested. -/
def deepestRead : Nat := 1024

/-- The value that a text denotes, if `denote` says what a numeral denotes. -/
def parseWith (text : String) : Except Error Json :=
  let s := text.toList
  match value denote (2 * s.length + 2) deepestRead s with
  | .error e => .error e
  | .ok (v, rest) =>
      match skip rest with
      | [] => .ok v
      | c :: _ => .error (.trailing c)

end

/-- The value that a text denotes. -/
def parse (text : String) : Except Error Json := parseWith Numeral.toJson text

/-- The value that bytes denote. -/
def ofBytes (bytes : ByteArray) : Except Error Json :=
  match String.fromUTF8? bytes with
  | none => .error .encoding
  | some text => parse text

end NameTagger.Json
