import NameTagger.Decimal.Read
import NameTagger.Text.Digit

/-!
# The words of a command line

A word of a command line is an option, a value or the mark behind which all words are values.

* `Flag`: the options; `Flag.letter?`, `Flag.long`, `Flag.takesValue`;
* `Stop`: why a command line is not carried out;
* `separatorText`: the mark;
* `Word`, `Word.read`: a word, and what it is;
* `readWords`: the words of a command line.
-/

namespace NameTagger.Command

/-- The options. -/
inductive Flag where
  | help
  | output
  | type
  | person
  | company
  | c2
  | maxIterations
  | epsilon
  | verbose
deriving DecidableEq, Repr

namespace Flag

/-- All options. -/
def all : List Flag :=
  [.help, .output, .type, .person, .company, .c2, .maxIterations, .epsilon, .verbose]

/-- The long name of an option, behind two dashes. -/
def long : Flag → List Char
  | .help => "help".toList
  | .output => "output".toList
  | .type => "type".toList
  | .person => "person".toList
  | .company => "company".toList
  | .c2 => "c2".toList
  | .maxIterations => "max-iter".toList
  | .epsilon => "epsilon".toList
  | .verbose => "verbose".toList

/-- The letter of an option, behind one dash. -/
def letter? : Flag → Option Char
  | .help => some 'h'
  | .output => some 'o'
  | .type => some 't'
  | .person => some 'p'
  | .company => some 'c'
  | .verbose => some 'v'
  | _ => none

/-- The option with a letter. -/
def ofLetter? (c : Char) : Option Flag := all.find? fun flag => flag.letter? = some c

/-- The option with a long name. -/
def ofLong? (name : List Char) : Option Flag := all.find? fun flag => flag.long = name

/-- The options whose long name begins in a given way. -/
def candidates (start : List Char) : List Flag := all.filter fun flag => start.isPrefixOf flag.long

/-- Whether a value belongs to an option. -/
def takesValue : Flag → Bool
  | .help | .verbose => false
  | _ => true

end Flag

/-- Why a command line is not carried out. -/
inductive Stop where
  /-- Help was asked for. -/
  | help
  | usage
deriving DecidableEq, Repr

/-- The mark behind which all words are values. -/
def separatorText : String := "--"

/-- A word of a command line. -/
inductive Word where
  | value (text : String)
  | separator
  /-- An option with its long name, and the value behind an equals sign. -/
  | long (flag : Flag) (attached? : Option String)
  /-- An option with its letter, and what is attached to the letter; an equals sign between them is
  left out. -/
  | short (flag : Flag) (attached? : Option (List Char))
  /-- What looks like an option, but is none. -/
  | strange (text : String)
deriving DecidableEq, Repr

namespace Word

/-- The name before the first equals sign, and the value behind it, if there is one. -/
def splitEquals (s : List Char) : List Char × Option (List Char) :=
  match s.dropWhile (· ≠ '=') with
  | [] => (s, none)
  | _ :: behind => (s.takeWhile (· ≠ '='), some behind)

/-- Whether a character is a decimal digit. -/
def isDecimal (c : Char) : Bool := (Text.decimalValue? c).isSome

/-- A number without a line break that may stand behind it. -/
def dropBreak (s : List Char) : List Char := if s.getLast? = some '\n' then s.dropLast else s

/-- Whether a text that follows a dash makes a negative number of it: digits, or a point with digits
behind it. -/
def isNumber (s : List Char) : Bool :=
  let s := dropBreak s
  match s.dropWhile isDecimal with
  | [] => !s.isEmpty
  | '.' :: fraction => !fraction.isEmpty && fraction.all isDecimal
  | _ => false

/-- What a word is that begins with a dash and names no option. -/
def other (text : String) (behindDash : List Char) : Word :=
  if isNumber behindDash || text.contains ' ' then .value text else .strange text

/-- A word that begins with two dashes.  A long name may be cut short as long as it stays the only
one that begins so. -/
def readLong (text : String) (behind : List Char) : Except Stop Word :=
  match Flag.ofLong? behind with
  | some flag => .ok (.long flag none)
  | none =>
      let (name, attached?) := splitEquals behind
      match Flag.ofLong? name, Flag.candidates name with
      | some flag, _ | none, [flag] => .ok (.long flag (attached?.map String.ofList))
      | none, [] => .ok (other text ('-' :: behind))
      | none, _ => .error .usage

/-- What the characters behind a letter attach to it. -/
def attached? : List Char → Option (List Char)
  | [] => none
  | '=' :: text => some text
  | text => some text

/-- A word that begins with one dash and a letter. -/
def readShort (text : String) (letter : Char) (behind : List Char) : Word :=
  match Flag.ofLetter? letter with
  | some flag => .short flag (attached? behind)
  | none => other text (letter :: behind)

/-- What a word before the separator is. -/
def read (text : String) : Except Stop Word :=
  if text = separatorText then .ok .separator
  else
    match text.toList with
    | '-' :: '-' :: behind => readLong text behind
    | '-' :: letter :: behind => .ok (readShort text letter behind)
    | _ => .ok (.value text)

end Word

/-- The words of a command line.  Behind the separator all words are values. -/
def readWords : List String → Except Stop (List Word)
  | [] => .ok []
  | text :: rest => do
      let word ← Word.read text
      if word = .separator then return .separator :: rest.map .value
      else return word :: (← readWords rest)

end NameTagger.Command
