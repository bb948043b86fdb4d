import NameTagger.Text.Case.Spans

/-!
# Letter case

* `isUpper`, `isLower`, `isTitle`: the case of one character;
* `allUpper`, `allLower`: a whole text has letters of that case and none of another;
* `lower`: lower-casing with the two mappings that need more than one character: the dotted
  capital I gives two characters, and a capital sigma at the end of a word gives the final form.
-/

namespace NameTagger.Text

/-- Whether a character is an upper-case letter. -/
def isUpper (c : Char) : Bool := Span.mem upperSpans c.toNat

/-- Whether a character is a lower-case letter. -/
def isLower (c : Char) : Bool := Span.mem lowerSpans c.toNat

/-- Whether a character is a title-case letter, such as a digraph with one capital. -/
def isTitle (c : Char) : Bool := Span.mem titleSpans c.toNat

/-- Whether a character has a case at all. -/
def isCased (c : Char) : Bool := isUpper c || isLower c || isTitle c

/-- Whether a character is passed over when the neighbours of a letter are looked at. -/
def isIgnorable (c : Char) : Bool := Span.mem ignorableSpans c.toNat

/-- Some letter is upper-case, none is lower-case or title-case. -/
def allUpper (s : List Char) : Bool :=
  s.any isUpper && !s.any fun c => isLower c || isTitle c

/-- Some letter is lower-case, none is upper-case or title-case. -/
def allLower (s : List Char) : Bool :=
  s.any isLower && !s.any fun c => isUpper c || isTitle c

/-- The lower-case form of a character outside any word. -/
def lowerChar (c : Char) : List Char :=
  if c.toNat = 0x130 then ['i', Char.ofNat 0x307]
  else
    match lowerShifts.find? fun shift => shift.span.contains c.toNat with
    | some shift => [Char.ofNat (c.toNat + shift.delta).toNat]
    | none => [c]

/-- Whether the first character that counts, reading to the right, has a case. -/
def beginsCased (s : List Char) : Bool :=
  match s.dropWhile isIgnorable with
  | [] => false
  | c :: _ => isCased c

/-- Lower-case a text that stands behind a cased character exactly when `behindCased` holds.
A capital sigma is final behind a cased character and before none. -/
def lowerFrom (behindCased : Bool) : List Char → List Char
  | [] => []
  | c :: s =>
      let form :=
        if c.toNat = 0x3A3 then
          [Char.ofNat (if behindCased && !beginsCased s then 0x3C2 else 0x3C3)]
        else lowerChar c
      form ++ lowerFrom (if isIgnorable c then behindCased else isCased c) s

/-- The lower-case form of a text. -/
def lower (s : List Char) : List Char := lowerFrom false s

@[simp] theorem lower_nil : lower [] = [] := rfl

end NameTagger.Text
