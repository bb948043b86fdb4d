import NameTagger.Fault
import NameTagger.Json.Value

/-!
# Libraries for JSON

Settings and parsed names are read and written by a library, which may be any.

* `Json.Style`: how a text is laid out;
* `Json.Codec`: a library;
* `Json.refusalFault`: the fault for a value that the library does not write.
-/

namespace NameTagger.Json

/-- How the text of a value is laid out. -/
inductive Style where
  /-- Without blanks. -/
  | compact
  /-- One field or item a line, two spaces for a level. -/
  | indented
deriving DecidableEq, Repr

/-- A library that reads and writes JSON.  What it does not accept it refuses with a message. -/
structure Codec where
  /-- The value that bytes denote. -/
  read : ByteArray → Except String Json
  /-- The text of a value. -/
  write : Style → Json → Except String String

/-- The fault for a value that is not written. -/
def refusalFault (message : String) : Fault := ⟨.wrongType, message⟩

end NameTagger.Json
