import NameTagger.Corpus.Read
import NameTagger.Files.Basic

/-!
# Corpora in files

* `Error.fault`, `Failure.fault`: why there is no corpus, as a fault;
* `Corpus.decode`: the text of a file;
* `Corpus.load`: the corpus in a file, or the fault that prevents it.
-/

namespace NameTagger.Corpus

/-- An error as a fault. -/
def Error.fault (e : Error) : Fault := ⟨.corpusFormat, e.message⟩

/-- The fault of a character code with so many digits. -/
def overlongCodeFault (digits : Nat) : Fault := ⟨.value, Decimal.unreadText digits⟩

/-- A failure as a fault: a character code that cannot be read is a bad value. -/
def Failure.fault : Failure Error → Fault
  | .malformed error => error.fault
  | .overlongCode digits => overlongCodeFault digits

/-- The text of a file, with its line breaks made equal. -/
def decode (content : ByteArray) : Except Fault String :=
  match String.fromUTF8? content with
  | some text => .ok (String.ofList (Text.unifyBreaks text.toList))
  | none => .error ⟨.encoding, "invalid byte sequence"⟩

/-- The corpus in the content of a file. -/
def ofContent (content : ByteArray) : Except Fault Corpus := do
  let text ← decode content
  match parse text with
  | .ok corpus => .ok corpus
  | .error failure => .error failure.fault

/-- The corpus in a file. -/
def load (files : Files) (path : String) : Except Fault Corpus :=
  if files.contains path then do
    let content ← files.read path
    ofContent content
  else .error ⟨.fileMissing, "Corpus file not found: " ++ path⟩

end NameTagger.Corpus
