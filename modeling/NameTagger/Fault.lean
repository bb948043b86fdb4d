import NameTagger.Text.Quoted

/-!
# Kinds of failure

Failures fall into kinds, and a kind may be a special case of another one.  The library's own
failures are the special cases of `FaultKind.naming`; the others come from what it works with.

* `FaultKind`, `FaultKind.parent?`, `FaultKind.isA`: the kinds and their hierarchy;
* `FaultKind.family`: a kind of the library with the more general ones;
* `Fault`: a failure that a collaborator raised, with its message;
* `mapError_eq_ok_iff`: failures that are told in other words.
-/

namespace NameTagger

/-- The kinds of failure. -/
inductive FaultKind where
  /-- Any failure of the library itself. -/
  | naming
  | input
  | emptyInput
  | corpusFormat
  | model
  | modelNotFound
  | modelLoadFailed
  | modelNotLoaded
  | prediction
  | resource
  | outOfMemory
  /-- A value that is not acceptable. -/
  | value
  | encoding
  | malformedJson
  /-- An operation that is not possible now. -/
  | runtime
  /-- A refusal of the operating system. -/
  | system
  | fileMissing
  | fileExists
  | isDirectory
  | notDirectory
  | permission
  | memory
  | missingKey
  | indexRange
  | missingMember
  | frozenMember
  | wrongType
  | overflow
deriving DecidableEq, Repr

namespace FaultKind

/-- The next more general kind. -/
def parent? : FaultKind → Option FaultKind
  | .input | .model | .prediction | .resource => some .naming
  | .emptyInput | .corpusFormat => some .input
  | .modelNotFound | .modelLoadFailed | .modelNotLoaded => some .model
  | .outOfMemory => some .resource
  | .encoding | .malformedJson => some .value
  | .fileMissing | .fileExists | .isDirectory | .notDirectory | .permission => some .system
  | .frozenMember => some .missingMember
  | _ => none

/-- The longest way from a kind to the most general one. -/
def height : Nat := 3

/-- A kind and the more general ones, up to `n` steps above it. -/
def upTo (k : FaultKind) : Nat → List FaultKind
  | 0 => []
  | n + 1 => k :: (k.parent?.map (upTo · n)).getD []

/-- A kind and all the more general ones. -/
def line (k : FaultKind) : List FaultKind := k.upTo height

/-- Whether a kind is another one or a special case of it. -/
def isA (k general : FaultKind) : Bool := k.line.contains general

/-- The name of a kind, as messages show it. -/
def name : FaultKind → String
  | .naming => "NameParserError"
  | .input => "InputError"
  | .emptyInput => "EmptyInput"
  | .corpusFormat => "CorpusFormatError"
  | .model => "ModelError"
  | .modelNotFound => "ModelNotFound"
  | .modelLoadFailed => "ModelLoadFailed"
  | .modelNotLoaded => "ModelNotLoaded"
  | .prediction => "PredictionError"
  | .resource => "ResourceError"
  | .outOfMemory => "OutOfMemory"
  | .value => "ValueError"
  | .encoding => "UnicodeDecodeError"
  | .malformedJson => "JSONDecodeError"
  | .runtime => "RuntimeError"
  | .system => "OSError"
  | .fileMissing => "FileNotFoundError"
  | .fileExists => "FileExistsError"
  | .isDirectory => "IsADirectoryError"
  | .notDirectory => "NotADirectoryError"
  | .permission => "PermissionError"
  | .memory => "MemoryError"
  | .missingKey => "KeyError"
  | .indexRange => "IndexError"
  | .missingMember => "AttributeError"
  | .frozenMember => "FrozenInstanceError"
  | .wrongType => "TypeError"
  | .overflow => "OverflowError"

/-- All kinds. -/
def all : List FaultKind :=
  [.naming, .input, .emptyInput, .corpusFormat, .model, .modelNotFound, .modelLoadFailed,
    .modelNotLoaded, .prediction, .resource, .outOfMemory, .value, .encoding, .malformedJson,
    .runtime, .system, .fileMissing, .fileExists, .isDirectory, .notDirectory, .permission,
    .memory, .missingKey, .indexRange, .missingMember, .frozenMember, .wrongType, .overflow]

/-- The kind with a name. -/
def ofName? (name : String) : Option FaultKind := all.find? fun k => k.name = name

/-- The names of the library's kinds that a kind belongs to, in alphabetical order. -/
def family (k : FaultKind) : List String :=
  ((k.line.filter (·.isA .naming)).map name).mergeSort fun a b => a ≤ b

end FaultKind

/-- A failure that a collaborator raised. -/
structure Fault where
  kind : FaultKind
  message : String
deriving DecidableEq, Repr

/-- The message of a fault as other messages quote it; a missing key shows in quotes. -/
def Fault.shown (fault : Fault) : String :=
  if fault.kind = .missingKey then Text.quoted fault.message else fault.message

/-- What is not a failure does not depend on how failures are told. -/
theorem mapError_eq_ok_iff {ε ε' α : Type} {f : ε → ε'} {outcome : Except ε α} {a : α} :
    outcome.mapError f = .ok a ↔ outcome = .ok a := by
  cases outcome with
  | error e => exact iff_of_false (fun h => nomatch h) fun h => nomatch h
  | ok b => exact ⟨fun h => congrArg _ (Except.ok.inj h), fun h => congrArg _ (Except.ok.inj h)⟩

end NameTagger
