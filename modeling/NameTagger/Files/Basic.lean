import NameTagger.Fault
import NameTagger.Files.Path

/-!
# Files

A tree of files and directories with a working directory, and what the operating system does with
it.  Some of them may be kept from the user.

* `Place`, `Node`, `Guard`, `Files`: where something is, what it is, how it is kept from the user,
  and the whole;
* `Refusal`, `Refusal.fault`: why an operation is refused;
* `locate`: the place of a path name;
* `contains`, `read`, `size`, `regularFiles`: looking;
* `write`, `createNew`, `remove`, `makeDirectories`: changing.
-/

namespace NameTagger

/-- The contents of files are compared as they are by default. -/
instance contentDecidableEq : DecidableEq ByteArray := ByteArray.instDecidableEq

/-- The names on the way from the root to a place. -/
abbrev Place := List String

/-- What is at a place. -/
inductive Node where
  | file (content : ByteArray)
  | directory
deriving DecidableEq

/-- How a file or directory is kept from the user. -/
inductive Guard where
  /-- It cannot be changed: a file cannot be written, and a directory keeps what it holds. -/
  | readOnly
  /-- It cannot be looked into either: no file can be read, and nothing in a directory reached. -/
  | closed
deriving DecidableEq, Repr

/-- Files and directories.  The working directory and those above it are always there.  What has no
guard is free to the user, and so is all that the user makes. -/
structure Files where
  workingDirectory : Place
  nodes : List (Place × Node)
  guards : List (Place × Guard)

namespace Files

/-- Why an operation is refused. -/
inductive Refusal where
  | missing
  | notDirectory
  | isDirectory
  | exists_
  | nameTooLong
  | denied
  /-- A path name must not hold the null character. -/
  | nullCharacter
deriving DecidableEq, Repr

/-- The refusal of an operation on a path name. -/
def Refusal.fault (path : String) : Refusal → Fault
  | .missing => ⟨.fileMissing, "[Errno 2] No such file or directory: " ++ Text.quoted path⟩
  | .notDirectory => ⟨.notDirectory, "[Errno 20] Not a directory: " ++ Text.quoted path⟩
  | .isDirectory => ⟨.isDirectory, "[Errno 21] Is a directory: " ++ Text.quoted path⟩
  | .exists_ => ⟨.fileExists, "[Errno 17] File exists: " ++ Text.quoted path⟩
  | .nameTooLong => ⟨.system, "[Errno 36] File name too long: " ++ Text.quoted path⟩
  | .denied => ⟨.permission, "[Errno 13] Permission denied: " ++ Text.quoted path⟩
  | .nullCharacter => ⟨.value, "embedded null byte"⟩

/-- No files below a working directory. -/
def empty (workingDirectory : Place) : Files := ⟨workingDirectory, [], []⟩

/-- What is at a place. -/
def node? (files : Files) (place : Place) : Option Node :=
  if place.isPrefixOf files.workingDirectory then some .directory else files.nodes.lookup place

/-- How what is at a place is kept from the user. -/
def guard? (files : Files) (place : Place) : Option Guard := files.guards.lookup place

/-- Whether what is at a place cannot be changed. -/
def isGuarded (files : Files) (place : Place) : Bool := (files.guard? place).isSome

/-- Whether what is at a place cannot be looked into. -/
def isClosed (files : Files) (place : Place) : Bool := files.guard? place = some .closed

/-- Keep what is at a place from the user. -/
def protect (files : Files) (place : Place) (guard : Guard) : Files :=
  { files with guards := (place, guard) :: files.guards.filter fun entry => entry.1 ≠ place }

/-- Put something at a place, which is free to the user. -/
def put (files : Files) (place : Place) (node : Node) : Files :=
  { files with
    nodes := (place, node) :: files.nodes.filter fun entry => entry.1 ≠ place
    guards := files.guards.filter fun entry => entry.1 ≠ place }

/-- Take away what is at a place. -/
def erase (files : Files) (place : Place) : Files :=
  { files with
    nodes := files.nodes.filter fun entry => entry.1 ≠ place
    guards := files.guards.filter fun entry => entry.1 ≠ place }

@[simp] theorem lookup_filter_self {α : Type} (place : Place) (entries : List (Place × α)) :
    (entries.filter fun entry => entry.1 ≠ place).lookup place = none := by
  induction entries with
  | nil => rfl
  | cons entry rest ih =>
    obtain ⟨p, n⟩ := entry
    by_cases h : p = place
    · simpa [h] using ih
    · simpa [h, List.lookup_cons, beq_eq_false_iff_ne.2 (Ne.symm h)] using ih

theorem lookup_filter_of_ne {α : Type} {place other : Place} (h : other ≠ place)
    (entries : List (Place × α)) :
    (entries.filter fun entry => entry.1 ≠ place).lookup other = entries.lookup other := by
  induction entries with
  | nil => rfl
  | cons entry rest ih =>
    obtain ⟨p, n⟩ := entry
    by_cases hp : p = place
    · subst hp
      simpa [List.lookup_cons, beq_eq_false_iff_ne.2 h] using ih
    · simp only [ne_eq, hp, not_false_eq_true, decide_true, List.filter_cons_of_pos]
      rw [List.lookup_cons, List.lookup_cons]
      split
      · rfl
      · simpa using ih

theorem node?_put_of_ne {files : Files} {place other : Place} (h : other ≠ place) (node : Node) :
    (files.put place node).node? other = files.node? other := by
  simp only [node?, put]
  rw [List.lookup_cons, beq_eq_false_iff_ne.2 h]
  simp only [lookup_filter_of_ne h]

theorem node?_erase_of_ne {files : Files} {place other : Place} (h : other ≠ place) :
    (files.erase place).node? other = files.node? other := by
  simp only [node?, erase, lookup_filter_of_ne h]

@[simp] theorem guard?_put_self (files : Files) (place : Place) (node : Node) :
    (files.put place node).guard? place = none := lookup_filter_self place files.guards

theorem guard?_put_of_ne {files : Files} {place other : Place} (h : other ≠ place) (node : Node) :
    (files.put place node).guard? other = files.guard? other := lookup_filter_of_ne h files.guards

theorem guard?_erase_of_ne {files : Files} {place other : Place} (h : other ≠ place) :
    (files.erase place).guard? other = files.guard? other := lookup_filter_of_ne h files.guards

/-! ### Path names -/

/-- The most bytes of one name. -/
def longestName : Nat := 255

/-- The most bytes of a path name. -/
def longestPath : Nat := 4095

/-- One part of a path name further on. -/
def advance (here : Place) (part : String) : Place :=
  if part = "" || part = "." then here else if part = ".." then here.dropLast else here ++ [part]

/-- Whether the way to a part of a path name is barred; an empty part asks for nothing. -/
def isBarred (files : Files) (here : Place) (part : String) : Bool :=
  part ≠ "" && files.isClosed here

/-- The place that parts of a path name lead to; there must be a directory before each part. -/
def walk (files : Files) (here : Place) : List String → Except Refusal Place
  | [] => .ok here
  | part :: rest =>
      match files.node? here with
      | none => .error .missing
      | some (.file _) => .error .notDirectory
      | some .directory =>
          if files.isBarred here part then .error .denied
          else if longestName < part.utf8ByteSize then .error .nameTooLong
          else files.walk (advance here part) rest

/-- The place at which a path name begins. -/
def origin (files : Files) (path : String) : Place :=
  if path.startsWith "/" then [] else files.workingDirectory

/-- The place of a path name, whether anything is there or not. -/
def locate (files : Files) (path : String) : Except Refusal Place :=
  if path.contains '\x00' then .error .nullCharacter
  else if path = "" then .error .missing
  else if longestPath < path.utf8ByteSize then .error .nameTooLong
  else files.walk (files.origin path) (Path.parts path)

/-- What a path name leads to. -/
def find (files : Files) (path : String) : Except Refusal Node := do
  let place ← files.locate path
  match files.node? place with
  | some node => .ok node
  | none => .error .missing

/-! ### Looking -/

/-- Whether a path name leads to something. -/
def contains (files : Files) (path : String) : Bool := (files.find path).toBool

/-- What a path name leads to, if it may be looked into. -/
def look (files : Files) (path : String) : Except Refusal Node := do
  let place ← files.locate path
  match files.node? place with
  | some node => if files.isClosed place then .error .denied else .ok node
  | none => .error .missing

/-- The content of a file. -/
def read (files : Files) (path : String) : Except Fault ByteArray :=
  match files.look path with
  | .ok (.file content) => .ok content
  | .ok .directory => .error (Refusal.isDirectory.fault path)
  | .error refusal => .error (refusal.fault path)

/-- The size of a directory, which takes up one block. -/
def directorySize : Nat := 4096

/-- The size of a file or directory. -/
def size (files : Files) (path : String) : Except Fault Nat :=
  match files.find path with
  | .ok (.file content) => .ok content.size
  | .ok .directory => .ok directorySize
  | .error refusal => .error (refusal.fault path)

/-- The names from the working directory on to a place below it. -/
def relative? (files : Files) (place : Place) : Option String :=
  if files.workingDirectory.isPrefixOf place then
    some (String.intercalate "/" (place.drop files.workingDirectory.length))
  else none

/-- The path names of the files below the working directory, in alphabetical order. -/
def regularFiles (files : Files) : List String :=
  (files.nodes.filterMap fun (place, node) =>
    match node with
    | .file _ => files.relative? place
    | .directory => none).mergeSort fun a b => a ≤ b

/-! ### Changing -/

/-- The place at which a file with a path name may be made.  A slash at the end asks for a
directory. -/
def creation (files : Files) (path : String) : Except Refusal Place := do
  let place ← files.locate (String.ofList (Path.dropSlashes path.toList))
  if path.endsWith "/" then .error .isDirectory else .ok place

/-- The place of what changes when something is put at a place: it was there before, or the
directory gets it. -/
def changed (files : Files) (place : Place) : Place :=
  if (files.node? place).isSome then place else place.dropLast

/-- Write a file, which is made if there is none. -/
def write (files : Files) (path : String) (content : ByteArray) : Except Fault Files :=
  match files.creation path with
  | .error refusal => .error (refusal.fault path)
  | .ok place =>
      if files.node? place = some .directory then .error (Refusal.isDirectory.fault path)
      else if files.isGuarded (files.changed place) then .error (Refusal.denied.fault path)
      else .ok (files.put place (.file content))

/-- Make a file where nothing is. -/
def createNew (files : Files) (path : String) (content : ByteArray) : Except Fault Files :=
  match files.creation path with
  | .error refusal => .error (refusal.fault path)
  | .ok place =>
      if (files.node? place).isSome then .error (Refusal.exists_.fault path)
      else if files.isGuarded place.dropLast then .error (Refusal.denied.fault path)
      else .ok (files.put place (.file content))

/-- Take away a file. -/
def remove (files : Files) (path : String) : Except Fault Files :=
  match files.locate path with
  | .error refusal => .error (refusal.fault path)
  | .ok place =>
      if (files.node? place).isNone then .error (Refusal.missing.fault path)
      else if files.isGuarded place.dropLast then .error (Refusal.denied.fault path)
      else if files.node? place = some .directory then .error (Refusal.isDirectory.fault path)
      else .ok (files.erase place)

/-- Why nothing in a directory can be reached by a part of a path name. -/
def partRefusal? (files : Files) (here : Place) (part : String) : Option Refusal :=
  if part.contains '\x00' then some .nullCharacter
  else if files.isBarred here part then some .denied
  else if longestName < part.utf8ByteSize then some .nameTooLong
  else none

/-- Why there is nothing in a file, for the parts of a path name behind it.  The first that is not
empty counts. -/
def insideFile (parts : List String) : Refusal :=
  match parts.find? (· ≠ "") with
  | some part => if part.contains '\x00' then .nullCharacter else .notDirectory
  | none => .notDirectory

/-- Make a directory at a place if nothing is there.  What is refused at a file depends on the parts
of a path name behind it. -/
def makeAt (files : Files) (here : Place) (parts : List String) : Except Refusal Files :=
  match files.node? here with
  | some .directory => .ok files
  | some (.file _) => .error (if parts = [] then .exists_ else insideFile parts)
  | none =>
      if files.isGuarded here.dropLast then .error .denied else .ok (files.put here .directory)

/-- Make the directories on the way that parts of a path name describe.  Those that were made before
a refusal stay. -/
def makeFrom (files : Files) (here : Place) : List String → Files × Except Refusal Unit
  | [] =>
      match files.makeAt here [] with
      | .error refusal => (files, .error refusal)
      | .ok made => (made, .ok ())
  | part :: rest =>
      match files.makeAt here (part :: rest) with
      | .error refusal => (files, .error refusal)
      | .ok made =>
          match made.partRefusal? here part with
          | some refusal => (made, .error refusal)
          | none => made.makeFrom (advance here part) rest

/-- Make a directory and those above it, as far as they are missing. -/
def makeDirectories (files : Files) (path : String) : Files × Except Fault Unit :=
  if path = "" then (files, .error (Refusal.missing.fault path))
  else
    match files.makeFrom (files.origin path) (Path.parts path) with
    | (files, .ok ()) => (files, .ok ())
    | (files, .error refusal) => (files, .error (refusal.fault path))

end Files

end NameTagger
