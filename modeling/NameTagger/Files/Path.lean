import NameTagger.Fault

/-!
# Path names

A path name is a text whose parts are divided by slashes.

* `parts`, `directory`, `fileName`, `join`: a path name and its parts;
* `Environment`, `Environment.expand`: where the home directories are, and path names that begin
  with one.
-/

namespace NameTagger.Path

/-- The parts of a path name; several slashes have empty parts between them. -/
def parts (path : String) : List String := (path.toList.splitOn '/').map String.ofList

/-- A text without slashes at its end. -/
def dropSlashes (s : List Char) : List Char := (s.reverse.dropWhile (· = '/')).reverse

/-- The characters behind the last slash. -/
def lastPart (s : List Char) : List Char := (s.reverse.takeWhile (· ≠ '/')).reverse

/-- The name of the file itself. -/
def fileName (path : String) : String := String.ofList (lastPart path.toList)

/-- The directory of a path name, without slashes at its end unless it is nothing else. -/
def directory (path : String) : String :=
  let s := path.toList
  let head := s.take (s.length - (lastPart s).length)
  String.ofList (if head.all (· = '/') then head else dropSlashes head)

/-- A path name that is looked up inside a directory; one that begins with a slash stands alone. -/
def join (directory path : String) : String :=
  if path.startsWith "/" then path
  else if directory = "" || directory.endsWith "/" then directory ++ path
  else directory ++ "/" ++ path

end NameTagger.Path

namespace NameTagger

/-- What is known about the user and the system. -/
structure Environment where
  /-- The directory for settings, if one was chosen. -/
  configHome : Option String
  /-- The home directory. -/
  home : String
  /-- The home directories of the users by their names. -/
  users : List (String × String)
deriving DecidableEq, Repr

namespace Environment

/-- A path name behind a home directory, whose slashes at its end are dropped. -/
def under (home : String) (rest : List Char) : String :=
  match Path.dropSlashes home.toList ++ rest with
  | [] => "/"
  | expanded => String.ofList expanded

/-- The home directory that a user name behind a tilde means; no name means the user's own.  Users
cannot be asked for by a name with a null character. -/
def homeOf? (env : Environment) (user : List Char) : Except Fault (Option String) :=
  if user = [] then .ok (some env.home)
  else if '\x00' ∈ user then .error ⟨.value, "embedded null byte"⟩
  else .ok (env.users.lookup (String.ofList user))

/-- A path name with a home directory in place of a tilde at its head and of the user name behind
it.  Where there is no such user, it stays as it is. -/
def expand (env : Environment) (path : String) : Except Fault String :=
  match path.toList with
  | '~' :: rest => do
      match ← env.homeOf? (rest.takeWhile (· ≠ '/')) with
      | some home => return under home (rest.dropWhile (· ≠ '/'))
      | none => return path
  | _ => return path

/-- The home directory as a path name. -/
def homeDirectory (env : Environment) : String := under env.home []

end Environment

end NameTagger
