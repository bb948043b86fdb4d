import NameTagger.Files.Basic
import NameTagger.Json.Codec
import NameTagger.Settings.Basic

/-!
# Settings in files

A library for JSON reads and writes the files.

* `Settings.save`: write settings to a file, whose directory is made if need be;
* `Settings.load`: the settings in a file, with warnings.  If there is no file, the defaults are
  written there;
* `Settings.choose`: settings that are given as a value, or else those of the user.
-/

namespace NameTagger.Settings

/-- What an attempt to save comes to: a refusal of the operating system counts as a no. -/
def saved (fault : Fault) : Except Fault Bool :=
  if fault.kind.isA .system then .ok false else .error fault

variable (codec : Json.Codec)

/-- Write a value to a file that has a directory.  The file is emptied before the value is turned
into text, which may fail. -/
def overwrite (files : Files) (path : String) (value : Json) : Files × Except Fault Bool :=
  match files.write path .empty with
  | .error fault => (files, saved fault)
  | .ok files =>
      match codec.write .indented value with
      | .error message => (files, .error (Json.refusalFault message))
      | .ok text =>
          match files.write path text.toUTF8 with
          | .error fault => (files, saved fault)
          | .ok files => (files, .ok true)

/-- The directory in which a file is saved. -/
def directoryFor (path : String) : String :=
  if Path.directory path = "" then "." else Path.directory path

/-- Write a value to a file, and whether the operating system let it happen. -/
def save (files : Files) (path : String) (value : Json) : Files × Except Fault Bool :=
  match files.makeDirectories (directoryFor path) with
  | (files, .error fault) => (files, saved fault)
  | (files, .ok ()) => overwrite codec files path value

/-- Settings with the warnings about them. -/
structure Loaded where
  settings : Settings
  warnings : String

/-- The settings that the content of a file gives.  Malformed content counts for nothing. -/
def ofContent (env : Environment) (path : String) (content : ByteArray) : Except Fault Loaded :=
  match codec.read content with
  | .error message => .ok ⟨defaults, "Malformed config.json at " ++ path ++ ": " ++ message⟩
  | .ok (.obj settings) =>
      (complete env.userFile settings).map fun (settings, warnings) =>
        ⟨settings, String.intercalate "\n" warnings⟩
  | .ok _ =>
      .ok ⟨defaults, path ++ " does not contain a JSON object. Using the default configuration"⟩

/-- The settings in a file. -/
def load (env : Environment) (files : Files) (path : String) : Files × Except Fault Loaded :=
  if files.contains path then
    match files.read path with
    | .error fault => (files, .error fault)
    | .ok content => (files, ofContent codec env path content)
  else
    let warning :=
      "config.json is not found at " ++ path ++ " . Writing the default configuration .."
    match save codec files path (.obj defaults) with
    | (files, .error fault) => (files, .error fault)
    | (files, .ok _) => (files, .ok ⟨defaults, warning⟩)

/-- The settings of the user. -/
def loadUser (env : Environment) (files : Files) : Files × Except Fault Loaded :=
  load codec env files env.userFile

/-- The settings that a value gives; null gives none. -/
def given : Json → Except Fault (Option Settings)
  | .null => .ok none
  | .obj settings => .ok (some settings)
  | _ => .error ⟨.missingMember, "object has no attribute 'get'"⟩

/-- The settings that a value gives, as they are, or else those of the user. -/
def choose (env : Environment) (files : Files) (value : Json) : Files × Except Fault Settings :=
  match given value with
  | .error fault => (files, .error fault)
  | .ok (some settings) => (files, .ok settings)
  | .ok none =>
      let (files, loaded) := loadUser codec env files
      (files, loaded.map (·.settings))

end NameTagger.Settings
