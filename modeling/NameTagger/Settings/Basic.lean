import NameTagger.Decimal.Read
import NameTagger.Feature.Group
import NameTagger.Files.Path
import NameTagger.Json.Value

/-!
# Settings

The settings are the fields of a JSON object.  A missing field, or one whose value has another shape
than the default, is replaced by the default; other fields stay as they are.

* `Settings`, `Settings.defaults`;
* `packageName`, `userDirectory`, `userFile`: where the settings of a user are;
* `binaryOf`: the binary number that an integer stands for;
* `completed`: the settings with the defaults filled in, and the warnings; `complete`: the same, or
  the fault of an integer that is too large.
-/

namespace NameTagger

/-- The fields of the settings in order. -/
abbrev Settings := Json.Fields

/-- The name under which settings are kept. -/
def packageName : String := "crfname-ner"

namespace Environment

/-- The directory of the user's settings. -/
def userDirectory (env : Environment) : String :=
  match env.configHome with
  | none | some "" => Path.join (Path.join env.homeDirectory ".config") packageName
  | some directory => Path.join directory packageName

/-- The file of the user's settings. -/
def userFile (env : Environment) : String := Path.join env.userDirectory "config.json"

end Environment

namespace Settings

/-- The settings where nothing else is chosen. -/
def defaults : Settings :=
  [("models", .obj []),
    ("default_model", .str "generic"),
    ("cache_enabled", .bool false),
    ("training", .obj [
      ("c2", .float 1.0),
      ("max_iterations", .int 100),
      ("epsilon", .float 0.0001)]),
    ("feature_groups", .arr (Feature.Group.names.map .str))]

/-- The warning about a missing key. -/
def missingWarning (file key : String) : String :=
  "The key \x22" ++ key ++ "\x22 was not found in " ++ file ++ " . Using the default value"

/-- The warning about a value of a wrong shape. -/
def shapeWarning (file key : String) : String :=
  "Type mismatch found for the key \x22" ++ key ++ "\x22 in " ++ file ++
    " . Replacing it with the default value"

/-- The fault for an integer that is too large for a binary number. -/
def largeFault : Fault := ⟨.overflow, "int too large to convert to float"⟩

/-- The binary number that an integer stands for. -/
def binaryOf (n : Int) : Except Fault Float :=
  if (Decimal.ofInteger n).isInf then .error largeFault else .ok (Decimal.ofInteger n)

mutual

/-- Whether an integer that would stand for a binary number is too large for one. -/
def exceedsValue (default : Json) (value? : Option Json) : Bool :=
  match default, value? with
  | .float _, some (.int n) => (Decimal.ofInteger n).isInf
  | .obj (field :: rest), some (.obj fields) => exceedsFields (field :: rest) fields
  | _, _ => false

/-- Whether settings hold such an integer under one of several keys. -/
def exceedsFields : List (String × Json) → Settings → Bool
  | [], _ => false
  | (key, default) :: rest, settings =>
      exceedsValue default (Json.Fields.get? settings key) || exceedsFields rest settings

end

mutual

/-- The value of a key whose default is given, and the warnings.  An integer may stand for a binary
number; the fields of an object are filled in in turn. -/
def completedValue (file key : String) (default : Json) (value? : Option Json) :
    Json × List String :=
  match default, value? with
  | default, none => (default, [missingWarning file key])
  | .float _, some (.int n) => (.float (Decimal.ofInteger n), [])
  | .obj (field :: rest), some (.obj fields) =>
      let (fields, warnings) := completedFields file (key ++ ".") (field :: rest) fields
      (.obj fields, warnings)
  | default, some value =>
      if value.shape = default.shape then (value, []) else (default, [shapeWarning file key])

/-- Settings with several defaults filled in, and the warnings; `above` stands before each key. -/
def completedFields (file above : String) :
    List (String × Json) → Settings → Settings × List String
  | [], settings => (settings, [])
  | (key, default) :: rest, settings =>
      let (value, warnings) :=
        completedValue file (above ++ key) default (Json.Fields.get? settings key)
      let (settings, more) := completedFields file above rest (Json.Fields.put key value settings)
      (settings, warnings ++ more)

end

/-- Settings with the defaults filled in, and the warnings, which name a file. -/
def completed (file : String) (settings : Settings) : Settings × List String :=
  completedFields file "" defaults settings

/-- The same, unless an integer is too large for the binary number that it stands for. -/
def complete (file : String) (settings : Settings) : Except Fault (Settings × List String) :=
  if exceedsFields defaults settings then .error largeFault else .ok (completed file settings)

end Settings

end NameTagger
