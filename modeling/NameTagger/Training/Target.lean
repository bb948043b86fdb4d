import NameTagger.Fault

/-!
# Targets of training

The place where a model is to be written.  A command line can take it away; a run then goes on until
the model file itself is looked for.

* `Target`: the place, which may be void;
* `Target.shown`, `Target.lockPath`: its text, and the lock file beside it;
* `Target.file`: the path name of the model file.
-/

namespace NameTagger.Training

/-- What is shown for a value that was taken away. -/
def voidText : String := "[]"

/-- The fault where a value is needed that was taken away. -/
def voidFault : Fault := ⟨.wrongType, "the value of an option was taken away"⟩

/-- The place where a model is to be written. -/
inductive Target where
  | path (name : String)
  /-- The place was taken away. -/
  | void
deriving DecidableEq, Repr

namespace Target

/-- A place as it is shown. -/
def shown : Target → String
  | .path name => name
  | .void => voidText

/-- The lock file of a model file; a void place has one as well. -/
def lockPath (target : Target) : String := target.shown ++ ".lock"

/-- The path name of the model file, if there is one. -/
def file : Target → Except Fault String
  | .path name => .ok name
  | .void => .error voidFault

end Target

end NameTagger.Training
