import NameTagger.Command.Train
import NameTagger.Json.Standard

/-!
# The training command on real files

The files that a command line can touch are read beforehand, the command is carried out on them, and
the settings of the user are written back if it made them.  No training library is at hand here.
-/

namespace NameTagger.Main

/-- Files with one more, or with a closed one where there is no content to be had. -/
def withFile (files : Files) (path : String) (content? : Option ByteArray) : Files :=
  let files := (files.makeDirectories (Settings.directoryFor path)).1
  match files.write path (content?.getD .empty), files.locate path with
  | .ok files, .ok place => if content?.isNone then files.protect place .closed else files
  | _, _ => files

/-- Files with the content of a real file or directory added. -/
def snapshot (files : Files) (path : String) : IO Files := do
  let place := (← IO.currentDir) / path
  if path = "" then return files
  else if ← place.isDir then return (files.makeDirectories path).1
  else if ← place.pathExists then
    try return withFile files path (some (← IO.FS.readBinFile place))
    catch _ => return withFile files path none
  else return files

/-- Write a file back if its content is another one than before. -/
def writeBack (before after : Files) (path : String) : IO Unit := do
  match after.read path with
  | .error _ => return
  | .ok content =>
      if (before.read path).toOption ≠ some content then
        IO.FS.createDirAll (Settings.directoryFor path)
        IO.FS.writeBinFile path content

/-- Print lines, some of them as errors. -/
def print (output : Command.Output) : IO Unit := do
  for line in output.lines do IO.println line
  for line in output.errors do IO.eprintln line

/-- Print a fault that ends the program. -/
def printFault (fault : Fault) : IO UInt32 := do
  IO.eprintln (fault.kind.name ++ ": " ++ fault.shown)
  return 1

/-- Print how to write a command line; asking for it is no mistake. -/
def printUsage (stop : Command.Stop) : IO UInt32 := do
  if stop = .help then
    print ⟨Command.usage, []⟩
    return 0
  else
    print ⟨[], Command.usage⟩
    return 2

/-- The files that a command line can touch. -/
def filesFor (env : Environment) (words : List String) : IO Files := do
  let files ← snapshot (.empty []) env.userFile
  match (Settings.loadUser .standard env files).2 with
  | .error _ => return files
  | .ok loaded => (Command.inputPaths loaded.settings words).foldlM snapshot files

/-- Carry out a training command.  Without a trainer no lock is taken, so that the number of the
process does not matter. -/
def run (env : Environment) (words : List String) : IO UInt32 := do
  let files ← filesFor env words
  match Command.perform .standard env words none 0 files with
  | .failed fault _ => printFault fault
  | .stopped stop after =>
      writeBack files after env.userFile
      printUsage stop
  | .ran outcome =>
      writeBack files outcome.files env.userFile
      print outcome.output
      match outcome.status with
      | .ok status => return status.toUInt32
      | .error fault => printFault fault

end NameTagger.Main

/-- The training command with the environment of the process.  It asks for no other user. -/
def main (words : List String) : IO UInt32 := do
  let home := (← IO.getEnv "HOME").getD ""
  NameTagger.Main.run ⟨← IO.getEnv "XDG_CONFIG_HOME", home, []⟩ words
