import NameTagger.Command.Options
import NameTagger.Corpus.Load
import NameTagger.Settings.Store
import NameTagger.Training.Run

/-!
# The training command

* `Output`, `Outcome`: what a command prints, its exit status, and what it did to the files;
* `Objection`: why numbers or paths are not accepted;
* `train`: train the model that options ask for;
* `perform`: the whole command, with the settings of the user;
* `inputPaths`: the corpora that a command line names; `usage`: how to write one.
-/

namespace NameTagger.Command

open Training

/-- The lines on the two outputs. -/
structure Output where
  lines : List String
  errors : List String
deriving DecidableEq, Repr

/-- What a command comes to. -/
structure Outcome where
  output : Output
  /-- What the trainer was given, if it was called. -/
  start? : Option Start
  files : Files
  /-- The exit status, or the fault that ends the program. -/
  status : Except Fault Nat

/-- The outcome with lines before its own. -/
def Outcome.after (lines : List String) (outcome : Outcome) : Outcome :=
  { outcome with output := { outcome.output with lines := lines ++ outcome.output.lines } }

/-- The outcome of a command that cannot be carried out. -/
def Outcome.refused (files : Files) (message : String) : Outcome :=
  ⟨⟨[], ["Error: " ++ message]⟩, none, files, .ok 1⟩

/-- The outcome of a command that a fault ends. -/
def Outcome.failed (files : Files) (fault : Fault) : Outcome :=
  ⟨⟨[], []⟩, none, files, .error fault⟩

/-- Why what a command line asks for is not accepted. -/
inductive Objection where
  | message (text : String)
  /-- The program ends. -/
  | fault (fault : Fault)
deriving DecidableEq, Repr

/-- The outcome of an objection. -/
def Outcome.objected (files : Files) : Objection → Outcome
  | .message text => .refused files text
  | .fault fault => .failed files fault

/-- A number that is there and is accepted. -/
def Numbers.accept {α : Type} (number? : Option α) (isBad : α → Bool) (message : String) :
    Except Objection α :=
  match number? with
  | none => .error (.fault voidFault)
  | some a => if isBad a then .error (.message message) else .ok a

/-- The hyperparameters that the numbers of a command line make, if all are accepted. -/
def Numbers.hyperparameters (numbers : Numbers) : Except Objection Hyperparameters := do
  let c2 ← accept numbers.c2? (fun x => x < 0.0) "--c2 must not be negative"
  let maxIterations ← accept numbers.maxIterations? (fun n => n ≤ 0) "--max-iter must be positive"
  let epsilon ← accept numbers.epsilon? (fun x => x ≤ 0.0) "--epsilon must be positive"
  return { Hyperparameters.defaults with c2, maxIterations, epsilon }

/-- Why paths of corpora are not accepted: the first that leads nowhere. -/
def missingPath? (files : Files) (paths : List String) : Option String :=
  (paths.find? fun path => !files.contains path).map fun path =>
    "Training file not found: " ++ path

/-- A path that was given and is not empty. -/
def given? (path? : Option String) : Option String := path?.filter (· ≠ "")

/-- The paths of the corpora, or why there are none. -/
def Options.corpusPaths (options : Options) : Except String (List String) :=
  match options.type? with
  | some .generic =>
      match given? options.person, given? options.company with
      | some person, some company => .ok [person, company]
      | _, _ => .error "Generic model requires both -p and -c options"
  | _ =>
      match given? options.input with
      | some input => .ok [input]
      | none => .error "Input file is required"

/-- Where the model is to be written. -/
def Options.target (options : Options) : Target :=
  match options.output? with
  | some name => .path name
  | none => .void

/-- The lines before a run. -/
def Options.heading (options : Options) (paths : List String) : List String :=
  match options.type?, paths with
  | some .generic, [person, company] =>
      ["Training GENERIC model...", "  Person data: " ++ person, "  Company data: " ++ company,
        "  Output: " ++ options.target.shown, ""]
  | type?, paths =>
      ["Training " ++ (type?.map ModelType.name).getD voidText ++ " model..."] ++
        (paths.map fun path => "  Input: " ++ path) ++ ["  Output: " ++ options.target.shown, ""]

/-- Why a corpus cannot be used; other faults end the program. -/
def loadObjection? (fault : Fault) : Option String :=
  if fault.kind.isA .corpusFormat then some ("Failed to parse training file: " ++ fault.message)
  else if fault.kind.isA .encoding then
    some ("Training file is not valid UTF-8: " ++ fault.message)
  else if fault.kind.isA .system then some ("Failed to read training file: " ++ fault.message)
  else none

/-- The lines of statistics that count for something. -/
def infoLines (info : Info) : List String :=
  ((info.iterations.filter (· ≠ 0)).map fun n => "  Iterations:     " ++ toString n).toList ++
    ((info.loss.filter (· != 0.0)).map fun x =>
      "  Final loss:     " ++ Decimal.messageText x).toList

/-- The path of a model, as it is shown. -/
def shownPath (result : Result) : String := result.modelPath?.getD "None"

/-- The lines behind a run that made a model. -/
def resultLines (result : Result) : List String :=
  [String.ofList (List.replicate 60 '-'),
    "Training Results:",
    "  Model path:     " ++ shownPath result,
    "  Model size:     " ++ Decimal.grouped result.modelSize ++ " bytes",
    "  Sequences:      " ++ Decimal.grouped result.counts.sequences,
    "  Tokens:         " ++ Decimal.grouped result.counts.tokens,
    "  Attributes:     " ++ Decimal.grouped result.counts.attrs,
    "  Labels:         " ++ toString result.counts.labels,
    "  Training time:  " ++ Decimal.fixed 2 result.seconds ++ "s"] ++
    infoLines result.info ++
    ["", "Training completed successfully!", "Model saved to: " ++ shownPath result]

/-- What is printed about a run, and the exit status. -/
def report (run : Run) : Outcome :=
  let outcome (errors lines : List String) (status : Except Fault Nat) : Outcome :=
    ⟨⟨run.messages ++ lines, errors⟩, run.start?, run.files, status⟩
  match run.result with
  | .error fault => outcome [] [] (.error fault)
  | .ok result =>
      if result.success then outcome [] ("" :: resultLines result) (.ok 0)
      else outcome ["Error: " ++ result.reason] [""] (.ok 1)

/-- The corpora at paths. -/
def loadCorpora (files : Files) (paths : List String) : Except Fault (List Corpus) :=
  paths.mapM (Corpus.load files)

/-- The lines about corpora that are asked for by `--verbose`. -/
def Options.summaryLines (options : Options) (corpora : List Corpus) : List String :=
  if options.verbose then [Corpus.summary corpora.flatten Corpus.defaultExamples, ""] else []

/-- The run on one corpus or on two. -/
def runOn (job : Job) (corpora : List Corpus) (files : Files) : Run :=
  match corpora with
  | [first, second] => runGeneric job first second files
  | corpora => Training.run job corpora.flatten files

/-- Train on the corpora at paths. -/
def trainOn (options : Options) (job : Job) (paths : List String) (files : Files) : Outcome :=
  match loadCorpora files paths with
  | .error fault =>
      match loadObjection? fault with
      | some message => .refused files message
      | none => .failed files fault
  | .ok corpora =>
      (report (runOn job corpora files)).after (options.summaryLines corpora)

/-- Train the model that options ask for; `job` makes the work of the hyperparameters. -/
def train (options : Options) (job : Hyperparameters → Job) (files : Files) : Outcome :=
  match options.numbers.hyperparameters with
  | .error objection => .objected files objection
  | .ok hyperparameters =>
      match options.corpusPaths with
      | .error message => .refused files message
      | .ok paths =>
          match missingPath? files paths with
          | some message => .refused files message
          | none =>
              (trainOn options (job hyperparameters) paths files).after (options.heading paths)

/-- What a command line comes to: it is carried out, or it stops before that. -/
inductive Ending where
  | ran (outcome : Outcome)
  | stopped (stop : Stop) (files : Files)
  | failed (fault : Fault) (files : Files)

/-- The hyperparameters in settings whose defaults were filled in. -/
def hyperparametersOf (settings : Settings) : Except Fault Hyperparameters :=
  Hyperparameters.ofJson (.obj settings)

/-- The job that options and settings describe. -/
def jobOf (options : Options) (groups : GroupChoice) (trainer? : Option Trainer)
    (processId : Nat) (hyperparameters : Hyperparameters) : Job where
  target := options.target
  hyperparameters := hyperparameters
  groups := groups
  trainer? := trainer?
  processId := processId

/-- The options of a command line, and the groups in the settings. -/
def optionsOf (settings : Settings) (words : List String) :
    Except Fault (Except Stop Options × GroupChoice) := do
  let hyperparameters ← hyperparametersOf settings
  let groups ← GroupChoice.ofSettings settings
  return (Options.read hyperparameters words, groups)

/-- The whole command.  Defaults come from the settings of the user, which are written if there are
none. -/
def perform (codec : Json.Codec) (env : Environment) (words : List String)
    (trainer? : Option Trainer) (processId : Nat) (files : Files) : Ending :=
  match Settings.loadUser codec env files with
  | (files, .error fault) => .failed fault files
  | (files, .ok loaded) =>
      match optionsOf loaded.settings words with
      | .error fault => .failed fault files
      | .ok (.error stop, _) => .stopped stop files
      | .ok (.ok options, groups) =>
          .ran (train options (jobOf options groups trainer? processId) files)

/-- The paths of the corpora that a command line names. -/
def inputPaths (settings : Settings) (words : List String) : List String :=
  match optionsOf settings words with
  | .ok (.ok options, _) =>
      match options.corpusPaths with
      | .ok paths => paths
      | .error _ => []
  | _ => []

/-- How to write a command line. -/
def usage : List String := [
  "usage: crfname-train [-h] -o OUTPUT [-t person|company|generic] [-p PERSON] [-c COMPANY]",
  "                     [--c2 C2] [--max-iter MAX_ITER] [--epsilon EPSILON] [-v] [input]",
  "",
  "Train a CRF model for name parsing.",
  "",
  "  input           training corpus file (not used for --type generic)",
  "  -o, --output    output model file (required)",
  "  -t, --type      model type: person, company or generic (default: person)",
  "  -p, --person    person training data (for the generic model)",
  "  -c, --company   company training data (for the generic model)",
  "  --c2            weight of the quadratic penalty",
  "  --max-iter      greatest number of iterations",
  "  --epsilon       improvement below which training ends",
  "  -v, --verbose   show a summary of the corpus",
  "  -h, --help      show this text"]

end NameTagger.Command
