import NameTagger.Settings.Groups
import NameTagger.Training.Result

/-!
# Training runs

A run turns a corpus into instances and hands them to a trainer.  While the trainer works, a lock
file beside the model file keeps other runs away.

* `Job`: what a run is asked to do;
* `Run`: all that a run does: its messages, what the trainer was given, the files behind it;
* `locked`: the work of a trainer under the lock;
* `run`: a run.
-/

namespace NameTagger.Training

/-- What a run is asked to do. -/
structure Job where
  /-- Where the model is to be written. -/
  target : Target
  hyperparameters : Hyperparameters
  groups : GroupChoice
  /-- There may be no trainer at hand. -/
  trainer? : Option Trainer
  /-- The number of the process, which the lock file holds. -/
  processId : Nat

/-- What the trainer was given, and the files that it found. -/
structure Start where
  task : Task
  files : Files

/-- All that a run does. -/
structure Run where
  messages : List String
  /-- Absent if the trainer was not called. -/
  start? : Option Start
  files : Files
  result : Except Fault Result

/-- A run with messages before it. -/
def Run.after (messages : List String) (run : Run) : Run :=
  { run with messages := messages ++ run.messages }

/-- A run that ends at once without a model. -/
def Run.without (files : Files) (reason : String) : Run :=
  ⟨[], none, files, .ok (Result.blank.refused reason)⟩

/-- A run that ends at once with a fault. -/
def Run.failed (files : Files) (fault : Fault) : Run := ⟨[], none, files, .error fault⟩

/-- The message if the lock is taken. -/
def takenMessage (target : Target) : String :=
  "Another training run is writing " ++ target.shown ++ " (lock file " ++ target.lockPath ++ ")"

/-- Take the lock of a model file. -/
def takeLock (processId : Nat) (target : Target) (files : Files) : Except Fault Files :=
  match files.createNew target.lockPath (toString processId).toUTF8 with
  | .ok files => .ok files
  | .error fault =>
      if fault.kind = .fileExists then .error ⟨.runtime, takenMessage target⟩ else .error fault

/-- Release the lock of a model file; it may be gone already. -/
def releaseLock (target : Target) (files : Files) : Files × Except Fault Unit :=
  match files.remove target.lockPath with
  | .ok files => (files, .ok ())
  | .error fault => if fault.kind = .fileMissing then (files, .ok ()) else (files, .error fault)

/-- The work of a trainer, and the files that it found. -/
structure Work where
  logs : List String
  start? : Option Start
  files : Files
  outcome : Except Fault (Float × Info)

/-- What a trainer reports, once the lock is released. -/
def Report.work (report : Report) (start : Start) : Work :=
  let (released, release) := releaseLock start.task.target report.files
  let outcome := do
    release
    let info ← report.outcome
    return (report.seconds, info)
  ⟨report.logs, some start, released, outcome⟩

/-- The work of a trainer under the lock, which is released whatever comes of it. -/
def locked (processId : Nat) (trainer : Trainer) (task : Task) (files : Files) : Work :=
  match takeLock processId task.target files with
  | .error fault => ⟨[], none, files, .error fault⟩
  | .ok files => (trainer task files).work ⟨task, files⟩

/-- Whether a fault of the trainer or of the lock makes a run unsuccessful; others end it. -/
def isTrainingFailure (fault : Fault) : Bool :=
  fault.kind.isA .runtime || fault.kind.isA .value || fault.kind.isA .system

/-- The message at the end of a run that made a model. -/
def completeMessage (seconds : Float) : String :=
  "Training complete in " ++ Decimal.fixed 2 seconds ++ "s"

/-- The last messages and the result of a run whose trainer came back: the model file is looked for,
which must have a place. -/
def inspect (result : Result) (target : Target) (info : Info) (files : Files) :
    Except Fault (List String × Result) := do
  let path ← target.file
  if files.contains path then
    let size ← files.size path
    return ([completeMessage result.seconds], result.found path size info)
  else return ([], result.refused ("Trainer did not write a model to " ++ path))

/-- The end of a run after the work of the trainer. -/
def conclude (result : Result) (target : Target) (work : Work) : Run :=
  match work.outcome with
  | .error fault =>
      let outcome : Except Fault Result :=
        if isTrainingFailure fault then .ok (result.refused ("Training failed: " ++ fault.shown))
        else .error fault
      ⟨work.logs, work.start?, work.files, outcome⟩
  | .ok (seconds, info) =>
      match inspect { result with seconds } target info work.files with
      | .error fault => ⟨work.logs, work.start?, work.files, .error fault⟩
      | .ok (messages, result) =>
          ⟨work.logs ++ messages, work.start?, work.files, .ok result⟩

/-- The instances of a corpus with the vocabulary that they make up. -/
def prepare (groups : GroupChoice) (corpus : Corpus) :
    Except Fault (Vocabulary × List (Instance Float)) := do
  let names ← groups.names
  match Vocabulary.empty.learnCorpus corpus names with
  | (vocabulary, .ok instances) => .ok (vocabulary, instances)
  | (_, .error refusal) => .error refusal.fault

/-- The counts of a corpus that was prepared. -/
def countsOf (corpus : Corpus) (vocabulary : Vocabulary) (instances : List (Instance Float)) :
    Counts where
  sequences := corpus.length
  instances := instances.length
  tokens := (instances.map Instance.size).foldr (· + ·) 0
  attrs := vocabulary.attrs.size
  labels := vocabulary.labels.size

/-- The messages between the instances and the work of the trainer. -/
def preparedMessages (counts : Counts) (hyperparameters : Hyperparameters) : List String :=
  ["Created " ++ Decimal.grouped counts.instances ++ " training instances",
    "Attributes: " ++ Decimal.grouped counts.attrs ++ ", Labels: " ++ toString counts.labels,
    "Training CRF model " ++ hyperparameters.describe ++ "..."]

/-- Why there is no model if there is nothing to learn from. -/
def noData : String := "No training data provided"

/-- Why there is no model if there is no trainer. -/
def noTrainer : String :=
  "pycrfsuite not installed. Install with: pip install python-crfsuite"

/-- A run with a trainer. -/
def runWith (job : Job) (trainer : Trainer) (corpus : Corpus) (files : Files) : Run :=
  match prepare job.groups corpus with
  | .error fault => .failed files fault
  | .ok (vocabulary, instances) =>
      let counts := countsOf corpus vocabulary instances
      let task := ⟨instances, vocabulary, job.target, job.hyperparameters⟩
      (conclude (.ofCounts counts) job.target (locked job.processId trainer task files)).after
        (progress corpus.length ++ preparedMessages counts job.hyperparameters)

/-- A run on a corpus. -/
def run (job : Job) (corpus : Corpus) (files : Files) : Run :=
  if corpus.isEmpty then .without files noData
  else
    match job.trainer? with
    | none => .without files noTrainer
    | some trainer => (runWith job trainer corpus files).after ["Converting training data..."]

/-- A run on two corpora, the second behind the first. -/
def runGeneric (job : Job) (first second : Corpus) (files : Files) : Run :=
  let combined := first ++ second
  (run job combined files).after
    ["Combined training data: " ++ Decimal.grouped combined.length ++ " sequences"]

end NameTagger.Training
