import NameTagger.Files.Basic
import NameTagger.Instance.Learn
import NameTagger.Training.Hyperparameters
import NameTagger.Training.LogLines
import NameTagger.Training.Target

/-!
# Trainers

A trainer gets the instances of a corpus and writes a model file.

* `Task`, `Info`, `Report`, `Trainer`: what a trainer is given and what it comes back with;
* `Call`, `Task.calls`: the calls to a training library that hand a task over;
* `Engine`, `Engine.trainer`: a training library, and the trainer that works with it.
-/

namespace NameTagger.Training

/-- What a trainer is given. -/
structure Task where
  instances : List (Instance Float)
  vocabulary : Vocabulary
  /-- Where the model is to be written. -/
  target : Target
  hyperparameters : Hyperparameters

/-- The statistics of the last iteration, as far as they are known. -/
structure Info where
  iterations : Option Int
  loss : Option Float
  activeFeatures : Option Int
deriving Repr

/-- Nothing is known. -/
def Info.unknown : Info := ⟨none, none, none⟩

/-- What a trainer comes back with. -/
structure Report where
  /-- The lines of its log. -/
  logs : List String
  files : Files
  /-- How long it took. -/
  seconds : Float
  outcome : Except Fault Info

/-- A trainer acts on a task and on files. -/
abbrev Trainer := Task → Files → Report

/-- A call to a training library. -/
inductive Call where
  | append (tokens : List (Vector Float)) (labels : List String)
  | setParameters (parameters : List (String × Json))
  | train (target : Target)

/-- The labels of an instance by their names. -/
def Task.labelsOf (task : Task) (inst : Instance Float) : List String :=
  inst.labels.filterMap task.vocabulary.labels.string?

/-- The call that hands over an instance. -/
def Task.appendCall (task : Task) (inst : Instance Float) : Call :=
  .append (inst.toVectors task.vocabulary.attrs) (task.labelsOf inst)

/-- The calls that hand over a task: each instance in order, the parameters, and the order to
train. -/
def Task.calls (task : Task) : List Call :=
  task.instances.map task.appendCall ++
    [.setParameters task.hyperparameters.parameters, .train task.target]

/-- What a training library comes back with. -/
structure EngineReport where
  /-- The pieces of its log, which may end anywhere. -/
  chunks : List String
  files : Files
  seconds : Float
  outcome : Except Fault Info

/-- A training library acts on the calls to it and on files. -/
abbrev Engine := String → List Call → Files → EngineReport

/-- What comes back from a library, as a trainer reports it. -/
def EngineReport.report (report : EngineReport) : Report where
  logs := (LogLines.feedAll [] report.chunks).1
  files := report.files
  seconds := report.seconds
  outcome := report.outcome

/-- The trainer that works with a training library. -/
def Engine.trainer (engine : Engine) : Trainer := fun task files =>
  (engine task.hyperparameters.algorithm task.calls files).report

end NameTagger.Training
