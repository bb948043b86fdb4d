import NameTagger.Corpus.Load
import NameTagger.Training.Run

/-!
# Training from files

* `Pipeline`: a run with the numbers of the corpora that it loaded;
* `runFile`: a run on the corpus of a file;
* `runFiles`: a run on the corpora of two files.
-/

namespace NameTagger.Training

/-- The numbers of the corpora that were loaded. -/
structure Loaded where
  stats : Corpus.Stats
  /-- The numbers of names in the two corpora, if there are two. -/
  parts : Option (Nat × Nat)
deriving DecidableEq, Repr

/-- A run with the numbers of what it loaded, if loading succeeded. -/
structure Pipeline where
  run : Run
  loaded? : Option Loaded

/-- A pipeline whose corpora could not be loaded. -/
def Pipeline.failed (messages : List String) (files : Files) (fault : Fault) : Pipeline :=
  ⟨(Run.failed files fault).after messages, none⟩

/-- A run on the corpus of a file. -/
def runFile (job : Job) (path : String) (files : Files) : Pipeline :=
  let start := ["Loading corpus..."]
  match Corpus.load files path with
  | .error fault => .failed start files fault
  | .ok corpus =>
      let stats := corpus.stats
      let loadedMessage := "Loaded " ++ Decimal.grouped stats.sequences ++ " sequences, " ++
        Decimal.grouped stats.tokens ++ " tokens"
      ⟨(run job corpus files).after (start ++ [loadedMessage]), some ⟨stats, none⟩⟩

/-- A run on the corpora of two files. -/
def runFiles (job : Job) (personPath companyPath : String) (files : Files) : Pipeline :=
  let start := ["Loading person and company corpora..."]
  let corpora := do
    let person ← Corpus.load files personPath
    let company ← Corpus.load files companyPath
    return (person, company)
  match corpora with
  | .error fault => .failed start files fault
  | .ok (person, company) =>
      ⟨(runGeneric job person company files).after start,
        some ⟨Corpus.stats (person ++ company), some (person.length, company.length)⟩⟩

end NameTagger.Training
