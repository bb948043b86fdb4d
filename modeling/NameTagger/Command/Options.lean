import NameTagger.Command.Word
import NameTagger.Training.Hyperparameters

/-!
# The options of the training command

An option whose value is attached to it and is the mark that separates options from values loses its
value: it counts as given, but leaves nothing.

* `ModelType`, `Numbers`, `Options`: what can be asked for;
* `Cluster`, `clusterOf?`: the options that share one dash, and the value of the last;
* `Progress`, `Progress.set`: what was read so far;
* `Options.read`: the options of a command line, or why it is not carried out.
-/

namespace NameTagger.Command

/-- The types of model. -/
inductive ModelType where
  | person
  | company
  | generic
deriving DecidableEq, Repr

namespace ModelType

/-- The name of a type. -/
def name : ModelType → String
  | .person => "person"
  | .company => "company"
  | .generic => "generic"

/-- The type with a name. -/
def ofName? (name : String) : Option ModelType :=
  [person, company, generic].find? fun type => type.name = name

end ModelType

/-- The numbers that a command line leaves to a training run; those that were taken away are
missing. -/
structure Numbers where
  c2? : Option Float
  maxIterations? : Option Int
  epsilon? : Option Float
deriving Repr

/-- The numbers of hyperparameters. -/
def Numbers.of (h : Hyperparameters) : Numbers := ⟨some h.c2, some h.maxIterations, some h.epsilon⟩

/-- What a command line asks for. -/
structure Options where
  input : Option String
  /-- The place of the model, if it was not taken away. -/
  output? : Option String
  /-- The type of the model, if it was not taken away. -/
  type? : Option ModelType
  person : Option String
  company : Option String
  numbers : Numbers
  verbose : Bool
deriving Repr

/-- The options that share a dash. -/
structure Cluster where
  /-- Those without a value that stand before the last. -/
  before : List Flag
  last : Flag
  /-- The value attached to the last. -/
  attached? : Option String
deriving DecidableEq, Repr

/-- Take apart what is attached to an option: its value, or, for an option without one, further
letters. -/
def cluster (before : List Flag) (flag : Flag) : Option (List Char) → Except Stop Cluster
  | none => .ok ⟨before, flag, none⟩
  | some text =>
      if flag.takesValue then .ok ⟨before, flag, some (String.ofList text)⟩
      else
        match text with
        | [] => .error .usage
        | letter :: behind =>
            match Flag.ofLetter? letter with
            | none => .error .usage
            | some next =>
                match behind with
                | [] => .ok ⟨before ++ [flag], next, none⟩
                | c :: rest => cluster (before ++ [flag]) next (some (c :: rest))
termination_by attached? => attached?.elim 0 List.length

/-- An option with its long name; only one that takes a value may have one attached. -/
def ofLong (flag : Flag) (attached? : Option String) : Except Stop Cluster :=
  if attached?.isSome && !flag.takesValue then .error .usage else .ok ⟨[], flag, attached?⟩

/-- The options that a word brings; none if it is no option. -/
def clusterOf? : Word → Option (Except Stop Cluster)
  | .long flag attached? => some (ofLong flag attached?)
  | .short flag attached? => some (cluster [] flag attached?)
  | _ => none

/-- The value of the last option of a cluster, which may be the next word, and the words behind it.
There is none for an option without a value, and none if it is taken away. -/
def Cluster.value (cluster : Cluster) (rest : List Word) :
    Except Stop (Option String × List Word) :=
  if !cluster.last.takesValue then .ok (none, rest)
  else
    match cluster.attached?, rest with
    | some text, rest => .ok (if text = separatorText then none else some text, rest)
    | none, .value text :: rest => .ok (some text, rest)
    | none, _ => .error .usage

theorem Cluster.length_le_of_value {cluster : Cluster} {rest left : List Word}
    {value? : Option String} (h : cluster.value rest = .ok (value?, left)) :
    left.length ≤ rest.length := by
  unfold value at h
  split at h
  · simp_all
  · split at h
    · simp only [Except.ok.injEq, Prod.mk.injEq] at h
      simp [h.2]
    · simp only [Except.ok.injEq, Prod.mk.injEq] at h
      simp [h.2]
    · simp at h

/-- What was read so far. -/
structure Progress where
  /-- The options; until an output is named, they lack one. -/
  options : Options
  /-- Whether the place of the input was passed. -/
  pastInput : Bool
  /-- Whether an output was named. -/
  hasOutput : Bool
  /-- Whether a word was met that has no place. -/
  surplus : Bool
deriving Repr

namespace Progress

/-- Nothing was read yet. -/
def start (hyperparameters : Hyperparameters) : Progress where
  options := ⟨none, none, some .person, none, none, .of hyperparameters, false⟩
  pastInput := false
  hasOutput := false
  surplus := false

/-- The value of an option as `read` takes it; a text that it does not take is a mistake in the
command line. -/
def reading {α : Type} (read : String → Option α) : Option String → Except Stop (Option α)
  | none => .ok none
  | some text =>
      match read text with
      | some a => .ok (some a)
      | none => .error .usage

/-- Options with an option acted on. -/
def apply (options : Options) (flag : Flag) (value? : Option String) : Except Stop Options :=
  match flag with
  | .help => .error .help
  | .verbose => .ok { options with verbose := true }
  | .output => .ok { options with output? := value? }
  | .person => .ok { options with person := value? }
  | .company => .ok { options with company := value? }
  | .type => do
      let type? ← reading ModelType.ofName? value?
      return { options with type? }
  | .c2 => do
      let c2? ← reading Decimal.number? value?
      return { options with numbers := { options.numbers with c2? } }
  | .epsilon => do
      let epsilon? ← reading Decimal.number? value?
      return { options with numbers := { options.numbers with epsilon? } }
  | .maxIterations => do
      let maxIterations? ← reading (fun text => (Decimal.readInteger text).toOption) value?
      return { options with numbers := { options.numbers with maxIterations? } }

/-- Act on an option with its value. -/
def set (progress : Progress) (flag : Flag) (value? : Option String) : Except Stop Progress := do
  let options ← apply progress.options flag value?
  return { progress with options, hasOutput := progress.hasOutput || flag = .output }

/-- Act on options that share a dash, where the last comes with its value. -/
def setCluster (progress : Progress) (cluster : Cluster) (value? : Option String) :
    Except Stop Progress := do
  let progress ← cluster.before.foldlM (fun progress flag => progress.set flag none) progress
  progress.set cluster.last value?

/-- Act on a value: the first is the input, others have no place. -/
def takeValue (progress : Progress) (text : String) : Progress :=
  if progress.pastInput then { progress with surplus := true }
  else { progress with options := { progress.options with input := some text }, pastInput := true }

/-- Act on values behind the separator. -/
def takeValues (progress : Progress) (rest : List Word) : Progress :=
  rest.foldl (fun progress word =>
    match word with
    | .value text => progress.takeValue text
    | _ => { progress with surplus := true }) progress

/-- Act on the separator and what follows it.  It has no place once the input was passed, unless it
stands right behind the input. -/
def takeSeparator (progress : Progress) (adjacent : Bool) (rest : List Word) : Progress :=
  let misplaced := progress.pastInput && !adjacent
  { progress with surplus := progress.surplus || misplaced }.takeValues rest

/-- Act on words; `adjacent` tells whether the word before them is the input. -/
def run (progress : Progress) (adjacent : Bool) : List Word → Except Stop Progress
  | [] => .ok progress
  | .separator :: rest => .ok (progress.takeSeparator adjacent rest)
  | .value text :: rest => (progress.takeValue text).run (!progress.pastInput) rest
  | word :: rest =>
      match clusterOf? word with
      | none => { progress with surplus := true }.run false rest
      | some (.error stop) => .error stop
      | some (.ok cluster) =>
          match h : cluster.value rest with
          | .error stop => .error stop
          | .ok (value?, left) =>
              have := Cluster.length_le_of_value h
              match progress.setCluster cluster value? with
              | .error stop => .error stop
              | .ok progress => progress.run false left
termination_by words => words.length

/-- The options that were read; an output must be named, and every word must have a place. -/
def finish (progress : Progress) : Except Stop Options :=
  if progress.hasOutput && !progress.surplus then .ok progress.options else .error .usage

end Progress

/-- The options of a command line; `hyperparameters` are those where it chooses no others. -/
def Options.read (hyperparameters : Hyperparameters) (words : List String) :
    Except Stop Options := do
  let words ← readWords words
  let progress ← (Progress.start hyperparameters).run false words
  progress.finish

end NameTagger.Command
