import NameTagger.Parse.Decode
import NameTagger.Proofs.Model.Action

/-!
# What a library is asked to label

A library can be watched: beside its own state it keeps a log of what it was asked to choose.

* `Library.recording`: a library with such a log;
* `Library.log_judge`, `Library.log_best`, `Parser.log_decode`: the log behind a verdict, behind the
  search for the best labels and behind the parsing of a name.
-/

namespace NameTagger

variable {σ τ α β : Type}

/-- An action beside a log, to which it adds entries whatever it comes to. -/
def Action.beside (action : Action σ α) (entries : List β) : Action (σ × List β) α :=
  ExceptT.mk fun s => ((action.perform s.1).1, (action.perform s.1).2, s.2 ++ entries)

theorem Action.perform_beside (action : Action σ α) (entries : List β) (s : σ × List β) :
    (action.beside entries).perform s =
      ((action.perform s.1).1, (action.perform s.1).2, s.2 ++ entries) := rfl

theorem Action.Keeps.beside (action : Action σ α) :
    Keeps Prod.snd (action.beside ([] : List β)) := by
  intro s
  rw [perform_beside]
  exact List.append_nil s.2

namespace Library

/-- A library with a log of the names that it was asked to choose. -/
def recording (library : Library σ τ) : Library (σ × List (List (Vector Float))) τ where
  create := fun s => ((library.create.run s.1).1, (library.create.run s.1).2, s.2)
  openModel tagger content := (library.openModel tagger content).beside []
  close tagger := fun s => ((), ((library.close tagger).run s.1).2, s.2)
  labels tagger := (library.labels tagger).beside []
  dump tagger := (library.dump tagger).beside []
  choose tagger tokens := (library.choose tagger tokens).beside [tokens]
  tag tagger := (library.tag tagger).beside []
  probability tagger labels := (library.probability tagger labels).beside []
  marginal tagger label i := (library.marginal tagger label i).beside []

/-- The log of a world. -/
def log (world : World (σ × List (List (Vector Float))) τ) : List (List (Vector Float)) :=
  world.library.2

variable (library : Library σ τ) (withMarginals : Bool)

/-- A verdict is about one name. -/
theorem log_judge (tokens : List (Vector Float)) (tagger : τ)
    (s : σ × List (List (Vector Float))) :
    ((library.recording.judge withMarginals tokens tagger).perform s).2.2 = s.2 ++ [tokens] := by
  rw [judge]
  -- nothing is chosen behind the first step
  refine (Action.view_bind _ (fun _ => ?_) s).trans rfl
  refine Action.Keeps.bind (.beside _) fun labels => ?_
  refine Action.Keeps.bind (.beside _) fun score => ?_
  cases withMarginals with
  | false => exact .pure _
  | true => exact (Action.Keeps.mapM (fun _ => .beside _) _).bind fun marginals => .pure _

/-- A tagger is opened without a look at any name. -/
theorem keeps_tagger (handle : Handle) : Action.Keeps log (handle.tagger library.recording) := by
  have hopen : Action.Keeps log (handle.openTagger library.recording) := by
    refine Action.Keeps.bind (@Action.Keeps.withLibrary _ _ _ _ Prod.snd _ ?_) fun tagger => ?_
    · exact Action.Keeps.bind (fun _ => rfl) fun tagger =>
        (Action.Keeps.beside _).bind fun _ => .pure _
    · exact Action.Keeps.bind (fun _ => rfl) fun _ => .pure _
  -- the tagger may be open already
  refine Action.Keeps.bind (fun _ => rfl) fun world => ?_
  cases world.taggers.lookup handle.serial with
  | some tagger => exact .pure tagger
  | none => exact hopen

/-- The names that are chosen if a tagger is there. -/
def chosenIf (opened : Except Fault τ) (tokens : List (Vector Float)) :
    List (List (Vector Float)) :=
  match opened with
  | .ok _ => [tokens]
  | .error _ => []

/-- The search for the best labels is about one name, unless no tagger can be opened. -/
theorem log_best (model : Model) (inst : Instance Float)
    (world : World (σ × List (List (Vector Float))) τ) :
    log (((library.recording.cachingTagger withMarginals).best model inst).perform world).2 =
      log world ++ chosenIf ((model.handle.tagger library.recording).perform world).1
        (inst.toVectors model.attrs) := by
  refine (Action.view_bind _ (fun _ => .ofExcept _) world).trans ?_
  rw [Action.perform_mapFault, Action.perform_bind]
  have hkeeps := keeps_tagger library model.handle world
  -- a failure to open the tagger and one of the verdict end in the same way
  generalize (model.handle.tagger library.recording).perform world = outcome at hkeeps ⊢
  obtain ⟨opened, world'⟩ := outcome
  cases opened with
  | error fault =>
    rw [chosenIf, List.append_nil]
    exact hkeeps
  | ok tagger =>
    rw [chosenIf, ← hkeeps]
    exact log_judge library withMarginals (inst.toVectors model.attrs) tagger world'.library

end Library

/-- Parsing a name is about its instance, if there is a model and a token. -/
theorem Parser.log_decode (library : Library σ τ) (withMarginals : Bool) (groups : GroupChoice)
    (milliseconds : Float) (text? : Option String) (model? : Option Model)
    (world : World (σ × List (List (Vector Float))) τ) :
    Library.log (((⟨library.recording.cachingTagger withMarginals, groups⟩ : Parser _).decode
        milliseconds text? model?).perform world).2 =
      Library.log world ++
        match (⟨library.recording.cachingTagger withMarginals, groups⟩ : Parser _).prepare
          text? model? with
        | .ok prepared =>
            Library.chosenIf ((prepared.model.handle.tagger library.recording).perform world).1
              (prepared.inst.toVectors prepared.model.attrs)
        | .error _ => [] := by
  rw [decode, Action.perform_bind]
  cases hprepare : (⟨library.recording.cachingTagger withMarginals, groups⟩ : Parser _).prepare
      text? model? with
  | error fault => exact (List.append_nil _).symm
  | ok prepared =>
    refine (Action.view_bind _ (fun tagging => ?_) world).trans ?_
    · exact Action.Keeps.bind (.ofExcept _) fun tokens => .pure _
    · exact Library.log_best library withMarginals prepared.model prepared.inst world

end NameTagger
