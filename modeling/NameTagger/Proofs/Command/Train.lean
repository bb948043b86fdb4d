import NameTagger.Command.Train
import NameTagger.Proofs.Corpus.Load
import NameTagger.Proofs.Training.Product

/-!
# The exit status of the training command

* `exists_loadObjection`: a corpus that cannot be loaded is objected to;
* `Options.Names`, `Options.Asks`: the paths that options name, and what they ask for;
* `isRefusal_or_asks`, `exists_report_of_asks`: a command is refused, or it reports a run on what
  it asks for;
* `status_of_asks`, `exists_asks_of_start?`: what that run comes to, and what its trainer is given;
* `train_status`: what the exit status says.
-/

namespace NameTagger

namespace Command

open Training

theorem exists_loadObjection_of_kind {fault : Fault}
    (h : fault.kind.isA .corpusFormat = true ∨ fault.kind.isA .encoding = true ∨
      fault.kind.isA .system = true) :
    ∃ message, loadObjection? fault = some message := by
  rw [loadObjection?]
  split
  · exact ⟨_, rfl⟩
  next hformat =>
    split
    · exact ⟨_, rfl⟩
    next hencoding => exact ⟨_, if_pos ((h.resolve_left hformat).resolve_left hencoding)⟩

/-- Where every character reference can be read, a corpus that cannot be loaded is objected to. -/
theorem exists_loadObjection {files : Files} (hlegible : files.IsLegible) {path : String}
    {fault : Fault} (h : Corpus.load files path = .error fault) :
    ∃ message, loadObjection? fault = some message := by
  rw [Corpus.load] at h
  split at h
  next hcontains =>
    rcases error_of_bind h with hread | ⟨content, hread, hcontent⟩
    · rcases Files.fault_of_read hcontains hread with rfl | rfl <;> exact ⟨_, rfl⟩
    · refine exists_loadObjection_of_kind ?_
      rcases Corpus.kind_of_ofContent_eq_error hcontent (hlegible path content · hread)
        with hkind | hkind
      · exact .inr (.inl (by rw [hkind]; rfl))
      · exact .inl (by rw [hkind]; rfl)
  next =>
    rw [← Except.error.inj h]
    exact ⟨_, rfl⟩

theorem loadCorpora_eq_ok_iff {files : Files} {paths : List String} {corpora : List Corpus} :
    loadCorpora files paths = .ok corpora ↔ List.Forall₂ files.Holds paths corpora := by
  rw [loadCorpora]
  induction paths generalizing corpora with
  | nil =>
    rw [List.mapM_nil, List.forall₂_nil_left_iff]
    exact ⟨fun h => (Except.ok.inj h).symm, fun h => by rw [h]; rfl⟩
  | cons path rest ih =>
    rw [List.mapM_cons, List.forall₂_cons_left_iff]
    simp only [← Corpus.load_eq_ok_iff, ← ih]
    cases Corpus.load files path with
    | error fault => simp [bind, Except.bind]
    | ok corpus =>
      cases rest.mapM (Corpus.load files) <;>
        simp [bind, Except.bind, pure, Except.pure, eq_comm]

theorem exists_load_of_loadCorpora {files : Files} {paths : List String} {fault : Fault}
    (h : loadCorpora files paths = .error fault) :
    ∃ path, Corpus.load files path = .error fault := by
  rw [loadCorpora] at h
  induction paths with
  | nil => cases h
  | cons path rest ih =>
    rw [List.mapM_cons] at h
    rcases error_of_bind h with hload | ⟨corpus, -, h⟩
    · exact ⟨path, hload⟩
    rcases error_of_bind h with hrest | ⟨corpora, -, h⟩
    · exact ih hrest
    · cases h

/-! ### Paths -/

/-- The paths of the corpora that options name, none of which is empty: the input, or for the
generic type the corpus of persons and that of companies. -/
inductive Options.Names (options : Options) : List String → Prop
  | single {input : String} (htype : options.type? ≠ some .generic)
      (hinput : options.input = some input) (hne : input ≠ "") : options.Names [input]
  | generic {person company : String} (htype : options.type? = some .generic)
      (hperson : options.person = some person) (hcompany : options.company = some company)
      (hne : person ≠ "" ∧ company ≠ "") : options.Names [person, company]

theorem given?_eq_some_iff {path? : Option String} {path : String} :
    given? path? = some path ↔ path? = some path ∧ path ≠ "" := by
  simp [given?, Option.filter_eq_some_iff]

theorem corpusPaths_eq_ok_iff {options : Options} {paths : List String} :
    options.corpusPaths = .ok paths ↔ options.Names paths := by
  rw [Options.corpusPaths]
  constructor
  · intro h
    split at h
    next htype =>
      split at h
      next person company hperson hcompany =>
        rw [given?_eq_some_iff] at hperson hcompany
        rw [← Except.ok.inj h]
        exact .generic htype hperson.1 hcompany.1 ⟨hperson.2, hcompany.2⟩
      next => cases h
    next htype =>
      split at h
      next input hinput =>
        rw [given?_eq_some_iff] at hinput
        rw [← Except.ok.inj h]
        exact .single htype hinput.1 hinput.2
      next => cases h
  · intro h
    cases h with
    | single htype hinput hne =>
      have hgiven := given?_eq_some_iff.2 ⟨hinput, hne⟩
      split
      next hgeneric => exact absurd hgeneric htype
      next => rw [hgiven]
    | generic htype hperson hcompany hne =>
      rw [htype, given?_eq_some_iff.2 ⟨hperson, hne.1⟩, given?_eq_some_iff.2 ⟨hcompany, hne.2⟩]

theorem missingPath?_eq_none_iff {files : Files} {paths : List String} :
    missingPath? files paths = none ↔ ∀ path ∈ paths, files.contains path = true := by
  rw [missingPath?, Option.map_eq_none_iff, List.find?_eq_none]
  simp

/-! ### The course of the command -/

/-- A command that is refused with one message, before its trainer is called. -/
structure Outcome.IsRefusal (outcome : Outcome) : Prop where
  status : outcome.status = .ok 1
  errors : ∃ message, outcome.output.errors = ["Error: " ++ message]
  start? : outcome.start? = none

theorem Outcome.isRefusal_refused (files : Files) (message : String) :
    (Outcome.refused files message).IsRefusal :=
  ⟨rfl, ⟨message, rfl⟩, rfl⟩

theorem Outcome.IsRefusal.after {outcome : Outcome} (h : outcome.IsRefusal) (lines : List String) :
    (outcome.after lines).IsRefusal :=
  ⟨h.status, h.errors, h.start?⟩

theorem exists_message_of_accept {α : Type} {a : α} {isBad : α → Bool} {message : String}
    {objection : Objection} (h : Numbers.accept (some a) isBad message = .error objection) :
    ∃ text, objection = .message text := by
  rw [Numbers.accept] at h
  split at h
  · exact ⟨message, (Except.error.inj h).symm⟩
  · cases h

/-- Numbers that are there are objected to with a message. -/
theorem exists_message_of_hyperparameters {numbers : Numbers} {c2 epsilon : Float}
    {maxIterations : Int} (hnumbers : numbers = ⟨some c2, some maxIterations, some epsilon⟩)
    {objection : Objection} (h : numbers.hyperparameters = .error objection) :
    ∃ text, objection = .message text := by
  rw [hnumbers, Numbers.hyperparameters] at h
  rcases error_of_bind h with hc2 | ⟨_, -, h⟩
  · exact exists_message_of_accept hc2
  rcases error_of_bind h with hmax | ⟨_, -, h⟩
  · exact exists_message_of_accept hmax
  rcases error_of_bind h with hepsilon | ⟨_, -, h⟩
  · exact exists_message_of_accept hepsilon
  · cases h

/-- What options ask for can be had: their numbers are accepted, and they name corpora that are
there, one behind the other. -/
structure Options.Asks (options : Options) (files : Files) (hyperparameters : Hyperparameters)
    (corpus : Corpus) : Prop where
  numbers : options.numbers.hyperparameters = .ok hyperparameters
  corpora : ∃ paths corpora, options.Names paths ∧ List.Forall₂ files.Holds paths corpora ∧
    corpora.flatten = corpus

/-- A run on corpora learns them one behind the other. -/
theorem exists_runOn (job : Job) (corpora : List Corpus) (files : Files) :
    ∃ messages, runOn job corpora files =
      (Training.run job corpora.flatten files).after messages := by
  unfold runOn
  split
  next first second =>
    rw [List.flatten_cons, List.flatten_cons, List.flatten_nil, List.append_nil]
    exact ⟨_, rfl⟩
  next => exact ⟨[], rfl⟩

section

variable {options : Options} {files : Files} (makeJob : Hyperparameters → Job)

/-- Where what options ask for can be had, the command reports a run on it. -/
theorem exists_report_of_asks {hyperparameters : Hyperparameters} {corpus : Corpus}
    (h : options.Asks files hyperparameters corpus) :
    ∃ run : Run, ∃ lines,
      run.result = (Training.run (makeJob hyperparameters) corpus files).result ∧
      run.start? = (Training.run (makeJob hyperparameters) corpus files).start? ∧
      train options makeJob files = (report run).after lines := by
  obtain ⟨hnumbers, paths, corpora, hpaths, hholds, rfl⟩ := h
  obtain ⟨messages, hrun⟩ := exists_runOn (makeJob hyperparameters) corpora files
  have hthere : missingPath? files paths = none := by
    rw [missingPath?_eq_none_iff]
    exact ((List.forall₂_and_left _ _).1 (hholds.imp fun _ _ h => ⟨h.contains, h⟩)).1
  refine ⟨(Training.run (makeJob hyperparameters) corpora.flatten files).after messages,
    options.heading paths ++ options.summaryLines corpora, rfl, rfl, ?_⟩
  simp only [train, hnumbers, corpusPaths_eq_ok_iff.2 hpaths, hthere, trainOn,
    loadCorpora_eq_ok_iff.2 hholds, hrun, Outcome.after, List.append_assoc]

/-- A command with all its numbers is refused, or what it asks for can be had. -/
theorem isRefusal_or_asks {c2 epsilon : Float} {maxIterations : Int}
    (hnumbers : options.numbers = ⟨some c2, some maxIterations, some epsilon⟩)
    (hlegible : files.IsLegible) :
    (train options makeJob files).IsRefusal ∨
      ∃ hyperparameters corpus, options.Asks files hyperparameters corpus := by
  rw [train]
  cases haccept : options.numbers.hyperparameters with
  | error objection =>
    obtain ⟨text, rfl⟩ := exists_message_of_hyperparameters hnumbers haccept
    exact .inl (Outcome.isRefusal_refused files text)
  | ok hyperparameters =>
    cases hpaths : options.corpusPaths with
    | error message => exact .inl (Outcome.isRefusal_refused files message)
    | ok paths =>
      simp only
      cases hmissing : missingPath? files paths with
      | some message => exact .inl (Outcome.isRefusal_refused files message)
      | none =>
        simp only [trainOn]
        cases hload : loadCorpora files paths with
        | error fault =>
          obtain ⟨path, hfault⟩ := exists_load_of_loadCorpora hload
          obtain ⟨message, hmessage⟩ := exists_loadObjection hlegible hfault
          simp only [hmessage]
          exact .inl ((Outcome.isRefusal_refused files message).after _)
        | ok corpora =>
          exact .inr ⟨hyperparameters, corpora.flatten, haccept, paths, corpora,
            corpusPaths_eq_ok_iff.1 hpaths, loadCorpora_eq_ok_iff.1 hload, rfl⟩

end

/-- What a run that came back comes to: a success prints no error, and anything else one. -/
theorem report_of_result {run : Run} {result : Result} (h : run.result = .ok result) :
    (result.success = true ∧ (report run).status = .ok 0 ∧ (report run).output.errors = []) ∨
    (result.success = false ∧ (report run).status = .ok 1 ∧
      ∃ message, (report run).output.errors = ["Error: " ++ message]) := by
  cases hsuccess : result.success with
  | true =>
    refine .inl ⟨rfl, ?_⟩
    simp only [report, h, hsuccess, if_true, and_self]
  | false =>
    refine .inr ⟨rfl, ?_⟩
    simp only [report, h, hsuccess, Bool.false_eq_true, if_false, true_and]
    exact ⟨_, rfl⟩

theorem start?_report (run : Run) : (report run).start? = run.start? := by
  rw [report]
  split
  · rfl
  · split <;> rfl

section

variable {options : Options} {files : Files} (makeJob : Hyperparameters → Job)

/-- Where what options ask for can be had, the exit status says whether the run on it is a
success. -/
theorem status_of_asks {hyperparameters : Hyperparameters} {corpus : Corpus}
    (h : options.Asks files hyperparameters corpus) {result : Result}
    (hresult : (Training.run (makeJob hyperparameters) corpus files).result = .ok result) :
    (result.success = true ∧ (train options makeJob files).status = .ok 0 ∧
      (train options makeJob files).output.errors = []) ∨
    (result.success = false ∧ (train options makeJob files).status = .ok 1 ∧
      ∃ message, (train options makeJob files).output.errors = ["Error: " ++ message]) := by
  obtain ⟨run, lines, hrun, -, hreport⟩ := exists_report_of_asks makeJob h
  rw [hreport]
  exact report_of_result (hrun.trans hresult)

/-- A trainer is called only if what the options ask for can be had, and then on that. -/
theorem exists_asks_of_start? {c2 epsilon : Float} {maxIterations : Int}
    (hnumbers : options.numbers = ⟨some c2, some maxIterations, some epsilon⟩)
    (hlegible : files.IsLegible) {start : Start}
    (hstart : (train options makeJob files).start? = some start) :
    ∃ hyperparameters corpus, options.Asks files hyperparameters corpus ∧
      prepare (makeJob hyperparameters).groups corpus =
        .ok (start.task.vocabulary, start.task.instances) ∧
      start.task.target = (makeJob hyperparameters).target ∧
      start.task.hyperparameters = (makeJob hyperparameters).hyperparameters := by
  rcases isRefusal_or_asks makeJob hnumbers hlegible with hrefusal | ⟨hyperparameters, corpus, h⟩
  · cases hrefusal.start?.symm.trans hstart
  · obtain ⟨run, lines, -, hrun, hreport⟩ := exists_report_of_asks makeJob h
    have hcalled : (Training.run (makeJob hyperparameters) corpus files).start? = some start := by
      rw [← hrun, ← start?_report, ← hstart, hreport]
      rfl
    have hne : corpus ≠ [] := by
      rintro rfl
      cases hcalled
    obtain ⟨_, vocabulary, instances, _, -, hprepare, htask, -, -⟩ :=
      exists_of_start?_run hne hcalled
    refine ⟨hyperparameters, corpus, h, ?_, ?_, ?_⟩ <;> rw [htask]
    exact hprepare

end

/-- The training command does not end with a fault if it has its numbers and a place for the model,
if every character reference in the files can be read, and if its trainer fails in no other way than
that of training.  Its exit status is zero if the run is a success, and then no error is printed;
otherwise it is one, and exactly one error is printed.  The trainer gets the instances of the
corpora that the options name, one behind the other, and only if there are such corpora. -/
theorem train_status {options : Options} {name : String} (houtput : options.output? = some name)
    {c2 epsilon : Float} {maxIterations : Int}
    (hnumbers : options.numbers = ⟨some c2, some maxIterations, some epsilon⟩)
    (groups : List String) {trainer? : Option Trainer}
    (htrainer : ∀ trainer ∈ trainer?, ∀ task files fault,
      (trainer task files).outcome = .error fault → isTrainingFailure fault = true)
    (processId : Nat) {files : Files} (hlegible : files.IsLegible) :
    let makeJob := jobOf options (.ofNames groups) trainer? processId
    let outcome := train options makeJob files
    (outcome.status = .ok 0 ∧ outcome.output.errors = [] ∨
      outcome.status = .ok 1 ∧ ∃ message, outcome.output.errors = ["Error: " ++ message]) ∧
    (outcome.status = .ok 0 ↔
      ∃ hyperparameters corpus result, options.Asks files hyperparameters corpus ∧
        (Training.run (makeJob hyperparameters) corpus files).result = .ok result ∧
        result.success = true) ∧
    ∀ start, outcome.start? = some start →
      ∃ hyperparameters corpus, options.Asks files hyperparameters corpus ∧
        prepare (.ofNames groups) corpus = .ok (start.task.vocabulary, start.task.instances) ∧
        start.task.target = .path name ∧ start.task.hyperparameters = hyperparameters := by
  intro makeJob outcome
  have hname (hyperparameters : Hyperparameters) :
      (makeJob hyperparameters).target = .path name := by
    show options.target = .path name
    rw [Options.target, houtput]
  have hreturns (hyperparameters : Hyperparameters) (corpus : Corpus) :
      ∃ result, (Training.run (makeJob hyperparameters) corpus files).result = .ok result :=
    exists_result_run (hname hyperparameters) (GroupChoice.names_ofNames groups) htrainer corpus
      files
  refine ⟨?_, ⟨fun hstatus => ?_, ?_⟩, fun start hstart => ?_⟩
  · rcases isRefusal_or_asks makeJob hnumbers hlegible with hrefusal | ⟨hyperparameters, corpus, h⟩
    · exact .inr ⟨hrefusal.status, hrefusal.errors⟩
    · obtain ⟨result, hresult⟩ := hreturns hyperparameters corpus
      exact (status_of_asks makeJob h hresult).imp And.right And.right
  · rcases isRefusal_or_asks makeJob hnumbers hlegible with hrefusal | ⟨hyperparameters, corpus, h⟩
    · cases hrefusal.status.symm.trans hstatus
    · obtain ⟨result, hresult⟩ := hreturns hyperparameters corpus
      refine ⟨hyperparameters, corpus, result, h, hresult, ?_⟩
      rcases status_of_asks makeJob h hresult with ⟨hsuccess, -⟩ | ⟨-, hone, -⟩
      · exact hsuccess
      · cases hone.symm.trans hstatus
  · rintro ⟨hyperparameters, corpus, result, h, hresult, hsuccess⟩
    rcases status_of_asks makeJob h hresult with ⟨-, hzero, -⟩ | ⟨hfailure, -⟩
    · exact hzero
    · rw [hsuccess] at hfailure
      cases hfailure
  · obtain ⟨hyperparameters, corpus, h, hprepare, htarget, hnumbers'⟩ :=
      exists_asks_of_start? makeJob hnumbers hlegible hstart
    exact ⟨hyperparameters, corpus, h, hprepare, htarget.trans (hname hyperparameters), hnumbers'⟩

/-! ### A corpus of one name -/

/-- Options that name a corpus and a place for the model. -/
def plainOptions : Options :=
  ⟨some "c", some "m", some .person, none, none, .of .defaults, false⟩

/-- The same, with the place of the model taken away. -/
def voidOptions : Options := { plainOptions with output? := none }

/-- A directory with a corpus of one name. -/
def plainFiles : Files := ⟨[], [(["c"], .file "<Name><A>x</A></Name>".toUTF8)], []⟩

theorem holds_plainFiles : plainFiles.Holds "c" [[⟨"x", "A"⟩]] :=
  Files.holds_of_read
    (Files.read_of_notMem rfl (by decide) (by decide) (by decide) (by decide) rfl rfl) rfl
    (by decide +kernel)

theorem isLegible_plainFiles : plainFiles.IsLegible := by
  intro path content text hread hdecode raw hraw
  -- there is only one file, so its items can be looked through
  have hcontent : content = "<Name><A>x</A></Name>".toUTF8 := by
    obtain ⟨place, -, hnode⟩ := Files.find_eq_ok_iff.1 (Files.find_of_read hread)
    rw [Files.node?] at hnode
    split at hnode
    · cases hnode
    · obtain ⟨before, behind, hentries, -⟩ := List.lookup_eq_some_iff.1 hnode
      have hentry : (place, Node.file content) ∈ plainFiles.nodes := by rw [hentries]; simp
      exact Node.file.inj (Prod.mk.inj (List.mem_singleton.1 hentry)).2
  rw [hcontent] at hdecode
  obtain rfl : "<Name><A>x</A></Name>" = text := Except.ok.inj hdecode
  refine Text.hasOverlongCode_of_notMem fun hamp => ?_
  obtain ⟨chars, hchars, hmem⟩ := hraw.exists_text hamp
  have hitems : ∀ item ∈ Corpus.itemsOf "<Name><A>x</A></Name>", ∀ chars, item = .text chars →
      '&' ∉ chars := by
    have hscan : Corpus.itemsOf "<Name><A>x</A></Name>" = [Corpus.openTag "Name",
        Corpus.openTag "A", .text ['x'], Corpus.closeTag "A", Corpus.closeTag "Name"] := by
      decide +kernel
    rw [hscan]
    simp [Corpus.openTag, Corpus.closeTag]
  exact hitems _ hchars chars rfl hmem

theorem asks_voidOptions : voidOptions.Asks plainFiles .defaults [[⟨"x", "A"⟩]] := by
  refine ⟨rfl, ["c"], [[[⟨"x", "A"⟩]]], .single ?_ rfl (by decide),
    .cons holds_plainFiles .nil, rfl⟩
  rintro ⟨⟩

/-- A corpus that its trainer cannot learn. -/
theorem train_status_failing :
    let outcome := train plainOptions (jobOf plainOptions (.ofNames Feature.Group.names)
      (some (.failing ⟨.runtime, "no memory left"⟩)) 1) plainFiles
    outcome.status = .ok 0 ∧ outcome.output.errors = [] ∨
      outcome.status = .ok 1 ∧ ∃ message, outcome.output.errors = ["Error: " ++ message] := by
  refine (train_status rfl rfl Feature.Group.names ?_ 1 isLegible_plainFiles).1
  rintro trainer ⟨⟩ task files fault hfault
  rw [← Except.error.inj hfault]
  rfl

/-- A long option with what is attached to it; the mark between options and values is taken away. -/
theorem run_long (progress : Progress) (adjacent : Bool) {flag : Flag} (hflag : flag.takesValue)
    (text : String) (rest : List Word) :
    progress.run adjacent (.long flag (some text) :: rest) =
      match progress.set flag (if text = separatorText then none else some text) with
      | .error stop => .error stop
      | .ok progress => progress.run false rest := by
  have hcluster : clusterOf? (.long flag (some text)) = some (.ok ⟨[], flag, some text⟩) := by
    rw [clusterOf?, ofLong, hflag]
    rfl
  have hvalue : Cluster.value ⟨[], flag, some text⟩ rest =
      .ok (if text = separatorText then none else some text, rest) := by
    unfold Cluster.value
    simp [hflag]
  rw [Progress.run]
  · rw [hcluster]
    dsimp only
    split
    next h => rw [hvalue] at h; cases h
    next h =>
      rw [hvalue] at h
      cases h
      rfl
  all_goals simp

/-- A value that is the mark between options and values is taken away. -/
theorem read_voidOptions : Options.read .defaults ["c", "--output=--"] = .ok voidOptions := by
  have hwords : readWords ["c", "--output=--"] = .ok [.value "c", .long .output (some "--")] := by
    decide +kernel
  have hmark : "--" = separatorText := rfl
  have hrun : (Progress.start .defaults).run false [.value "c", .long .output (some "--")] =
      .ok ⟨voidOptions, true, true, false⟩ := by
    rw [Progress.run, run_long _ _ rfl, if_pos hmark]
    change Progress.run ⟨voidOptions, true, true, false⟩ _ _ = _
    rw [Progress.run]
  rw [Options.read, hwords]
  simp only [bind, Except.bind, hrun]
  rfl

/-- Without a place for the model the command ends with a fault when its trainer has come back. -/
theorem train_status_void :
    Options.read .defaults ["c", "--output=--"] = .ok voidOptions ∧
      (train voidOptions (jobOf voidOptions (.ofNames Feature.Group.names)
        (some Engine.idle.trainer) 1) plainFiles).status = .error voidFault := by
  refine ⟨read_voidOptions, ?_⟩
  let makeJob := jobOf voidOptions (.ofNames Feature.Group.names) (some Engine.idle.trainer) 1
  let job : Job := makeJob .defaults
  let corpus : Corpus := [[⟨"x", "A"⟩]]
  have hne : corpus ≠ [] := List.cons_ne_nil _ _
  have htrainer : job.trainer? = some Engine.idle.trainer := rfl
  have hgroups : job.groups.names = .ok Feature.Group.names := GroupChoice.names_ofNames _
  have hfree : plainFiles.find job.target.lockPath = .error .missing :=
    Files.find_of_notMem rfl (by decide) (by decide) (by decide) (by decide)
  obtain ⟨taken, htake⟩ : ∃ taken, takeLock 1 job.target plainFiles = .ok taken :=
    exists_takeLock 1 rfl (by decide) (by decide) (by decide) hfree
  obtain ⟨task, hstart⟩ := exists_start?_run hne htrainer hgroups htake
  have hrelease : (releaseLock job.target taken).2 = .ok () :=
    (find_releaseLock (isRemovable_takeLock htake)).1
  obtain ⟨counts, hresult⟩ := result_run_of_return hne htrainer hstart hrelease rfl
  have hfault : (Training.run job corpus plainFiles).result = .error voidFault := hresult
  obtain ⟨run, lines, hrun, -, hreport⟩ := exists_report_of_asks makeJob asks_voidOptions
  have hrun : run.result = .error voidFault := hrun.trans hfault
  rw [hreport]
  show (report run).status = .error voidFault
  rw [report, hrun]

end Command

end NameTagger
