import Mathlib.Data.Finset.Card
import NameTagger.Proofs.Corpus.Load
import NameTagger.Proofs.Corpus.Stats
import NameTagger.Proofs.Training.Product
import NameTagger.Training.Pipeline

/-!
# What a training run counts

A run counts while it builds instances: names, tokens, features and labels.  What it counts is what
the statistics of its corpus tell, which are worked out from the corpus alone.

* `Counts.Agrees`: counts that agree with a corpus;
* `of_prepare`, `agrees_countsOf`: the vocabulary and the instances of a corpus, and their counts;
* `counts_run`, `task_of_start?_run`: the counts of a run, and what its trainer is given;
* `runFiles_of_holds`: a run on two files;
* `run_counts`: all of this, with the numbers of two corpora together.
-/

namespace NameTagger.Training

/-- Counts of a run that agree with a corpus. -/
structure Counts.Agrees (counts : Counts) (groups : List String) (corpus : Corpus) : Prop where
  sequences : counts.sequences = corpus.stats.sequences
  instances : counts.instances = corpus.stats.sequences
  tokens : counts.tokens = corpus.stats.tokens
  total : counts.tokens = corpus.stats.labelCounts.total
  labels : counts.labels = corpus.stats.labelCounts.length
  /-- Each name of a feature counts once. -/
  attrs : counts.attrs = (Vocabulary.featureNames Float groups corpus).toFinset.card

theorem Counts.agrees_zero (groups : List String) : Counts.zero.Agrees groups [] :=
  ⟨rfl, rfl, rfl, rfl, rfl, rfl⟩

/-! ### Instances of a corpus -/

section

variable {choice : GroupChoice} {groups : List String} (hgroups : choice.names = .ok groups)
  {corpus : Corpus} {vocabulary : Vocabulary} {instances : List (Instance Float)}
  (hprepare : prepare choice corpus = .ok (vocabulary, instances))
include hgroups hprepare

theorem of_prepare :
    Vocabulary.empty.Absorbs (Vocabulary.featureNames Float groups corpus) corpus.labels
        vocabulary ∧
      List.Forall₂ (fun inst sequence => inst.Renders vocabulary
        (Feature.extractAll (Vocabulary.cells sequence) groups) sequence.labels)
        instances corpus := by
  obtain ⟨vocabulary', instances', hlearn, habsorbs, hinstances⟩ :=
    Vocabulary.learnFrom_growing (W := Float) Vocabulary.isGrowing_empty groups #[] corpus
  have hcorpus : Vocabulary.empty.learnCorpus corpus groups = (vocabulary', .ok instances') := by
    rw [Vocabulary.learnCorpus, hlearn, List.nil_append]
  simp only [prepare, hgroups, bind, Except.bind, hcorpus] at hprepare
  obtain ⟨rfl, rfl⟩ := Prod.mk.inj (Except.ok.inj hprepare)
  exact ⟨habsorbs, hinstances⟩

/-- Labels are numbered in the order in which the statistics list them. -/
theorem strings_labels_of_prepare :
    vocabulary.labels.strings = corpus.stats.labelCounts.map (·.1) := by
  rw [(of_prepare hgroups hprepare).1.labels.strings_of_empty, Corpus.stats,
    Corpus.Counts.map_fst_ofList]

/-- An instance has an item for each token of its name. -/
theorem map_size_of_prepare : instances.map Instance.size = corpus.map List.length := by
  have hsizes := (of_prepare hgroups hprepare).2.imp fun inst sequence hinst => by
    have hlength := hinst.items.length_eq
    rwa [Feature.length_extractAll, Vocabulary.length_cells] at hlength
  rw [← List.forall₂_eq_eq_eq, List.forall₂_map_left_iff, List.forall₂_map_right_iff]
  exact hsizes

theorem agrees_countsOf : (countsOf corpus vocabulary instances).Agrees groups corpus where
  sequences := rfl
  instances := (of_prepare hgroups hprepare).2.length_eq
  tokens := congrArg (List.foldr (· + ·) 0) (map_size_of_prepare hgroups hprepare)
  total := by
    rw [Corpus.total_stats]
    exact congrArg (List.foldr (· + ·) 0) (map_size_of_prepare hgroups hprepare)
  labels := by
    have hlength := congrArg List.length (strings_labels_of_prepare hgroups hprepare)
    rwa [Lexicon.length_strings, List.length_map] at hlength
  attrs := by
    have hstrings := (of_prepare hgroups hprepare).1.attrs.strings_of_empty
    have hnames : vocabulary.attrs.strings.toFinset =
        (Vocabulary.featureNames Float groups corpus).toFinset := by
      ext name
      rw [hstrings, List.mem_toFinset, List.mem_toFinset, List.mem_eraseDups]
    rw [← hnames, List.toFinset_card_of_nodup (Lexicon.nodup_strings _), Lexicon.length_strings]
    rfl

end

/-! ### Runs -/

/-- Whatever the trainer comes to, a result has the counts of the instances. -/
theorem counts_conclude {counts : Counts} {target : Target} {work : Work} {result : Result}
    (h : (conclude (.ofCounts counts) target work).result = .ok result) :
    result.counts = counts := by
  obtain ⟨seconds, product, rfl⟩ := exists_product_of_conclude h
  exact Result.counts_of counts seconds product

section

variable {job : Job} {trainer : Trainer} (htrainer : job.trainer? = some trainer)
  {corpus : Corpus} {files : Files}
include htrainer

theorem counts_run_of_prepare (hne : corpus ≠ []) {vocabulary : Vocabulary}
    {instances : List (Instance Float)}
    (hprepare : prepare job.groups corpus = .ok (vocabulary, instances)) {result : Result}
    (h : (run job corpus files).result = .ok result) :
    result.counts = countsOf corpus vocabulary instances := by
  rcases run_cases job hne files with ⟨hnone, -⟩ | ⟨fault, messages, hfault, -⟩ |
    ⟨called, vocabulary', instances', messages, -, hprepare', hrun⟩
  · rw [hnone] at htrainer
    cases htrainer
  · rw [hprepare] at hfault
    cases hfault
  · obtain ⟨rfl, rfl⟩ := Prod.mk.inj (Except.ok.inj (hprepare.symm.trans hprepare'))
    rw [hrun, Run.after] at h
    exact counts_conclude h

/-- A trainer is given the instances and the vocabulary of the corpus. -/
theorem task_of_start?_run (hne : corpus ≠ []) {vocabulary : Vocabulary}
    {instances : List (Instance Float)}
    (hprepare : prepare job.groups corpus = .ok (vocabulary, instances)) {start : Start}
    (h : (run job corpus files).start? = some start) :
    start.task = ⟨instances, vocabulary, job.target, job.hyperparameters⟩ := by
  rw [start?_run htrainer hne hprepare, Option.map_eq_some_iff] at h
  obtain ⟨taken, -, rfl⟩ := h
  rfl

/-- The counts of a run agree with its corpus, also if there is nothing to learn. -/
theorem agrees_run {groups : List String} (hgroups : job.groups.names = .ok groups)
    {result : Result} (h : (run job corpus files).result = .ok result) :
    result.counts.Agrees groups corpus := by
  by_cases hne : corpus = []
  · subst hne
    obtain rfl := Except.ok.inj h
    exact Counts.agrees_zero groups
  · obtain ⟨vocabulary, instances, hprepare, -⟩ := prepare_ofNames groups corpus
    rw [← prepare_of_names hgroups] at hprepare
    rw [counts_run_of_prepare htrainer hne hprepare h]
    exact agrees_countsOf hgroups hprepare

end

/-- Two files with corpora make a run on both of them. -/
theorem runFiles_of_holds (job : Job) {personPath companyPath : String} {files : Files}
    {person company : Corpus} (hperson : files.Holds personPath person)
    (hcompany : files.Holds companyPath company) :
    (runFiles job personPath companyPath files).loaded? =
        some ⟨Corpus.stats (person ++ company),
          some (person.stats.sequences, company.stats.sequences)⟩ ∧
      (runFiles job personPath companyPath files).run.result =
        (run job (person ++ company) files).result := by
  rw [runFiles, Corpus.load_eq_ok_iff.2 hperson, Corpus.load_eq_ok_iff.2 hcompany]
  exact ⟨rfl, rfl⟩

/-- Every corpus can be prepared.  The counts of a run with a trainer then agree with the statistics
of the corpus, and the labels that the trainer is given are those that the statistics list, in their
order.  The run comes back, unless it has no place for the model or its trainer fails in another way
than that of training.  The statistics of two corpora add up, and so do the numbers of names that a
run on two files tells. -/
theorem run_counts {job : Job} {trainer : Trainer} (htrainer : job.trainer? = some trainer)
    {groups : List String} (hgroups : job.groups.names = .ok groups) :
    (∀ (corpus : Corpus) (files : Files), corpus ≠ [] → ∃ vocabulary instances,
      prepare job.groups corpus = .ok (vocabulary, instances) ∧
      vocabulary.labels.strings = corpus.stats.labelCounts.map (·.1) ∧
      (countsOf corpus vocabulary instances).Agrees groups corpus ∧
      (∀ result, (run job corpus files).result = .ok result →
        result.counts = countsOf corpus vocabulary instances) ∧
      ∀ start, (run job corpus files).start? = some start →
        start.task = ⟨instances, vocabulary, job.target, job.hyperparameters⟩) ∧
    (∀ (name : String) (corpus : Corpus) (files : Files), job.target = .path name →
      (∀ task files fault, (trainer task files).outcome = .error fault →
        isTrainingFailure fault = true) →
      ∃ result, (run job corpus files).result = .ok result) ∧
    (∀ a b : Corpus, (Corpus.stats (a ++ b)).Adds a.stats b.stats) ∧
    ∀ (personPath companyPath : String) (files : Files) (person company : Corpus),
      files.Holds personPath person → files.Holds companyPath company →
      let pipeline := runFiles job personPath companyPath files
      let stats := Corpus.stats (person ++ company)
      pipeline.loaded? = some ⟨stats, some (person.stats.sequences, company.stats.sequences)⟩ ∧
      person.stats.sequences + company.stats.sequences = stats.sequences ∧
      pipeline.run.result = (run job (person ++ company) files).result ∧
      ∀ result, pipeline.run.result = .ok result →
        result.counts.Agrees groups (person ++ company) := by
  refine ⟨fun corpus files hne => ?_, fun name corpus files hname hfails => ?_,
    Corpus.stats_append, fun personPath companyPath files person company hperson hcompany => ?_⟩
  · obtain ⟨vocabulary, instances, hprepare, -⟩ := prepare_ofNames groups corpus
    rw [← prepare_of_names hgroups] at hprepare
    exact ⟨vocabulary, instances, hprepare, strings_labels_of_prepare hgroups hprepare,
      agrees_countsOf hgroups hprepare,
      fun _ => counts_run_of_prepare htrainer hne hprepare,
      fun _ => task_of_start?_run htrainer hne hprepare⟩
  · refine exists_result_run hname hgroups (fun called hcalled => ?_) corpus files
    obtain rfl := Option.some.inj (htrainer.symm.trans hcalled)
    exact hfails
  · obtain ⟨hloaded, hresult⟩ := runFiles_of_holds job hperson hcompany
    refine ⟨hloaded, (Corpus.stats_append person company).sequences.symm, hresult, ?_⟩
    intro result h
    rw [hresult] at h
    exact agrees_run htrainer hgroups h

/-- A corpus with a name that has no tokens, and two files of one name each. -/
theorem run_counts_empty_name :
    let job : Job := ⟨.path "m", .defaults, .all, some Engine.idle.trainer, 1⟩
    let corpus : Corpus := [[⟨"Mr.", "Title"⟩, ⟨"Lee", "Surname"⟩], [], [⟨"Kim", "Surname"⟩]]
    let files : Files := ⟨[], [(["p"], .file "<Name><A>x</A></Name>".toUTF8),
      (["c"], .file "<Name><B>y</B></Name>".toUTF8)], []⟩
    (∃ result, (run job corpus (.empty [])).result = .ok result ∧ result.counts.sequences = 3 ∧
      result.counts.instances = 3 ∧ result.counts.tokens = 3 ∧ result.counts.labels = 2) ∧
    (runFiles job "p" "c" files).loaded? = some ⟨⟨2, 2, [("A", 1), ("B", 1)]⟩, some (1, 1)⟩ ∧
    ∃ result, (runFiles job "p" "c" files).run.result = .ok result ∧
      result.counts.instances = 2 := by
  intro job corpus files
  have hgroups : job.groups.names = .ok Feature.Group.names := GroupChoice.names_ofNames _
  have htrainer : job.trainer? = some Engine.idle.trainer := rfl
  have hfails (task : Task) (files : Files) (fault : Fault)
      (h : (Engine.idle.trainer task files).outcome = .error fault) :
      isTrainingFailure fault = true := nomatch h
  obtain ⟨hcounts, hreturns, -, hfiles⟩ := run_counts htrainer hgroups
  have hperson : files.Holds "p" [[⟨"x", "A"⟩]] :=
    Files.holds_of_read
      (Files.read_of_notMem rfl (by decide) (by decide) (by decide) (by decide) rfl rfl)
      rfl (by decide +kernel)
  have hcompany : files.Holds "c" [[⟨"y", "B"⟩]] :=
    Files.holds_of_read
      (Files.read_of_notMem rfl (by decide) (by decide) (by decide) (by decide) rfl rfl)
      rfl (by decide +kernel)
  obtain ⟨hloaded, -, hrun, hboth⟩ := hfiles "p" "c" files _ _ hperson hcompany
  constructor
  · obtain ⟨vocabulary, instances, -, -, hagrees, hresult, -⟩ :=
      hcounts corpus (.empty []) (List.cons_ne_nil _ _)
    obtain ⟨result, h⟩ := hreturns "m" corpus (.empty []) rfl hfails
    refine ⟨result, h, ?_⟩
    rw [hresult result h]
    exact ⟨hagrees.sequences, hagrees.instances, hagrees.tokens, hagrees.labels⟩
  · obtain ⟨result, h⟩ := hreturns "m" _ files rfl hfails
    exact ⟨hloaded, result, hrun.trans h, (hboth result (hrun.trans h)).instances⟩

end NameTagger.Training
