import NameTagger.Proofs.Command.Train
import NameTagger.Proofs.Decimal.Order
import NameTagger.Proofs.Model.Action
import NameTagger.Proofs.Settings.Load

/-!
# The numbers of a training command

The numbers of a command line, or else those of the settings, are checked before anything is read or
trained.  A number is objected to by a comparison that holds of bad ones, so that an undefined value
passes.

* `Hyperparameters.IsAdmitted`, `hyperparameters_eq_ok_iff`: the numbers that pass;
* `exists_objection_of_not_isAdmitted`: other numbers are objected to with a message;
* `exists_hyperparameters_of_start?`: a trainer is given the numbers that passed;
* `perform_numbers`: what the whole command makes of its numbers.
-/

namespace NameTagger

/-- The number of iterations is positive, the penalty is not negative and the threshold is positive,
or these are undefined. -/
structure Hyperparameters.IsAdmitted (h : Hyperparameters) : Prop where
  c2 : 0.0 ≤ h.c2 ∨ h.c2.isNaN = true
  maxIterations : 1 ≤ h.maxIterations
  epsilon : 0.0 < h.epsilon ∨ h.epsilon.isNaN = true

namespace Command

open Training

/-! ### The check -/

theorem accept_eq_ok_iff {α : Type} {number? : Option α} {isBad : α → Bool} {message : String}
    {a : α} :
    Numbers.accept number? isBad message = .ok a ↔ number? = some a ∧ isBad a = false := by
  cases number? with
  | none => exact iff_of_false nofun fun h => nomatch h.1
  | some b =>
    rw [Numbers.accept]
    constructor
    · intro h
      split at h
      · cases h
      next hgood =>
        obtain rfl := Except.ok.inj h
        exact ⟨rfl, Bool.eq_false_iff.2 hgood⟩
    · rintro ⟨heq, hgood⟩
      obtain rfl := Option.some.inj heq
      exact if_neg (Bool.eq_false_iff.1 hgood)

/-- Numbers are accepted just if they are all there and are admitted. -/
theorem hyperparameters_eq_ok_iff {numbers : Numbers} {h : Hyperparameters} :
    numbers.hyperparameters = .ok h ↔
      numbers = .of h ∧ h.algorithm = Hyperparameters.defaults.algorithm ∧ h.IsAdmitted := by
  obtain ⟨c2?, maxIterations?, epsilon?⟩ := numbers
  have hbad (p : Prop) [Decidable p] : decide p = false ↔ ¬p := decide_eq_false_iff_not
  constructor
  · intro hok
    obtain ⟨c2, hc2, hok⟩ := exists_of_bind_eq_ok hok
    obtain ⟨maxIterations, hmax, hok⟩ := exists_of_bind_eq_ok hok
    obtain ⟨epsilon, hepsilon, hok⟩ := exists_of_bind_eq_ok hok
    obtain rfl := Except.ok.inj hok
    rw [accept_eq_ok_iff, hbad] at hc2 hmax hepsilon
    obtain ⟨rfl, hc2⟩ := hc2
    obtain ⟨rfl, hmax⟩ := hmax
    obtain ⟨rfl, hepsilon⟩ := hepsilon
    have hpositive : 1 ≤ maxIterations := by omega
    exact ⟨rfl, rfl, (Decimal.not_lt_zero_iff c2).1 hc2, hpositive,
      (Decimal.not_le_zero_iff epsilon).1 hepsilon⟩
  · rintro ⟨hnumbers, halgorithm, hc2, hmax, hepsilon⟩
    have hc2' : Numbers.accept (some h.c2) (fun x => x < 0.0) "--c2 must not be negative" =
        .ok h.c2 :=
      accept_eq_ok_iff.2 ⟨rfl, (hbad _).2 ((Decimal.not_lt_zero_iff h.c2).2 hc2)⟩
    have hmax' : Numbers.accept (some h.maxIterations) (fun n => n ≤ 0)
        "--max-iter must be positive" = .ok h.maxIterations :=
      accept_eq_ok_iff.2 ⟨rfl, (hbad _).2 (by omega)⟩
    have hepsilon' : Numbers.accept (some h.epsilon) (fun x => x ≤ 0.0)
        "--epsilon must be positive" = .ok h.epsilon :=
      accept_eq_ok_iff.2 ⟨rfl, (hbad _).2 ((Decimal.not_le_zero_iff h.epsilon).2 hepsilon)⟩
    rw [hnumbers, Numbers.hyperparameters, Numbers.of, hc2', hmax', hepsilon']
    obtain ⟨c2, maxIterations, epsilon, algorithm⟩ := h
    obtain rfl : algorithm = Hyperparameters.defaults.algorithm := halgorithm
    rfl

/-- Numbers that are not admitted are objected to with a message. -/
theorem exists_objection_of_not_isAdmitted {numbers : Numbers} {h : Hyperparameters}
    (hnumbers : numbers = .of h) (hadmitted : ¬h.IsAdmitted) :
    ∃ message, numbers.hyperparameters = .error (.message message) := by
  cases haccept : numbers.hyperparameters with
  | error objection =>
    obtain ⟨text, rfl⟩ := exists_message_of_hyperparameters hnumbers haccept
    exact ⟨text, rfl⟩
  | ok accepted =>
    obtain ⟨heq, -, haccepted⟩ := hyperparameters_eq_ok_iff.1 haccept
    obtain ⟨hc2, hmax, hepsilon⟩ : h.c2 = accepted.c2 ∧ h.maxIterations = accepted.maxIterations ∧
        h.epsilon = accepted.epsilon := by
      simpa [Numbers.of] using hnumbers.symm.trans heq
    exact absurd ⟨by rw [hc2]; exact haccepted.c2, by rw [hmax]; exact haccepted.maxIterations,
      by rw [hepsilon]; exact haccepted.epsilon⟩ hadmitted

/-! ### The command -/

/-- A trainer is given the numbers that were accepted. -/
theorem exists_hyperparameters_of_start? {options : Options} {makeJob : Hyperparameters → Job}
    {files : Files} {start : Start} (h : (train options makeJob files).start? = some start) :
    ∃ hyperparameters, options.numbers.hyperparameters = .ok hyperparameters ∧
      start.task.hyperparameters = (makeJob hyperparameters).hyperparameters := by
  rw [train] at h
  split at h
  next objection _ => cases objection <;> cases h
  next hyperparameters haccept =>
    refine ⟨hyperparameters, haccept, ?_⟩
    split at h
    · cases h
    next paths _ =>
      split at h
      · cases h
      -- the corpora were loaded, and a run on them called the trainer
      have hloaded :
          (trainOn options (makeJob hyperparameters) paths files).start? = some start := h
      rw [trainOn] at hloaded
      split at hloaded
      · split at hloaded <;> cases hloaded
      next corpora _ =>
        obtain ⟨messages, hrun⟩ := exists_runOn (makeJob hyperparameters) corpora files
        have hcalled : (Training.run (makeJob hyperparameters) corpora.flatten files).start? =
            some start := by
          rw [← hloaded, hrun]
          exact (start?_report ((Training.run _ _ _).after messages)).symm
        have hne : corpora.flatten ≠ [] := by
          intro hnil
          rw [hnil] at hcalled
          cases hcalled
        obtain ⟨_, _, _, _, -, -, htask, -, -⟩ := exists_of_start?_run hne hcalled
        rw [htask]

/-- Where the command is carried out, its trainer is given numbers only if they were accepted; and
numbers that are not admitted are refused with a message, whatever the files hold, which stay as
they were when the settings had been read. -/
theorem perform_numbers {codec : Json.Codec} {env : Environment} {words : List String}
    {trainer? : Option Trainer} {processId : Nat} {files : Files} {outcome : Outcome}
    (h : perform codec env words trainer? processId files = .ran outcome) :
    ∃ files' loaded options groups, Settings.loadUser codec env files = (files', .ok loaded) ∧
      optionsOf loaded.settings words = .ok (.ok options, groups) ∧
      (∀ start, outcome.start? = some start →
        options.numbers = .of start.task.hyperparameters ∧
          start.task.hyperparameters.IsAdmitted) ∧
      ∀ hyperparameters : Hyperparameters, options.numbers = .of hyperparameters →
        ¬hyperparameters.IsAdmitted →
          ∃ message, outcome = .refused files' message ∧
            ∀ makeJob other, train options makeJob other = .refused other message := by
  rw [perform] at h
  split at h
  · cases h
  next files' loaded hload =>
    split at h
    · cases h
    · cases h
    next options groups hoptions =>
      obtain rfl := Ending.ran.inj h
      refine ⟨files', loaded, options, groups, hload, hoptions, fun start hstart => ?_,
        fun hyperparameters hnumbers hadmitted => ?_⟩
      · obtain ⟨hyperparameters, haccept, htask⟩ := exists_hyperparameters_of_start? hstart
        obtain ⟨hnumbers, -, hadmitted⟩ := hyperparameters_eq_ok_iff.1 haccept
        have hsame : start.task.hyperparameters = hyperparameters := htask
        rw [hsame]
        exact ⟨hnumbers, hadmitted⟩
      · obtain ⟨message, hobjection⟩ := exists_objection_of_not_isAdmitted hnumbers hadmitted
        have hrefused (makeJob : Hyperparameters → Job) (other : Files) :
            train options makeJob other = .refused other message := by
          rw [train, hobjection]
          rfl
        exact ⟨message, hrefused _ _, hrefused⟩

/-! ### A user with an empty file of settings -/

/-- A user who has chosen a directory for settings. -/
def configuredUser : Environment := ⟨some "s", "h", []⟩

/-- A corpus of one name, and settings without content, for which the defaults stand in. -/
def configuredFiles : Files :=
  ⟨[], [(["c"], .file "<Name><A>x</A></Name>".toUTF8), (["s"], .directory),
    (["s", "crfname-ner"], .directory), (["s", "crfname-ner", "config.json"], .file "".toUTF8)], []⟩

theorem read_configuredFiles :
    configuredFiles.read configuredUser.userFile = .ok "".toUTF8 := by
  have hname : configuredUser.userFile = "s/crfname-ner/config.json" := by cbv
  have hparts : Path.parts "s/crfname-ner/config.json" = ["s", "crfname-ner", "config.json"] := by
    decide +kernel
  have horigin : configuredFiles.origin "s/crfname-ner/config.json" = [] := by
    rw [Files.origin]
    split <;> rfl
  have hlocate : configuredFiles.locate "s/crfname-ner/config.json" =
      .ok ["s", "crfname-ner", "config.json"] := by
    refine Files.locate_eq_ok_iff.2 ⟨by simp, by decide, by decide, ?_⟩
    rw [hparts, horigin]
    rfl
  rw [hname]
  exact Files.read_eq_ok_iff.2 (Files.look_eq_ok_iff.2 ⟨_, hlocate, rfl, rfl⟩)

theorem loadUser_configured : ∃ loaded,
    Settings.loadUser .standard configuredUser configuredFiles = (configuredFiles, .ok loaded) ∧
      loaded.settings = Settings.defaults := by
  have hempty (given : Settings) : Json.Codec.standard.read "".toUTF8 ≠ .ok (.obj given) := by
    have hparse : Json.parse "" = .error .ended := by cbv
    rw [ne_eq, Json.Codec.read_standard_eq_ok_iff, Json.ofBytes_toUTF8, hparse]
    intro hempty
    cases hempty
  obtain ⟨loaded, hcontent, hdefaults, -⟩ :=
    Settings.ofContent_other configuredUser configuredUser.userFile hempty
  refine ⟨loaded, ?_, hdefaults⟩
  rw [Settings.loadUser, Settings.load_of_read configuredUser read_configuredFiles, hcontent]

theorem optionsOf_defaults (words : List String) : optionsOf Settings.defaults words =
    .ok (Options.read .defaults words, .ofNames Feature.Group.names) := rfl

/-- The command is carried out with the defaults. -/
theorem perform_configured {words : List String} {options : Options}
    (hread : Options.read .defaults words = .ok options) (trainer? : Option Trainer) :
    perform .standard configuredUser words trainer? 1 configuredFiles =
      .ran (train options (jobOf options (.ofNames Feature.Group.names) trainer? 1)
        configuredFiles) := by
  obtain ⟨loaded, hload, hdefaults⟩ := loadUser_configured
  rw [perform, hload]
  simp only [hdefaults, optionsOf_defaults, hread]

/-- A command line that names a corpus and a place for the model, with one more option. -/
theorem read_of_words {words : List String} {flag : Flag} {text : String} {options : Options}
    (hwords : readWords words =
      .ok [.value "c", .long .output (some "m"), .long flag (some text)])
    (hflag : flag.takesValue = true) (htext : text ≠ separatorText)
    (happly : Progress.apply plainOptions flag (some text) = .ok options) :
    Options.read .defaults words = .ok options := by
  have hplain : "m" ≠ separatorText := by decide
  have hrun : (Progress.start .defaults).run false
      [.value "c", .long .output (some "m"), .long flag (some text)] =
        .ok ⟨options, true, true, false⟩ := by
    rw [Progress.run, run_long _ _ rfl, if_neg hplain]
    change Progress.run ⟨plainOptions, true, true, false⟩ _ _ = _
    rw [run_long _ _ hflag, if_neg htext, Progress.set, happly]
    change Progress.run ⟨options, true, true, false⟩ _ _ = _
    rw [Progress.run]
  rw [Options.read, hwords]
  dsimp only [bind, Except.bind]
  rw [hrun]
  rfl

/-- Without an iteration the command is refused, and the trainer is not called. -/
theorem perform_numbers_zero :
    ∃ outcome, perform .standard configuredUser ["c", "--output=m", "--max-iter=0"]
        (some Engine.idle.trainer) 1 configuredFiles = .ran outcome ∧
      outcome.status = .ok 1 ∧ outcome.start? = none ∧ outcome.files = configuredFiles := by
  have hwords : readWords ["c", "--output=m", "--max-iter=0"] =
      .ok [.value "c", .long .output (some "m"), .long .maxIterations (some "0")] := by
    decide +kernel
  have hread := read_of_words hwords rfl (by decide) rfl
  have hperform := perform_configured hread (some Engine.idle.trainer)
  obtain ⟨files', loaded, options, groups, hload, hoptions, -, hrefused⟩ :=
    perform_numbers hperform
  obtain ⟨loaded', hload', hdefaults⟩ := loadUser_configured
  obtain ⟨rfl, hloaded⟩ := Prod.mk.inj (hload'.symm.trans hload)
  obtain rfl := Except.ok.inj hloaded
  rw [hdefaults, optionsOf_defaults, hread] at hoptions
  have hnumbers : options.numbers = .of { Hyperparameters.defaults with maxIterations := 0 } := by
    simp only [Except.ok.injEq, Prod.mk.injEq] at hoptions
    rw [← hoptions.1]
    rfl
  obtain ⟨message, houtcome, -⟩ :=
    hrefused _ hnumbers fun hadmitted => absurd hadmitted.maxIterations (by decide)
  exact ⟨_, hperform, by rw [houtcome]; rfl, by rw [houtcome]; rfl, by rw [houtcome]; rfl⟩

/-- Options with an undefined weight of the penalty. -/
def undefinedOptions : Options :=
  { plainOptions with numbers := ⟨some (0.0 / 0.0), some 100, some 0.0001⟩ }

/-- What they ask for can be had. -/
theorem asks_undefinedOptions : undefinedOptions.Asks configuredFiles
    { Hyperparameters.defaults with c2 := 0.0 / 0.0 } [[⟨"x", "A"⟩]] := by
  have hcorpus : configuredFiles.Holds "c" [[⟨"x", "A"⟩]] :=
    Files.holds_of_read
      (Files.read_of_notMem rfl (by decide) (by decide) (by decide) (by decide) rfl rfl) rfl
      (by decide +kernel)
  refine ⟨hyperparameters_eq_ok_iff.2 ⟨rfl, rfl, ?_⟩, ["c"], [[[⟨"x", "A"⟩]]],
    .single nofun rfl (by decide), .cons hcorpus .nil, rfl⟩
  exact ⟨.inr (by decide +kernel), by decide, .inl (by decide +kernel)⟩

/-- An undefined weight of the penalty is handed to the trainer. -/
theorem perform_undefined :
    ∃ outcome start, perform .standard configuredUser ["c", "--output=m", "--c2=nan"]
        (some Engine.idle.trainer) 1 configuredFiles = .ran outcome ∧
      outcome.start? = some start ∧ ¬0.0 ≤ start.task.hyperparameters.c2 := by
  have hwords : readWords ["c", "--output=m", "--c2=nan"] =
      .ok [.value "c", .long .output (some "m"), .long .c2 (some "nan")] := by decide +kernel
  have hread : Options.read .defaults ["c", "--output=m", "--c2=nan"] = .ok undefinedOptions :=
    read_of_words hwords rfl (by decide) rfl
  let makeJob := jobOf undefinedOptions (.ofNames Feature.Group.names) (some Engine.idle.trainer) 1
  let hyperparameters : Hyperparameters := { Hyperparameters.defaults with c2 := 0.0 / 0.0 }
  let corpus : Corpus := [[⟨"x", "A"⟩]]
  have hne : corpus ≠ [] := List.cons_ne_nil _ _
  have hfree : configuredFiles.find "m.lock" = .error .missing :=
    Files.find_of_notMem rfl (by decide) (by decide) (by decide) (by decide)
  obtain ⟨taken, htake⟩ : ∃ taken, takeLock 1 (.path "m") configuredFiles = .ok taken :=
    exists_takeLock 1 rfl (by decide) (by decide) (by decide) hfree
  have hgroups : (makeJob hyperparameters).groups.names = .ok Feature.Group.names :=
    GroupChoice.names_ofNames _
  obtain ⟨task, hcalled⟩ := exists_start?_run hne rfl hgroups htake
  obtain ⟨run, lines, -, hrun, hreport⟩ := exists_report_of_asks makeJob asks_undefinedOptions
  have hstart : (train undefinedOptions makeJob configuredFiles).start? = some ⟨task, taken⟩ := by
    rw [← hcalled, hreport]
    exact (start?_report run).trans hrun
  refine ⟨_, _, perform_configured hread (some Engine.idle.trainer), hstart, ?_⟩
  obtain ⟨accepted, haccept, htask⟩ := exists_hyperparameters_of_start? hstart
  obtain rfl := Except.ok.inj (asks_undefinedOptions.numbers.symm.trans haccept)
  have hundefined : task.hyperparameters.c2 = 0.0 / 0.0 := congrArg Hyperparameters.c2 htask
  show ¬0.0 ≤ task.hyperparameters.c2
  rw [hundefined]
  decide +kernel

end Command

end NameTagger
