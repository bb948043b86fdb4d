import NameTagger.Proofs.Files.Walk
import NameTagger.Proofs.Json.Codec
import NameTagger.Proofs.Settings.Proper
import NameTagger.Settings.Store

/-!
# Settings from a file

Whatever a file holds, loading it gives settings, and leaves all files as they are.

* `newline_notMem_warnings`: the warnings about the defaults;
* `ofContent_object`, `ofContent_other`: the content of a file by what it denotes;
* `load_of_read`, `load_of_look`: what loading a file comes to.
-/

namespace NameTagger

namespace Settings

/-- The keys of the defaults in the order in which warnings name them. -/
example : (Json.obj defaults).inside.map (fun entry => String.intercalate "." entry.1) =
    ["models", "default_model", "cache_enabled", "training", "training.c2",
      "training.max_iterations", "training.epsilon", "feature_groups"] := by
  decide +kernel

/-- A message with a key and a file in it is on one line, if all its parts are. -/
theorem newline_notMem_message {head key middle file tail : String} (hhead : '\n' ∉ head.toList)
    (hkey : '\n' ∉ key.toList) (hmiddle : '\n' ∉ middle.toList) (hfile : '\n' ∉ file.toList)
    (htail : '\n' ∉ tail.toList) : '\n' ∉ (head ++ key ++ middle ++ file ++ tail).toList := by
  simp only [String.toList_append, List.mem_append, not_or]
  exact ⟨⟨⟨⟨hhead, hkey⟩, hmiddle⟩, hfile⟩, htail⟩

/-- Every warning is on one line, if the name of the file is. -/
theorem newline_notMem_warnings {file : String} (hfile : '\n' ∉ file.toList) {given : Json}
    {line : String} (hline : line ∈ warnings file (.obj defaults) given) : '\n' ∉ line.toList := by
  have hkeys : ∀ entry ∈ (Json.obj defaults).inside,
      '\n' ∉ (String.intercalate "." entry.1).toList := by
    decide +kernel
  obtain ⟨entry, hentry, hwarning⟩ := List.mem_filterMap.1 hline
  have hkey := hkeys entry hentry
  rw [warningAt?] at hwarning
  split at hwarning
  · rw [String.empty_append] at hwarning
    generalize given.at? entry.1 = value? at hwarning
    cases value? with
    | none =>
      rw [← Option.some.inj hwarning]
      exact newline_notMem_message (by decide) hkey (by decide) hfile (by decide)
    | some value =>
      rw [warning?] at hwarning
      split at hwarning
      · cases hwarning
      · rw [← Option.some.inj hwarning]
        exact newline_notMem_message (by decide) hkey (by decide) hfile (by decide)
  · cases hwarning

section

variable {codec : Json.Codec} (env : Environment) (path : String) {content : ByteArray}

theorem ofContent_object {given : Settings} (hread : codec.read content = .ok (.obj given))
    (hproper : (Json.obj given).Proper) :
    ofContent codec env path content = .ok
      ⟨(completedFields env.userFile "" defaults given).1,
        String.intercalate "\n" (warnings env.userFile (.obj defaults) (.obj given))⟩ := by
  have hwarnings := snd_completedFields env.userFile "" defaults distinctKeys_defaults given
  rw [ofContent, hread]
  simp only [complete_of_proper hproper, completed, hwarnings, Except.map]
  rfl

/-- Content that is malformed, or does not denote an object, counts for nothing. -/
theorem ofContent_other (h : ∀ given, codec.read content ≠ .ok (.obj given)) :
    ∃ loaded, ofContent codec env path content = .ok loaded ∧
      loaded.settings = defaults ∧ loaded.warnings ≠ "" := by
  rw [ofContent]
  split
  next message _ => exact ⟨_, rfl, rfl, by simp⟩
  next given hgiven => exact absurd hgiven (h given)
  next => exact ⟨_, rfl, rfl, by simp⟩

/-- The settings in a file that can be read are those that its content gives. -/
theorem load_of_read {files : Files} {path : String} (h : files.read path = .ok content) :
    load codec env files path = (files, ofContent codec env path content) := by
  rw [load, if_pos (Files.contains_of_read h), h]

end

theorem covers_self (default : Json) : Covers default default :=
  fun {_ inner} h => ⟨inner, h, rfl⟩

/-- Loading a file that is not closed gives settings for whatever it holds, and leaves the files as
they are.  No binary number among the settings is infinite, so that no integer was too large. -/
theorem load_of_look {codec : Json.Codec} (hcodec : codec.ReadsProper) (env : Environment)
    (files : Files) (path : String) (content : ByteArray)
    (hfile : files.look path = .ok (.file content)) :
    ∃ loaded, load codec env files path = (files, .ok loaded) ∧
      Covers (.obj defaults) (.obj loaded.settings) ∧ (Json.obj loaded.settings).Proper ∧
      (∀ given, codec.read content = .ok (.obj given) →
        IsCompletion (.obj defaults) (.obj given) (.obj loaded.settings) ∧
        loaded.warnings =
          String.intercalate "\n" (warnings env.userFile (.obj defaults) (.obj given)) ∧
        ('\n' ∉ env.userFile.toList →
          ∀ line ∈ warnings env.userFile (.obj defaults) (.obj given), '\n' ∉ line.toList)) ∧
      ((∀ given, codec.read content ≠ .ok (.obj given)) →
        loaded.settings = defaults ∧ loaded.warnings ≠ "") := by
  rw [load_of_read env (Files.read_eq_ok_iff.2 hfile)]
  by_cases h : ∃ given, codec.read content = .ok (.obj given)
  · obtain ⟨given, hread⟩ := h
    have hproper := hcodec content (.obj given) hread
    -- settings that were read are completed as the value of a key would be
    have hsettled : Settled env.userFile "" "" (.obj defaults) (some (.obj given)) _ :=
      .filled _ _ given
    have hcompletion := hsettled.isCompletion distinctKeys_defaults
    refine ⟨_, by rw [ofContent_object env path hread hproper], hcompletion.covers,
      proper_completed hproper env.userFile, fun given' hgiven => ?_,
      fun hother => absurd hread (hother given)⟩
    cases hread.symm.trans hgiven
    exact ⟨hcompletion, rfl, fun hline _ => newline_notMem_warnings hline⟩
  · have hother := not_exists.1 h
    obtain ⟨loaded, hcontent, hsettings, hwarnings⟩ := ofContent_other env path hother
    refine ⟨loaded, by rw [hcontent], ?_, ?_, fun given hgiven => absurd hgiven (hother given),
      fun _ => ⟨hsettings, hwarnings⟩⟩
    · rw [hsettings]
      exact covers_self _
    · rw [hsettings]
      exact proper_defaults

/-! ### A file alone -/

/-- A file in the working directory, and nothing else. -/
def alone (content : ByteArray) : Files := ⟨[], [(["rc"], .file content)], []⟩

theorem look_alone (content : ByteArray) : (alone content).look "rc" = .ok (.file content) := by
  cbv

theorem makeDirectories_alone (content : ByteArray) :
    (alone content).makeDirectories (directoryFor "rc") = (alone content, .ok ()) := by
  cbv

theorem write_alone (old content : ByteArray) :
    (alone old).write "rc" content = .ok (alone content) := by
  cbv

/-- Settings with an integer for a binary number, a key of their own and a value that does not
fit. -/
def partialSettings : Settings :=
  [("training", .obj [("c2", .int 3), ("beta", .int 0)]), ("cache_enabled", .int 1)]

/-- How they may be written. -/
def partialText : String :=
  "\x7b\x22training\x22:\x7b\x22c2\x22:3,\x22beta\x22:0\x7d,\x22cache_enabled\x22:1\x7d"

/-- The file of that text alone. -/
def partialFiles : Files := ⟨[], [(["rc"], .file partialText.toUTF8)], []⟩

/-- A user who has chosen a directory for settings. -/
def chosenHome : Environment := ⟨some "settings", "home", []⟩

theorem read_partialText :
    Json.Codec.standard.read partialText.toUTF8 = .ok (.obj partialSettings) := by
  have hparse : Json.parse partialText = .ok (.obj partialSettings) := by cbv
  rw [Json.Codec.read_standard_eq_ok_iff, Json.ofBytes_toUTF8, hparse]

theorem load_of_look_partial :
    Json.Codec.standard.ReadsProper ∧
      partialFiles.look "rc" = .ok (.file partialText.toUTF8) ∧
      ∃ loaded, load .standard chosenHome partialFiles "rc" = (partialFiles, .ok loaded) ∧
        (Json.obj loaded.settings).at? ["training", "c2"] = some (.float (Decimal.ofInteger 3)) ∧
        (Json.obj loaded.settings).at? ["training", "beta"] = some (.int 0) ∧
        (Json.obj loaded.settings).at? ["cache_enabled"] = some (.bool false) ∧
        loaded.warnings = String.intercalate "\n"
          [missingWarning chosenHome.userFile "models",
            missingWarning chosenHome.userFile "default_model",
            shapeWarning chosenHome.userFile "cache_enabled",
            missingWarning chosenHome.userFile "training.max_iterations",
            missingWarning chosenHome.userFile "training.epsilon",
            missingWarning chosenHome.userFile "feature_groups"] := by
  have hfile : partialFiles.look "rc" = .ok (.file partialText.toUTF8) := look_alone _
  obtain ⟨loaded, hload, -, -, hobject, -⟩ := load_of_look Json.Codec.readsProper_standard
    chosenHome partialFiles "rc" partialText.toUTF8 hfile
  obtain ⟨hcompletion, hwarnings, -⟩ := hobject partialSettings read_partialText
  refine ⟨Json.Codec.readsProper_standard, hfile, loaded, hload, ?_, ?_, ?_, ?_⟩
  · exact hcompletion.binary rfl rfl
  · have htraining : (Json.obj defaults).at? ["training"] = some (.obj _) := rfl
    exact hcompletion.foreign [] htraining rfl
  · exact hcompletion.replaced rfl rfl (by decide)
  · rw [hwarnings]
    rfl

end Settings

end NameTagger
