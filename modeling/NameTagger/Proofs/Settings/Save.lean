import NameTagger.Proofs.Files.Grow
import NameTagger.Proofs.Settings.Load

/-!
# What is left of a file behind a save

A save writes a value, or it leaves everything as it was, unless the value cannot be written: then
the file is left empty.

* `saved_refusal`: what a save makes of a refusal;
* `SaveOutcome`: what a save can come to;
* `overwrite_outcome`, `save_outcome`: it comes to nothing else.
-/

namespace NameTagger

namespace Settings

open Files

variable {codec : Json.Codec} {files made : Files} {path : String} {value : Json}

/-- What a save makes of the files and tells about it. -/
inductive SaveOutcome (codec : Json.Codec) (files : Files) (path : String) (value : Json) :
    Files × Except Fault Bool → Prop
  /-- The file holds the text of the value. -/
  | written {files' : Files} {text : String}
      (htext : codec.write .indented value = .ok text)
      (hfile : files'.find path = .ok (.file text.toUTF8))
      (hbeside : KeepsBeside path files files') :
      SaveOutcome codec files path value (files', .ok true)
  /-- The operating system did not let it happen. -/
  | refused {files' : Files} (hgrows : Grows files files') :
      SaveOutcome codec files path value (files', .ok false)
  /-- There is no such file. -/
  | nullCharacter {files' : Files} (hnull : '\x00' ∈ path.toList) (hgrows : Grows files files') :
      SaveOutcome codec files path value (files', .error ⟨.value, "embedded null byte"⟩)
  /-- The value has no text, and the file is empty. -/
  | emptied {files' : Files} {message : String}
      (hrefusal : codec.write .indented value = .error message)
      (hfile : files'.find path = .ok (.file .empty)) (hbeside : KeepsBeside path files files') :
      SaveOutcome codec files path value (files', .error (Json.refusalFault message))

/-- A refusal counts as a no, unless there is a null character. -/
theorem SaveOutcome.of_refusal (hgrows : Grows files made) {refusal : Refusal}
    (hnull : refusal = .nullCharacter → '\x00' ∈ path.toList) (name : String) :
    SaveOutcome codec files path value (made, saved (refusal.fault name)) := by
  cases refusal with
  | nullCharacter => exact .nullCharacter (hnull rfl) hgrows
  | _ => exact .refused hgrows

theorem overwrite_outcome (hgrows : Grows files made) :
    SaveOutcome codec files path value (overwrite codec made path value) := by
  rw [overwrite]
  cases hempty : made.write path .empty with
  | error fault =>
    obtain ⟨refusal, rfl, hnull⟩ := exists_refusal_of_write hempty
    exact .of_refusal hgrows hnull path
  | ok emptied =>
    obtain ⟨place, hcreation, hplace, -, rfl⟩ := write_eq_ok_iff.1 hempty
    obtain ⟨-, hlocate⟩ := creation_eq_ok_iff.1 hcreation
    dsimp only
    cases htext : codec.write .indented value with
    | error message =>
      exact .emptied htext (find_put hlocate hplace) (hgrows.keepsBeside_put hlocate hplace .empty)
    | ok text =>
      simp only [write_put hcreation hplace]
      exact .written htext (find_put hlocate hplace) (hgrows.keepsBeside_put hlocate hplace _)

/-- The directory of a file has no null character unless the path name of the file has one. -/
theorem null_of_directoryFor (h : '\x00' ∈ (directoryFor path).toList) : '\x00' ∈ path.toList := by
  rw [directoryFor] at h
  split at h
  · exact absurd h (by decide)
  · exact Path.mem_toList_of_mem_directory h

/-- A save writes the value to the file and touches nothing else that was there; or, if it does not
succeed, it touches nothing that was there, except that a value that the library does not write
leaves the file empty. -/
theorem save_outcome (codec : Json.Codec) (files : Files) (path : String) (value : Json) :
    SaveOutcome codec files path value (save codec files path value) := by
  have hgrows := files.grows_makeDirectories (directoryFor path)
  rw [save]
  split
  next made fault hmake =>
    rw [hmake] at hgrows
    obtain ⟨refusal, rfl, hnull⟩ := exists_refusal_of_makeDirectories (congrArg Prod.snd hmake)
    exact .of_refusal hgrows (fun h => null_of_directoryFor (hnull h)) _
  next made hmake =>
    rw [hmake] at hgrows
    exact overwrite_outcome hgrows

/-- An integer of more than 64 bits is not written, and empties the file that was there. -/
theorem save_emptied :
    let files : Files := ⟨[], [(["rc"], .file "old".toUTF8)], []⟩
    let value : Json := .obj [("limit", .int (2 ^ 64))]
    files.find "rc" = .ok (.file "old".toUTF8) ∧
      (save .standard files "rc" value).2 =
        .error (Json.refusalFault (Json.Refusal.message .integerRange)) ∧
      (save .standard files "rc" value).1.find "rc" = .ok (.file .empty) := by
  intro files value
  have hrefusal : Json.Codec.standard.write .indented value =
      .error (Json.Refusal.message .integerRange) := rfl
  have hsave : save .standard files "rc" value =
      (alone .empty, .error (Json.refusalFault (Json.Refusal.message .integerRange))) := by
    show save .standard (alone "old".toUTF8) "rc" value = _
    rw [save, makeDirectories_alone]
    simp only [overwrite, write_alone, hrefusal]
  have hfound (content : ByteArray) : (alone content).find "rc" = .ok (.file content) :=
    find_of_look (look_alone content)
  rw [hsave]
  exact ⟨hfound _, rfl, hfound _⟩

end Settings

end NameTagger
