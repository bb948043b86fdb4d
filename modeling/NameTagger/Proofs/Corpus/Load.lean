import NameTagger.Proofs.Corpus.Acceptance
import NameTagger.Proofs.Files.Walk

/-!
# Loading a corpus

* `Files.Holds`, `Files.IsLegible`: files in which there is a corpus, and in which every character
  reference can be read;
* `IsLabelText.exists_text`: where the characters of a label come from;
* `load_eq_ok_iff`: a corpus is loaded from where there is one;
* `kind_of_ofContent_eq_error`: content without a corpus, where every character reference can be
  read.
-/

namespace NameTagger

/-- There is a corpus at a path: something is there, which can be read and decoded, and whose text
describes the corpus. -/
structure Files.Holds (files : Files) (path : String) (corpus : Corpus) : Prop where
  contains : files.contains path = true
  parses : ∃ content text, files.read path = .ok content ∧ Corpus.decode content = .ok text ∧
    Corpus.parse text = .ok corpus

theorem Files.holds_of_read {files : Files} {path : String} {content : ByteArray} {text : String}
    {corpus : Corpus} (hread : files.read path = .ok content)
    (hdecode : Corpus.decode content = .ok text) (hparse : Corpus.parse text = .ok corpus) :
    files.Holds path corpus :=
  ⟨Files.contains_of_read hread, content, text, hread, hdecode, hparse⟩

/-- No label text in the files refers to a character by a code that is too long. -/
def Files.IsLegible (files : Files) : Prop :=
  ∀ path content text, files.read path = .ok content → Corpus.decode content = .ok text →
    ∀ raw, Corpus.IsLabelText (Corpus.itemsOf text) raw → Text.hasOverlongCode raw = false

/-- A fault comes from the first of two steps, or from the second. -/
theorem error_of_bind {ε α β : Type} {x : Except ε α} {f : α → Except ε β} {e : ε}
    (h : x >>= f = .error e) : x = .error e ∨ ∃ a, x = .ok a ∧ f a = .error e := by
  cases x with
  | error e' => exact .inl (congrArg Except.error (Except.error.inj h))
  | ok a => exact .inr ⟨a, rfl, h⟩

/-- A text without references has no code in it. -/
theorem Text.hasOverlongCode_of_notMem {s : List Char} (h : '&' ∉ s) :
    hasOverlongCode s = false := by
  induction s with
  | nil => rfl
  | cons c s ih =>
    rw [List.mem_cons, not_or] at h
    rw [hasOverlongCode_cons_of_ne (Ne.symm h.1), ih h.2]

namespace Corpus

/-- The text of a label is made up of items. -/
theorem IsLabelText.exists_text {items : List Markup.Item} {raw : List Char}
    (h : IsLabelText items raw) {c : Char} (hc : c ∈ raw) :
    ∃ chars, Markup.Item.text chars ∈ items ∧ c ∈ chars := by
  obtain ⟨label, texts, hinfix, rfl⟩ := h
  obtain ⟨chars, hchars, hmem⟩ := List.mem_flatten.1 hc
  exact ⟨chars, hinfix.subset (by simp [hchars]), hmem⟩

theorem ofContent_eq_ok_iff {content : ByteArray} {corpus : Corpus} :
    ofContent content = .ok corpus ↔
      ∃ text, decode content = .ok text ∧ parse text = .ok corpus := by
  rw [ofContent]
  cases decode content with
  | error fault => simp [bind, Except.bind]
  | ok text => cases hparse : parse text <;> simp [bind, Except.bind, hparse]

theorem load_eq_ok_iff {files : Files} {path : String} {corpus : Corpus} :
    load files path = .ok corpus ↔ files.Holds path corpus := by
  rw [load]
  constructor
  · intro h
    split at h
    next hcontains =>
      cases hread : files.read path with
      | error fault =>
        rw [hread] at h
        cases h
      | ok content =>
        rw [hread] at h
        obtain ⟨text, hdecode, hparse⟩ := ofContent_eq_ok_iff.1 h
        exact ⟨hcontains, content, text, hread, hdecode, hparse⟩
    next => cases h
  · rintro ⟨hcontains, content, text, hread, hdecode, hparse⟩
    rw [if_pos hcontains, hread]
    exact ofContent_eq_ok_iff.2 ⟨text, hdecode, hparse⟩

/-- Where every character reference can be read, a text without a corpus is malformed. -/
theorem kind_of_parse_eq_error {text : String} {failure : Failure Error}
    (h : parse text = .error failure)
    (hlegible : ∀ raw, IsLabelText (itemsOf text) raw → Text.hasOverlongCode raw = false) :
    failure.fault.kind = .corpusFormat := by
  obtain ⟨failure', hscan, rfl⟩ := exists_of_parse_eq_error h
  cases failure' with
  | malformed v => rfl
  | overlongCode digits =>
    obtain ⟨raw, hraw, hcode⟩ := exists_overlong_of_ofScan hscan
    rw [Text.hasOverlongCode_eq_false.1 (hlegible raw hraw)] at hcode
    cases hcode

/-- Content without a corpus is malformed, or its bytes are. -/
theorem kind_of_ofContent_eq_error {content : ByteArray} {fault : Fault}
    (h : ofContent content = .error fault)
    (hlegible : ∀ text, decode content = .ok text →
      ∀ raw, IsLabelText (itemsOf text) raw → Text.hasOverlongCode raw = false) :
    fault.kind = .encoding ∨ fault.kind = .corpusFormat := by
  rcases error_of_bind h with hdecode | ⟨text, hdecode, hparse⟩
  · rw [decode] at hdecode
    split at hdecode
    · cases hdecode
    · exact .inl (congrArg Fault.kind (Except.error.inj hdecode).symm)
  · split at hparse
    · cases hparse
    next e he =>
      rw [← Except.error.inj hparse]
      exact .inr (kind_of_parse_eq_error he (hlegible text hdecode))

end Corpus

end NameTagger
