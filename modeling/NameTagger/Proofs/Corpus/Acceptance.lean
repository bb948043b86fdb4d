import NameTagger.Corpus.Load
import NameTagger.Proofs.Corpus.Grammar
import NameTagger.Proofs.Corpus.Reading

/-!
# The texts that describe a corpus

* `Reader.completes_of_splits`: text may be split in a derivation;
* `IsLabelText`, `Reader.Recalls`, `Reader.exists_overlong`: a character code of too many digits is
  refused only where the text of a label element has one;
* `parse_eq_ok_iff_derivation`: reading succeeds for exactly the texts that scan without a problem
  and whose items have a legible derivation, and fails as a malformed corpus on all others but for
  such a code.
-/

namespace NameTagger.Corpus

open Text Markup

/-- The items of the events of a text. -/
def itemsOf (text : String) : List Item := (scan text.toList).events.map Event.item

/-- Some characters are all that stands between the tags of a label. -/
def IsLabelText (items : List Item) (raw : List Char) : Prop :=
  ∃ (label : String) (texts : List (List Char)),
    openTag label :: (texts.map .text ++ [closeTag label]) <:+: items ∧ texts.flatten = raw

theorem IsLabelText.mono {items items' : List Item} {raw : List Char} (h : IsLabelText items raw)
    (hitems : items <:+: items') : IsLabelText items' raw := by
  obtain ⟨label, texts, hlabel, hraw⟩ := h
  exact ⟨label, texts, hlabel.trans hitems, hraw⟩

namespace Reader

/-! ### Split text -/

theorem completes_text_append (reader : Reader) (chars chars' : List Char) (items : List Item)
    (corpus : Corpus) :
    Completes (.text (chars ++ chars') :: items) corpus reader ↔
      Completes (.text chars :: .text chars' :: items) corpus reader := by
  have hsplit := step_text_append reader 0 chars chars'
  rw [completes_cons_iff reader ⟨0, .text (chars ++ chars')⟩, hsplit,
    completes_cons_iff reader ⟨0, .text chars⟩]
  cases reader.step ⟨0, .text chars⟩ with
  | error v =>
    constructor
    · rintro ⟨_, ⟨⟩, -⟩
    · rintro ⟨_, ⟨⟩, -⟩
  | ok reader' =>
    have hnext := @completes_cons_iff items corpus reader' ⟨0, .text chars'⟩
    constructor
    · exact fun h => ⟨reader', rfl, hnext.2 h⟩
    · rintro ⟨_, ⟨⟩, h⟩
      exact hnext.1 h

/-- Text may be split in a derivation. -/
theorem completes_of_splits {items items' : List Item} (h : Splits items items') (corpus : Corpus)
    (reader : Reader) : Completes items corpus reader ↔ Completes items' corpus reader := by
  induction h generalizing reader with
  | nil => rfl
  | cons item _ ih =>
    rw [completes_cons_iff reader ⟨0, item⟩, completes_cons_iff reader ⟨0, item⟩]
    exact exists_congr fun reader' => and_congr_right fun _ => ih reader'
  | @split chars chars' items _ _ ih =>
    rw [completes_text_append, completes_cons_iff reader ⟨0, .text chars⟩,
      completes_cons_iff reader ⟨0, .text chars⟩]
    exact exists_congr fun reader' => and_congr_right fun _ => ih reader'

/-! ### Codes of too many digits -/

/-- The characters that a reader keeps are the text behind the opening tag of a label, at the end
of the items that it has seen. -/
def Recalls (seen : List Item) (reader : Reader) : Prop :=
  ∀ start tokens label labelStart raw, reader.state = .inLabel start tokens label labelStart raw →
    ∃ texts : List (List Char), openTag label :: texts.map .text <:+ seen ∧ texts.flatten = raw

theorem IsIdle.recalls {reader : Reader} (h : reader.IsIdle) (seen : List Item) :
    reader.Recalls seen := by
  intro start tokens label labelStart raw hstate
  exact absurd hstate (h start tokens label labelStart raw)

theorem Recalls.move {seen : List Item} {reader reader' : Reader} {event : Event}
    (h : reader.Recalls seen) (hmove : Move reader event reader') :
    reader'.Recalls (seen ++ [event.item]) := by
  -- only two moves lead into a label element; after the others there is nothing to recall
  cases hmove with
  | openLabel done start tokens offset label hlabel =>
    rintro _ _ _ _ _ ⟨⟩
    exact ⟨[], List.suffix_append seen [openTag label], rfl⟩
  | keepText done start tokens label labelStart raw offset chars =>
    rintro _ _ _ _ _ ⟨⟩
    obtain ⟨texts, hseen, rfl⟩ := h _ _ _ _ _ rfl
    refine ⟨texts ++ [chars], ?_, by simp⟩
    rw [List.map_append, ← List.cons_append]
    exact List.suffix_append_self_iff.2 hseen
  | _ => rintro _ _ _ _ _ ⟨⟩

/-- A code is refused at the end of a label element whose text has it. -/
theorem Recalls.exists_overlong {seen : List Item} {reader : Reader} {item : Item} {digits : Nat}
    (h : reader.Recalls seen) (hrefusal : Refusal reader item (.overlongCode digits)) :
    ∃ raw, IsLabelText (seen ++ [item]) raw ∧ overlongCode? raw = some digits := by
  cases hrefusal with
  | overlongCode done start tokens label labelStart raw digits hraw =>
    -- the closing tag completes what is recalled
    obtain ⟨texts, ⟨before, hseen⟩, htexts⟩ := h _ _ _ _ _ rfl
    exact ⟨raw, ⟨label, texts, ⟨before, [], by simp [← hseen]⟩, htexts⟩, hraw⟩

/-- The same for all events. -/
theorem Recalls.exists_overlong_foldlM {seen : List Item} {reader : Reader} {events : List Event}
    {digits : Nat} (h : reader.Recalls seen)
    (hrun : events.foldlM Reader.step reader = .error (.overlongCode digits)) :
    ∃ raw, IsLabelText (seen ++ events.map Event.item) raw ∧ overlongCode? raw = some digits := by
  induction events generalizing seen reader with
  | nil => cases hrun
  | cons event events ih =>
    have hitems : seen ++ (event :: events).map Event.item =
        seen ++ [event.item] ++ events.map Event.item := by simp
    rw [hitems]
    rw [List.foldlM_cons] at hrun
    cases hstep : reader.step event with
    | error failure =>
      rw [hstep] at hrun
      cases hrun
      obtain ⟨failure, hfailure, hrefusal⟩ := Refusal.of_step hstep
      cases failure with
      | malformed violation => cases hfailure
      | overlongCode digits =>
        cases hfailure
        obtain ⟨raw, hlabel, hraw⟩ := h.exists_overlong hrefusal
        exact ⟨raw, hlabel.mono (List.prefix_append ..).isInfix, hraw⟩
    | ok reader' =>
      rw [hstep] at hrun
      exact ih (h.move (.of_step hstep)) hrun

end Reader

/-! ### Whole texts -/

theorem ofScan_eq_ok_iff (scan : Scan) (corpus : Corpus) :
    ofScan scan = .ok corpus ↔
      scan.halt? = none ∧ scan.events.foldlM Reader.step .start >>= Reader.finish = .ok corpus := by
  rw [ofScan]
  cases scan.halt? with
  | none => exact (and_iff_right rfl).symm
  | some halt =>
    refine ⟨fun h => ?_, fun h => by cases h.1⟩
    cases hrun : scan.events.foldlM Reader.step .start with
    | error v =>
      rw [hrun] at h
      cases h
    | ok reader =>
      rw [hrun] at h
      cases h

/-- A character code that cannot be read stands in the text of a label element. -/
theorem exists_overlong_of_ofScan {scan : Scan} {digits : Nat}
    (h : ofScan scan = .error (.overlongCode digits)) :
    ∃ raw, IsLabelText (scan.events.map Event.item) raw ∧ overlongCode? raw = some digits := by
  have hstart : Reader.start.Recalls [] := Reader.IsIdle.recalls (by rintro _ _ _ _ _ ⟨⟩) []
  rw [ofScan] at h
  cases hrun : scan.events.foldlM Reader.step .start with
  | error failure =>
    rw [hrun] at h
    cases h
    exact hstart.exists_overlong_foldlM hrun
  | ok reader =>
    -- neither the problem of the scan nor what the end leaves open is about a code
    rw [hrun] at h
    obtain ⟨done, state⟩ := reader
    cases hhalt : scan.halt? <;> cases state <;> rw [hhalt] at h <;> cases h

/-- Reading a text gets to a corpus if and only if the text scans without a problem and its items
have a derivation that describes the corpus, where text may be split.  Every other text is refused
as a malformed corpus.  Only a character code of too many digits in the text of a label element,
which cannot be decoded, is another fault. -/
theorem parse_eq_ok_iff_derivation (text : String) :
    (∀ corpus, parse text = .ok corpus ↔
      (scan text.toList).halt? = none ∧
        ∃ doc : Document, Splits (itemsOf text) doc.items ∧ doc.IsLegible ∧ doc.corpus = corpus) ∧
    ∀ failure, parse text = .error failure →
      failure.fault.kind = .corpusFormat ∨
        ∃ digits raw, failure = .overlongCode digits ∧ IsLabelText (itemsOf text) raw ∧
          overlongCode? raw = some digits := by
  constructor
  · intro corpus
    rw [parse_eq_ok_iff, ← Reader.ofScan_scan, ofScan_eq_ok_iff, ← Reader.completes_iff]
    refine and_congr_right fun _ => ⟨?_, ?_⟩
    · rintro ⟨doc, hitems, hlegible, hcorpus⟩
      exact ⟨doc, hitems ▸ Splits.refl _, hlegible, hcorpus⟩
    · rintro ⟨doc, hsplits, hlegible, hcorpus⟩
      exact (Reader.completes_of_splits hsplits corpus .start).2 ⟨doc, rfl, hlegible, hcorpus⟩
  · intro failure h
    obtain ⟨failure', hscan, rfl⟩ := exists_of_parse_eq_error h
    cases failure' with
    | malformed v => exact .inl rfl
    | overlongCode digits =>
      obtain ⟨raw, hlabel, hraw⟩ := exists_overlong_of_ofScan hscan
      exact .inr ⟨digits, raw, rfl, hlabel, hraw⟩

end NameTagger.Corpus
