import NameTagger.Corpus.Read

/-!
# Steps of a reader

* `openTag`, `closeTag`: the items that a corpus is made of, apart from text;
* `Reader.Move`, `Reader.Refusal`: what a step can do, and why it can fail;
* `Reader.step_cases`: a step does one or the other;
* `Reader.IsIdle`: outside of label elements, where text does not matter;
* `Reader.step_text_offset`, `Reader.step_text_append`: text may come in pieces.
-/

namespace NameTagger.Corpus

open Text Markup

/-- The item of an opening tag. -/
def openTag (name : String) : Item := .tag ⟨.opening, name⟩

/-- The item of a closing tag. -/
def closeTag (name : String) : Item := .tag ⟨.closing, name⟩

/-- The item of a single tag. -/
def singleTag (name : String) : Item := .tag ⟨.single, name⟩

theorem openTag_injective {label label' : String} (h : openTag label = openTag label') :
    label = label' := by
  simpa [openTag] using h

namespace Reader

variable (done : Array Sequence) (start offset : Nat) (tokens : Array LabeledToken)

/-- Names that are complete, and a further one that is left out if it has no token. -/
theorem toList_close :
    (close done tokens).toList = done.toList ++ [tokens.toList].filter (· ≠ []) := by
  rw [close]
  split
  · next h => simp [Array.isEmpty_iff.1 h]
  · next h =>
    have hne : tokens.toList ≠ [] := by simpa [Array.isEmpty_iff] using h
    rw [Array.toList_push, List.filter_cons_of_pos (by simpa using hne)]
    rfl

/-! ### What a step can do -/

/-- The ways in which a reader gets past an item at an offset. -/
inductive Move : Reader → Event → Reader → Prop
  | skip (done : Array Sequence) (offset : Nat) (item : Item) (h : item ≠ openTag nameElement) :
      Move ⟨done, .outside⟩ ⟨offset, item⟩ ⟨done, .outside⟩
  | openName (done : Array Sequence) (offset : Nat) :
      Move ⟨done, .outside⟩ ⟨offset, openTag nameElement⟩ ⟨done, .inName offset #[]⟩
  | passText (done : Array Sequence) (start : Nat) (tokens : Array LabeledToken) (offset : Nat)
      (chars : List Char) :
      Move ⟨done, .inName start tokens⟩ ⟨offset, .text chars⟩ ⟨done, .inName start tokens⟩
  | passSingle (done : Array Sequence) (start : Nat) (tokens : Array LabeledToken) (offset : Nat)
      (name : String) :
      Move ⟨done, .inName start tokens⟩ ⟨offset, singleTag name⟩ ⟨done, .inName start tokens⟩
  | openLabel (done : Array Sequence) (start : Nat) (tokens : Array LabeledToken) (offset : Nat)
      (label : String) (h : label ≠ nameElement) :
      Move ⟨done, .inName start tokens⟩ ⟨offset, openTag label⟩
        ⟨done, .inLabel start tokens label offset []⟩
  | closeName (done : Array Sequence) (start : Nat) (tokens : Array LabeledToken) (offset : Nat) :
      Move ⟨done, .inName start tokens⟩ ⟨offset, closeTag nameElement⟩
        ⟨close done tokens, .outside⟩
  | keepText (done : Array Sequence) (start : Nat) (tokens : Array LabeledToken) (label : String)
      (labelStart : Nat) (raw : List Char) (offset : Nat) (chars : List Char) :
      Move ⟨done, .inLabel start tokens label labelStart raw⟩ ⟨offset, .text chars⟩
        ⟨done, .inLabel start tokens label labelStart (raw ++ chars)⟩
  | closeLabel (done : Array Sequence) (start : Nat) (tokens : Array LabeledToken) (label : String)
      (labelStart : Nat) (raw : List Char) (offset : Nat) (h : hasOverlongCode raw = false) :
      Move ⟨done, .inLabel start tokens label labelStart raw⟩ ⟨offset, closeTag label⟩
        ⟨done, .inName start (Reader.label tokens label (normalize raw))⟩

/-- The ways in which a reader does not get past an item. -/
inductive Refusal : Reader → Item → Failure Violation → Prop
  | nestedName (done : Array Sequence) (start : Nat) (tokens : Array LabeledToken) :
      Refusal ⟨done, .inName start tokens⟩ (openTag nameElement) (.malformed .nestedName)
  | strayClosing (done : Array Sequence) (start : Nat) (tokens : Array LabeledToken) (name : String)
      (h : name ≠ nameElement) :
      Refusal ⟨done, .inName start tokens⟩ (closeTag name) (.malformed (.strayClosing name))
  | overlongCode (done : Array Sequence) (start : Nat) (tokens : Array LabeledToken)
      (label : String) (labelStart : Nat) (raw : List Char) (digits : Nat)
      (h : overlongCode? raw = some digits) :
      Refusal ⟨done, .inLabel start tokens label labelStart raw⟩ (closeTag label)
        (.overlongCode digits)
  | mismatchedClosing (done : Array Sequence) (start : Nat) (tokens : Array LabeledToken)
      (label : String) (labelStart : Nat) (raw : List Char) (name : String) (h : name ≠ label) :
      Refusal ⟨done, .inLabel start tokens label labelStart raw⟩ (closeTag name)
        (.malformed (.mismatchedClosing name label))
  | nestedTag (done : Array Sequence) (start : Nat) (tokens : Array LabeledToken)
      (label : String) (labelStart : Nat) (raw : List Char) (tag : Tag) (h : tag.kind ≠ .closing) :
      Refusal ⟨done, .inLabel start tokens label labelStart raw⟩ (.tag tag)
        (.malformed (.nestedTag tag.name label))

/-- A step does what one of the moves does, or fails at the event for one of the reasons. -/
theorem step_cases (reader : Reader) (event : Event) :
    (∃ reader', reader.step event = .ok reader' ∧ Move reader event reader') ∨
      ∃ failure : Failure Violation,
        reader.step event = .error (failure.map (Violation.At.mk · event.offset)) ∧
          Refusal reader event.item failure := by
  obtain ⟨offset, item⟩ := event
  obtain ⟨done, state⟩ := reader
  cases state with
  | outside =>
    by_cases hitem : item = openTag nameElement
    · subst hitem
      exact .inl ⟨_, rfl, .openName done offset⟩
    · refine .inl ⟨_, ?_, .skip done offset item hitem⟩
      match item with
      | .text _ => rfl
      | .tag ⟨.closing, _⟩ => rfl
      | .tag ⟨.single, _⟩ => rfl
      | .tag ⟨.opening, name⟩ => exact if_neg fun hname => hitem (congrArg openTag hname)
  | inName start tokens =>
    match item with
    | .text chars => exact .inl ⟨_, rfl, .passText done start tokens offset chars⟩
    | .tag ⟨.single, name⟩ => exact .inl ⟨_, rfl, .passSingle done start tokens offset name⟩
    | .tag ⟨.opening, name⟩ =>
      by_cases hname : name = nameElement
      · subst hname
        exact .inr ⟨_, rfl, .nestedName done start tokens⟩
      · exact .inl ⟨_, if_neg hname, .openLabel done start tokens offset name hname⟩
    | .tag ⟨.closing, name⟩ =>
      by_cases hname : name = nameElement
      · subst hname
        exact .inl ⟨_, rfl, .closeName done start tokens offset⟩
      · exact .inr ⟨.malformed (.strayClosing name), if_neg hname,
          .strayClosing done start tokens name hname⟩
  | inLabel start tokens label labelStart raw =>
    match item with
    | .text chars =>
      exact .inl ⟨_, rfl, .keepText done start tokens label labelStart raw offset chars⟩
    | .tag ⟨.single, name⟩ =>
      exact .inr ⟨_, rfl, .nestedTag done start tokens label labelStart raw ⟨.single, name⟩
        (by simp)⟩
    | .tag ⟨.opening, name⟩ =>
      exact .inr ⟨_, rfl, .nestedTag done start tokens label labelStart raw ⟨.opening, name⟩
        (by simp)⟩
    | .tag ⟨.closing, name⟩ =>
      by_cases hname : name = label
      · subst hname
        cases hraw : overlongCode? raw with
        | some digits =>
          refine .inr ⟨_, ?_, .overlongCode done start tokens name labelStart raw digits hraw⟩
          simp [step, normalize?, hraw, Failure.map]
        | none =>
          refine .inl ⟨_, ?_, .closeLabel done start tokens name labelStart raw offset
            (hasOverlongCode_eq_false.2 hraw)⟩
          simp [step, normalize?, hraw]
      · exact .inr ⟨.malformed (.mismatchedClosing name label), if_neg hname,
          .mismatchedClosing done start tokens label labelStart raw name hname⟩

theorem Move.of_step {reader reader' : Reader} {event : Event}
    (h : reader.step event = .ok reader') : Move reader event reader' := by
  rcases step_cases reader event with ⟨reader'', hstep, hmove⟩ | ⟨failure, hstep, -⟩
  · rw [hstep] at h
    cases h
    exact hmove
  · rw [hstep] at h
    cases h

theorem Move.step {reader reader' : Reader} {event : Event} (h : Move reader event reader') :
    reader.step event = .ok reader' := by
  cases h with
  | skip done offset item h =>
    rcases step_cases ⟨done, .outside⟩ ⟨offset, item⟩ with ⟨_, hstep, hmove⟩ | ⟨_, -, hrefusal⟩
    · cases hmove with
      | skip => exact hstep
      | openName => exact absurd rfl h
    · cases hrefusal
  | openName => rfl
  | passText => rfl
  | passSingle => rfl
  | openLabel _ _ _ _ _ h => exact if_neg h
  | closeName => rfl
  | keepText => rfl
  | closeLabel _ _ _ _ _ _ _ h =>
    simp [Reader.step, closeTag, normalize?, hasOverlongCode_eq_false.1 h]

theorem Refusal.of_step {reader : Reader} {event : Event} {failure : Failure Violation.At}
    (h : reader.step event = .error failure) :
    ∃ failure' : Failure Violation, failure = failure'.map (Violation.At.mk · event.offset) ∧
      Refusal reader event.item failure' := by
  rcases step_cases reader event with ⟨reader', hstep, -⟩ | ⟨failure', hstep, hrefusal⟩
  · rw [hstep] at h
    cases h
  · rw [hstep] at h
    cases h
    exact ⟨failure', rfl, hrefusal⟩

theorem Refusal.step {reader : Reader} {event : Event} {failure : Failure Violation}
    (h : Refusal reader event.item failure) :
    reader.step event = .error (failure.map (Violation.At.mk · event.offset)) := by
  obtain ⟨offset, item⟩ := event
  cases h with
  | nestedName => rfl
  | strayClosing _ _ _ _ h => exact if_neg h
  | overlongCode _ _ _ _ _ _ _ h => simp [Reader.step, normalize?, h, Failure.map]
  | mismatchedClosing _ _ _ _ _ _ _ h => exact if_neg h
  | nestedTag _ _ _ _ _ _ tag h =>
    obtain ⟨kind, name⟩ := tag
    cases kind with
    | opening => rfl
    | closing => exact absurd rfl h
    | single => rfl

/-! ### Text -/

/-- No label element is open, so that text does not matter. -/
def IsIdle (reader : Reader) : Prop :=
  ∀ start tokens label labelStart raw, reader.state ≠ .inLabel start tokens label labelStart raw

theorem step_idle_text {reader : Reader} (h : reader.IsIdle) (offset : Nat) (chars : List Char) :
    reader.step ⟨offset, .text chars⟩ = .ok reader := by
  obtain ⟨done, state⟩ := reader
  cases state with
  | outside => rfl
  | inName start tokens => rfl
  | inLabel start tokens label labelStart raw =>
    exact absurd rfl (h start tokens label labelStart raw)

/-- A reader does not remember where it met a text. -/
theorem step_text_offset (reader : Reader) (offset offset' : Nat) (chars : List Char) :
    reader.step ⟨offset, .text chars⟩ = reader.step ⟨offset', .text chars⟩ := by
  obtain ⟨done, state⟩ := reader
  cases state <;> rfl

/-- Text may come in pieces. -/
theorem step_text_append (reader : Reader) (offset : Nat) (chars chars' : List Char) :
    reader.step ⟨offset, .text (chars ++ chars')⟩ =
      reader.step ⟨offset, .text chars⟩ >>= fun reader => reader.step ⟨offset, .text chars'⟩ := by
  obtain ⟨done, state⟩ := reader
  cases state with
  | outside => rfl
  | inName start tokens => rfl
  | inLabel start tokens label labelStart raw =>
    show Except.ok _ = Except.ok _
    rw [List.append_assoc]

end Reader

end NameTagger.Corpus
