import NameTagger.Proofs.Corpus.Reading
import NameTagger.Proofs.Text.Escape

/-!
# Writing a corpus

A corpus can be written in many ways: around its elements there may be any text and any comments.
What is written is read back as it was.

* `Filler`: text or a comment that does not matter;
* `Wrapper`, `Layout`: the element around the names, and what stands between the elements;
* `LabeledToken.IsWritable`, `IsWritable`: what can be written, and is read back without a change;
* `Layout.render`: a corpus as it is written;
* `Reader.Takes`: characters that take a reader from one state to another wherever they stand;
* `parse_render`: what is written is read back.
-/

namespace NameTagger

open Text Markup

/-- A token that can be written: its text is made of words with single spaces between them, and its
label is the name of an element, but not of that of a name. -/
structure LabeledToken.IsWritable (token : LabeledToken) : Prop where
  text_ne : token.text ≠ ""
  squeeze_text : squeeze token.text.toList = token.text.toList
  label : IsElementName token.label.toList
  label_ne : token.label ≠ Corpus.nameElement

namespace Corpus

/-- A corpus that can be written: every name has a token, and every token can be written. -/
def IsWritable (corpus : Corpus) : Prop :=
  ∀ sequence ∈ corpus, sequence ≠ [] ∧ ∀ token ∈ sequence, token.IsWritable

/-! ### Layouts -/

/-- Text without a tag, or a comment. -/
inductive Filler where
  | text (chars : List Char) (h : '<' ∉ chars)
  | comment (inner : List Char) (h : ¬ ['-', '-', '>'] <:+: inner)

/-- The characters of a filler. -/
def Filler.source : Filler → List Char
  | text chars _ => chars
  | comment inner _ => '<' :: '!' :: '-' :: '-' :: (inner ++ ['-', '-', '>'])

/-- The characters of fillers. -/
def fill (fillers : List Filler) : List Char := fillers.flatMap Filler.source

/-- A tag with a text between its brackets. -/
def writeTag (inner : List Char) : List Char := '<' :: inner ++ ['>']

/-- An element that stands around the names, with what its opening tag holds behind the name. -/
structure Wrapper where
  name : String
  attributes : List Char
  isElementName : IsElementName name.toList
  name_ne : name ≠ nameElement
  attributes_inner : ∀ c ∈ attributes, c ≠ '<' ∧ c ≠ '>'
  attributes_head : ∀ c, attributes.head? = some c → isBlank c = true

/-- What stands around the elements of a corpus. -/
structure Layout where
  wrapper : Wrapper
  before : List Filler
  after : List Filler
  /-- The fillers in front of each name, and behind the last one. -/
  outer : Nat → List Filler
  /-- The fillers in front of each token of each name, and behind the last one. -/
  inner : Nat → Nat → List Filler

/-- A token as it is written. -/
def writeToken (token : LabeledToken) : List Char :=
  writeTag token.label.toList ++ encodeReferences token.text.toList ++
    writeTag ('/' :: token.label.toList)

/-- Tokens as they are written, with fillers around them. -/
def writeTokens (gap : Nat → List Filler) : Sequence → List Char
  | [] => fill (gap 0)
  | token :: tokens =>
      fill (gap 0) ++ writeToken token ++ writeTokens (fun i => gap (i + 1)) tokens

/-- A name as it is written. -/
def writeName (gap : Nat → List Filler) (sequence : Sequence) : List Char :=
  writeTag nameElement.toList ++ writeTokens gap sequence ++ writeTag ('/' :: nameElement.toList)

/-- Names as they are written, with fillers around them. -/
def writeNames (outer : Nat → List Filler) (inner : Nat → Nat → List Filler) : Corpus → List Char
  | [] => fill (outer 0)
  | sequence :: corpus =>
      fill (outer 0) ++ writeName (inner 0) sequence ++
        writeNames (fun i => outer (i + 1)) (fun i => inner (i + 1)) corpus

/-- A corpus as it is written. -/
def Layout.render (layout : Layout) (corpus : Corpus) : List Char :=
  fill layout.before ++ writeTag (layout.wrapper.name.toList ++ layout.wrapper.attributes) ++
    writeNames layout.outer layout.inner corpus ++
    writeTag ('/' :: layout.wrapper.name.toList) ++ fill layout.after

/-! ### Characters that take a reader further -/

namespace Reader

/-- Wherever they stand, some characters take a reader to another state. -/
def Takes (s : List Char) (reader reader' : Reader) : Prop :=
  ∀ offset rest, ∃ offset', reader.read offset (s ++ rest) = reader'.read offset' rest

theorem Takes.nil (reader : Reader) : Takes [] reader reader := fun offset _ => ⟨offset, rfl⟩

theorem Takes.append {s s' : List Char} {reader reader' reader'' : Reader}
    (h : Takes s reader reader') (h' : Takes s' reader' reader'') :
    Takes (s ++ s') reader reader'' := by
  intro offset rest
  obtain ⟨middle, hread⟩ := h offset (s' ++ rest)
  obtain ⟨offset', hread'⟩ := h' middle rest
  exact ⟨offset', by rw [List.append_assoc, hread, hread']⟩

theorem takes_fill {reader : Reader} (h : reader.IsIdle) (fillers : List Filler) :
    Takes (fill fillers) reader reader := by
  induction fillers with
  | nil => exact .nil reader
  | cons filler fillers ih =>
    refine Takes.append ?_ ih
    intro offset rest
    cases filler with
    | text chars hchars => exact ⟨_, read_idle_text h offset hchars rest⟩
    | comment inner hinner =>
      refine ⟨offset + (inner.length + 7), ?_⟩
      rw [← read_comment reader offset hinner rest, Filler.source]
      simp

/-- The tag of a name can be read wherever it stands. -/
theorem read_writeTag {inner : List Char} {tag : Tag} (reader : Reader) (offset : Nat)
    (hinner : ∀ c ∈ inner, c ≠ '<' ∧ c ≠ '>')
    (hhead : ∀ c, inner.head? = some c → c ≠ '!' ∧ c ≠ '?') (htag : Tag.ofInner? inner = some tag)
    (rest : List Char) :
    reader.read offset (writeTag inner ++ rest) =
      reader.step ⟨offset, .tag tag⟩ >>= fun reader =>
        reader.read (offset + (inner.length + 2)) rest := by
  rw [← read_tag reader offset hinner hhead htag rest, writeTag]
  simp

theorem read_writeTag_open {name : String} (h : IsElementName name.toList) (reader : Reader)
    (offset : Nat) (rest : List Char) :
    reader.read offset (writeTag name.toList ++ rest) =
      reader.step ⟨offset, openTag name⟩ >>= fun reader =>
        reader.read (offset + (name.toList.length + 2)) rest := by
  refine read_writeTag reader offset h.inner (fun c hc => (h.head c hc).2) ?_ rest
  rw [Tag.ofInner?_name h, String.ofList_toList]

theorem read_writeTag_close {name : String} (h : IsElementName name.toList) (reader : Reader)
    (offset : Nat) (rest : List Char) :
    reader.read offset (writeTag ('/' :: name.toList) ++ rest) =
      reader.step ⟨offset, closeTag name⟩ >>= fun reader =>
        reader.read (offset + (name.toList.length + 3)) rest := by
  refine read_writeTag reader offset ?_ ?_ ?_ rest
  · intro c hc
    rcases List.mem_cons.1 hc with rfl | hc
    · decide
    · exact h.inner c hc
  · rintro c ⟨⟩
    decide
  · rw [Tag.ofInner?_slash h, String.ofList_toList]

/-! ### The elements of a corpus -/

variable (done : Array Sequence) (start : Nat) (tokens : Array LabeledToken)

theorem isIdle_outside : IsIdle ⟨done, .outside⟩ := by rintro _ _ _ _ _ ⟨⟩

theorem isIdle_inName : IsIdle ⟨done, .inName start tokens⟩ := by rintro _ _ _ _ _ ⟨⟩

/-- The token of a label element is the one that was written. -/
theorem label_normalize {token : LabeledToken} (h : token.IsWritable) :
    label tokens token.label (normalize (encodeReferences token.text.toList)) =
      tokens.push token := by
  have hne : token.text.toList ≠ [] := fun hnil => h.text_ne (String.toList_eq_nil_iff.1 hnil)
  rw [normalize, decodeReferences_encodeReferences, h.squeeze_text, label.eq_2 _ _ _ hne,
    String.ofList_toList]

theorem takes_token {token : LabeledToken} (h : token.IsWritable) :
    Takes (writeToken token) ⟨done, .inName start tokens⟩
      ⟨done, .inName start (tokens.push token)⟩ := by
  intro offset rest
  have hne : encodeReferences token.text.toList ≠ [] :=
    encodeReferences_ne_nil fun hnil => h.text_ne (String.toList_eq_nil_iff.1 hnil)
  have hopen := Move.openLabel done start tokens offset token.label h.label_ne
  have hclose (labelStart offset : Nat) :=
    Move.closeLabel done start tokens token.label labelStart
      (encodeReferences token.text.toList) offset (hasOverlongCode_encodeReferences _)
  rw [label_normalize tokens h] at hclose
  -- the opening tag, the text and the closing tag, one after the other
  refine ⟨offset + (token.label.toList.length + 2) + (encodeReferences token.text.toList).length +
    (token.label.toList.length + 3), ?_⟩
  rw [writeToken, List.append_assoc, List.append_assoc, read_writeTag_open h.label, hopen.step]
  show Reader.read _ _ _ = _
  rw [read_text _ _ hne (lt_notMem_encodeReferences _) (by rintro c ⟨⟩; rfl)]
  show Reader.read _ _ _ = _
  rw [read_writeTag_close h.label, List.nil_append, (hclose offset _).step]
  rfl

theorem takes_tokens (gap : Nat → List Filler) {sequence : Sequence}
    (h : ∀ token ∈ sequence, token.IsWritable) :
    Takes (writeTokens gap sequence) ⟨done, .inName start tokens⟩
      ⟨done, .inName start (tokens ++ sequence)⟩ := by
  induction sequence generalizing gap tokens with
  | nil =>
    rw [Array.appendList_nil]
    exact takes_fill (isIdle_inName done start tokens) (gap 0)
  | cons token sequence ih =>
    obtain ⟨htoken, hsequence⟩ := List.forall_mem_cons.1 h
    have hrest := ih (tokens.push token) (fun i => gap (i + 1)) hsequence
    rw [show tokens.push token ++ sequence = tokens ++ (token :: sequence) by simp] at hrest
    exact ((takes_fill (isIdle_inName done start tokens) (gap 0)).append
      (takes_token done start tokens htoken)).append hrest

theorem isElementName_nameElement : IsElementName nameElement.toList := by decide

theorem takes_name (gap : Nat → List Filler) {sequence : Sequence} (hne : sequence ≠ [])
    (h : ∀ token ∈ sequence, token.IsWritable) :
    Takes (writeName gap sequence) ⟨done, .outside⟩ ⟨done.push sequence, .outside⟩ := by
  intro offset rest
  have hclose : close done ((#[] : Array LabeledToken) ++ sequence) = done.push sequence := by
    simp [close, hne]
  -- the name keeps the offset of its opening tag until it is closed
  obtain ⟨middle, hread⟩ := takes_tokens done offset #[] gap h
    (offset + (nameElement.toList.length + 2)) (writeTag ('/' :: nameElement.toList) ++ rest)
  refine ⟨middle + (nameElement.toList.length + 3), ?_⟩
  rw [writeName, List.append_assoc, List.append_assoc,
    read_writeTag_open isElementName_nameElement, (Move.openName done offset).step]
  show Reader.read _ _ _ = _
  rw [hread, read_writeTag_close isElementName_nameElement,
    (Move.closeName done offset (#[] ++ sequence) middle).step, hclose]
  rfl

theorem takes_names (outer : Nat → List Filler) (inner : Nat → Nat → List Filler) {corpus : Corpus}
    (h : corpus.IsWritable) :
    Takes (writeNames outer inner corpus) ⟨done, .outside⟩ ⟨done ++ corpus, .outside⟩ := by
  induction corpus generalizing outer inner done with
  | nil =>
    rw [Array.appendList_nil]
    exact takes_fill (isIdle_outside done) (outer 0)
  | cons sequence corpus ih =>
    obtain ⟨⟨hne, hsequence⟩, hcorpus⟩ := List.forall_mem_cons.1 h
    have hrest := ih (done.push sequence) (fun i => outer (i + 1)) (fun i => inner (i + 1)) hcorpus
    rw [show done.push sequence ++ corpus = done ++ (sequence :: corpus) by simp] at hrest
    exact ((takes_fill (isIdle_outside done) (outer 0)).append
      (takes_name done (inner 0) hne hsequence)).append hrest

theorem takes_wrapper_open (wrapper : Wrapper) :
    Takes (writeTag (wrapper.name.toList ++ wrapper.attributes)) ⟨done, .outside⟩
      ⟨done, .outside⟩ := by
  intro offset rest
  have hname := wrapper.isElementName
  obtain ⟨kind, -, htag⟩ := Tag.ofInner?_name_append hname wrapper.attributes_head
  rw [String.ofList_toList] at htag
  -- whatever kind of tag the text behind the name makes it, it opens no name
  have hitem : Item.tag ⟨kind, wrapper.name⟩ ≠ openTag nameElement := by
    intro heq
    exact wrapper.name_ne (Tag.mk.inj (Item.tag.inj heq)).2
  refine ⟨offset + ((wrapper.name.toList ++ wrapper.attributes).length + 2), ?_⟩
  rw [read_writeTag _ _ (List.forall_mem_append.2 ⟨hname.inner, wrapper.attributes_inner⟩) ?_ htag,
    (Move.skip done offset _ hitem).step]
  · rfl
  · intro c hc
    obtain ⟨d, name, heq⟩ := List.exists_cons_of_ne_nil hname.isWord.1
    rw [heq] at hc
    exact (hname.head c (heq ▸ hc)).2

theorem takes_wrapper_close (wrapper : Wrapper) :
    Takes (writeTag ('/' :: wrapper.name.toList)) ⟨done, .outside⟩ ⟨done, .outside⟩ := by
  intro offset rest
  have hitem : closeTag wrapper.name ≠ openTag nameElement := by rintro ⟨⟩
  refine ⟨offset + (wrapper.name.toList.length + 3), ?_⟩
  rw [read_writeTag_close wrapper.isElementName, (Move.skip done offset _ hitem).step]
  rfl

end Reader

/-! ### Reading what was written -/

/-- A corpus is read back as it was, whatever element is around its names and whatever text and
comments are around its elements. -/
theorem parse_render (layout : Layout) {corpus : Corpus} (h : corpus.IsWritable) :
    parse (String.ofList (layout.render corpus)) = .ok corpus := by
  have htakes : Reader.Takes (layout.render corpus) .start ⟨#[] ++ corpus, .outside⟩ :=
    ((((Reader.takes_fill (Reader.isIdle_outside #[]) layout.before).append
      (Reader.takes_wrapper_open #[] layout.wrapper)).append
      (Reader.takes_names #[] layout.outer layout.inner h)).append
      (Reader.takes_wrapper_close _ layout.wrapper)).append
      (Reader.takes_fill (Reader.isIdle_outside _) layout.after)
  obtain ⟨offset, hread⟩ := htakes 0 []
  rw [List.append_nil, Reader.read_nil] at hread
  rw [parse_eq_ok_iff, String.toList_ofList, hread]
  simp [Reader.finish]

/-- A text that looks like a reference, in a name with text and a comment around its token. -/
theorem parse_render_reference :
    IsWritable [[⟨"&lt;", "GivenName"⟩]] ∧
      parse "<Names x>\n<Name>a<!--<b>--><GivenName>&amp;lt;</GivenName>.</Name></Names>" =
        .ok [[⟨"&lt;", "GivenName"⟩]] := by
  have htoken : LabeledToken.IsWritable ⟨"&lt;", "GivenName"⟩ :=
    ⟨by decide, squeeze_word (by decide), by decide, by decide⟩
  have hcorpus : IsWritable [[⟨"&lt;", "GivenName"⟩]] := by
    simpa [IsWritable] using htoken
  let gap : Nat → List Filler
    | 0 => [.text ['a'] (by decide), .comment "<b>".toList (by decide)]
    | _ => [.text ['.'] (by decide)]
  let outer : Nat → List Filler
    | 0 => [.text ['\n'] (by decide)]
    | _ => []
  let layout : Layout :=
    ⟨⟨"Names", [' ', 'x'], by decide, by decide, by simp, by rintro c ⟨⟩; decide⟩, [], [], outer,
      fun _ => gap⟩
  have hrender : layout.render [[⟨"&lt;", "GivenName"⟩]] =
      ("<Names x>\n<Name>a<!--<b>--><GivenName>&amp;lt;</GivenName>.</Name></Names>").toList := by
    decide
  have hparse := parse_render layout hcorpus
  rw [hrender, String.ofList_toList] at hparse
  exact ⟨hcorpus, hparse⟩

end Corpus

end NameTagger
