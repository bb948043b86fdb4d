import NameTagger.Proofs.Corpus.Step

/-!
# The grammar of a corpus

A corpus is read from the items of a markup text by a grammar:

* a document is made of name elements and of any other items than the opening tag of one;
* a name element holds texts, single tags and label elements between its two tags;
* a label element holds texts between the tags of a label, which is not that of a name element.

A reader is at a place in a derivation.  What it keeps tells which items complete the derivation,
and each move takes the first of these items away.

* `LabelElement`, `NamePart`, `DocumentPart`, `Document`: derivations, with the items that they
  stand for and the corpus that they describe;
* `Splits`: the same items with texts split further;
* `Reader.Completes`: the items that complete the derivation at which a reader is;
* `Reader.Move.completes_iff`, `Reader.Refusal.not_completes`: one item;
* `Reader.completes_iff`: all items.
-/

namespace NameTagger.Corpus

open Text Markup

/-! ### Derivations -/

/-- The element of a token: texts between the tags of a label. -/
structure LabelElement where
  label : String
  texts : List (List Char)
  label_ne : label ≠ nameElement

namespace LabelElement

/-- The characters between the tags. -/
def raw (element : LabelElement) : List Char := element.texts.flatten

/-- The items that the element stands for. -/
def items (element : LabelElement) : List Item :=
  openTag element.label :: (element.texts.map .text ++ [closeTag element.label])

/-- The token of the element, unless it has no text. -/
def token? (element : LabelElement) : Option LabeledToken :=
  match normalize element.raw with
  | [] => none
  | text => some ⟨String.ofList text, element.label⟩

/-- The references of the element can be decoded. -/
def IsLegible (element : LabelElement) : Prop := hasOverlongCode element.raw = false

end LabelElement

/-- What may stand in a name element. -/
inductive NamePart where
  | text (chars : List Char)
  | single (name : String)
  | label (element : LabelElement)

namespace NamePart

/-- The items that a part stands for. -/
def items : NamePart → List Item
  | text chars => [.text chars]
  | single name => [singleTag name]
  | label element => element.items

/-- The label element that a part is. -/
def element? : NamePart → Option LabelElement
  | label element => some element
  | _ => none

end NamePart

/-- What may stand in a document: an item that opens no name element, or a name element. -/
inductive DocumentPart where
  | skip (item : Item) (item_ne : item ≠ openTag nameElement)
  | name (parts : List NamePart)

namespace DocumentPart

/-- The items that a part stands for. -/
def items : DocumentPart → List Item
  | skip item _ => [item]
  | name parts => openTag nameElement :: (parts.flatMap NamePart.items ++ [closeTag nameElement])

/-- The parts of the name element that a part is. -/
def name? : DocumentPart → Option (List NamePart)
  | skip _ _ => none
  | name parts => some parts

end DocumentPart

/-- The tokens that the parts of a name element describe. -/
def tokensOf (parts : List NamePart) : Sequence :=
  (parts.filterMap NamePart.element?).filterMap LabelElement.token?

/-- A derivation of the items of a document. -/
abbrev Document := List DocumentPart

namespace Document

/-- The items that a document stands for. -/
def items (doc : Document) : List Item := doc.flatMap DocumentPart.items

/-- The names with a token that a document describes, in order. -/
def corpus (doc : Document) : Corpus :=
  ((doc.filterMap DocumentPart.name?).map tokensOf).filter (· ≠ [])

/-- The label elements of a document. -/
def labels (doc : Document) : List LabelElement :=
  (doc.filterMap DocumentPart.name?).flatMap fun parts => parts.filterMap NamePart.element?

/-- The references of all label elements can be decoded. -/
def IsLegible (doc : Document) : Prop := ∀ element ∈ doc.labels, element.IsLegible

theorem items_name (parts : List NamePart) (doc : Document) :
    items (.name parts :: doc) =
      openTag nameElement ::
        (parts.flatMap NamePart.items ++ closeTag nameElement :: doc.items) := by
  simp [items, DocumentPart.items]

theorem corpus_name (parts : List NamePart) (doc : Document) :
    corpus (.name parts :: doc) = [tokensOf parts].filter (· ≠ []) ++ doc.corpus := by
  rw [corpus, List.filterMap_cons_some (DocumentPart.name?.eq_2 parts), List.map_cons,
    ← List.singleton_append, List.filter_append]
  rfl

theorem isLegible_name {parts : List NamePart} {doc : Document} :
    IsLegible (.name parts :: doc) ↔
      (∀ element ∈ parts.filterMap NamePart.element?, element.IsLegible) ∧ doc.IsLegible := by
  rw [IsLegible, labels, List.filterMap_cons_some (DocumentPart.name?.eq_2 parts),
    List.flatMap_cons, List.forall_mem_append]
  rfl

end Document

/-- The second list holds the items of the first one with texts split further. -/
inductive Splits : List Item → List Item → Prop
  | nil : Splits [] []
  | cons (item : Item) {items items' : List Item} (h : Splits items items') :
      Splits (item :: items) (item :: items')
  | split (chars : List Char) {chars' : List Char} {items items' : List Item}
      (h : Splits (.text chars' :: items) items') :
      Splits (.text (chars ++ chars') :: items) (.text chars :: items')

theorem Splits.refl (items : List Item) : Splits items items := by
  induction items with
  | nil => exact .nil
  | cons item items ih => exact .cons item ih

/-! ### What is left to derive -/

namespace Reader

variable (done : Array Sequence) (start offset : Nat) (tokens : Array LabeledToken)

/-- The tokens of a label element and those behind it. -/
theorem label_append_tokensOf (element : LabelElement) (parts : List NamePart) :
    label tokens element.label (normalize element.raw) ++ tokensOf parts =
      tokens ++ tokensOf (.label element :: parts) := by
  have htokens : tokensOf (.label element :: parts) = element.token?.toList ++ tokensOf parts := by
    rw [tokensOf, tokensOf]
    cases h : element.token? <;> simp [NamePart.element?, h]
  rw [htokens, LabelElement.token?]
  cases normalize element.raw with
  | nil => rfl
  | cons c text => simp [label]

/-- The items at which a reader outside of a name gets from some names to a corpus. -/
def CompletesOutside (done : List Sequence) (items : List Item) (corpus : Corpus) : Prop :=
  ∃ doc : Document, doc.items = items ∧ doc.IsLegible ∧ done ++ doc.corpus = corpus

/-- The same for a reader that has read some tokens of a name. -/
def CompletesInName (done : Array Sequence) (tokens : Array LabeledToken) (items : List Item)
    (corpus : Corpus) : Prop :=
  ∃ (parts : List NamePart) (rest : List Item),
    parts.flatMap NamePart.items ++ closeTag nameElement :: rest = items ∧
    (∀ element ∈ parts.filterMap NamePart.element?, element.IsLegible) ∧
    CompletesOutside (close done (tokens ++ tokensOf parts)).toList rest corpus

/-- The same for a reader that has read some characters in a label element. -/
def CompletesInLabel (done : Array Sequence) (tokens : Array LabeledToken) (label : String)
    (raw : List Char) (items : List Item) (corpus : Corpus) : Prop :=
  ∃ (texts : List (List Char)) (rest : List Item),
    texts.map .text ++ closeTag label :: rest = items ∧
    hasOverlongCode (raw ++ texts.flatten) = false ∧
    CompletesInName done (Reader.label tokens label (normalize (raw ++ texts.flatten))) rest corpus

/-- The rest of a derivation: items at which a reader gets to a corpus. -/
def Completes (items : List Item) (corpus : Corpus) : Reader → Prop
  | ⟨done, .outside⟩ => CompletesOutside done.toList items corpus
  | ⟨done, .inName _ tokens⟩ => CompletesInName done tokens items corpus
  | ⟨done, .inLabel _ tokens label _ raw⟩ => CompletesInLabel done tokens label raw items corpus

variable {items : List Item} {corpus : Corpus}

/-! ### One item of a derivation -/

@[simp] theorem completesOutside_nil (names : List Sequence) :
    CompletesOutside names [] corpus ↔ names = corpus := by
  constructor
  · rintro ⟨doc, hitems, -, hcorpus⟩
    cases doc with
    | nil => simpa [Document.corpus] using hcorpus
    | cons part doc => cases part <;> simp [Document.items, DocumentPart.items] at hitems
  · intro h
    exact ⟨[], rfl, by simp [Document.IsLegible, Document.labels], by simpa [Document.corpus]⟩

theorem completesOutside_open (done : Array Sequence) :
    CompletesOutside done.toList (openTag nameElement :: items) corpus ↔
      CompletesInName done #[] items corpus := by
  -- an open name without tokens yet counts for what its parts add to it
  have hnames (parts : List NamePart) (doc : Document) :
      done.toList ++ Document.corpus (.name parts :: doc) =
        (close done ((#[] : Array LabeledToken) ++ tokensOf parts)).toList ++ doc.corpus := by
    rw [Document.corpus_name, toList_close, List.append_assoc]
    simp
  constructor
  · rintro ⟨doc, hitems, hlegible, hcorpus⟩
    cases doc with
    | nil => cases hitems
    | cons part doc =>
      cases part with
      | skip item hitem => exact absurd (List.cons.inj hitems).1 hitem
      | name parts =>
        rw [Document.items_name] at hitems
        obtain ⟨hparts, hlegible⟩ := Document.isLegible_name.1 hlegible
        exact ⟨parts, _, (List.cons.inj hitems).2, hparts, doc, rfl, hlegible,
          hnames parts doc ▸ hcorpus⟩
  · rintro ⟨parts, rest, hitems, hparts, doc, hdoc, hlegible, hcorpus⟩
    refine ⟨.name parts :: doc, ?_, Document.isLegible_name.2 ⟨hparts, hlegible⟩, ?_⟩
    · rw [Document.items_name, hdoc, hitems]
    · rw [hnames, hcorpus]

theorem completesOutside_skip (names : List Sequence) {item : Item}
    (hitem : item ≠ openTag nameElement) :
    CompletesOutside names (item :: items) corpus ↔ CompletesOutside names items corpus := by
  constructor
  · rintro ⟨doc, hitems, hlegible, hcorpus⟩
    cases doc with
    | nil => cases hitems
    | cons part doc =>
      cases part with
      | skip item' _ => exact ⟨doc, (List.cons.inj hitems).2, hlegible, hcorpus⟩
      | name parts => exact absurd (List.cons.inj hitems).1.symm hitem
  · rintro ⟨doc, hitems, hlegible, hcorpus⟩
    exact ⟨.skip item hitem :: doc, congrArg (item :: ·) hitems, hlegible, hcorpus⟩

@[simp] theorem not_completesInName_nil : ¬ CompletesInName done tokens [] corpus := by
  rintro ⟨parts, rest, hitems, -⟩
  simp at hitems

/-- A part of a name that is no label element does not matter. -/
theorem completesInName_pass (part : NamePart) {item : Item} (hitem : part.items = [item])
    (hpart : part.element? = none) :
    CompletesInName done tokens (item :: items) corpus ↔
      CompletesInName done tokens items corpus := by
  constructor
  · rintro ⟨parts, rest, hitems, hparts, hrest⟩
    cases parts with
    | nil =>
      obtain ⟨rfl, -⟩ := List.cons.inj hitems
      cases part <;> simp [NamePart.items, singleTag, closeTag, NamePart.element?] at hitem hpart
    | cons part' parts =>
      cases part' with
      | text chars => exact ⟨parts, rest, (List.cons.inj hitems).2, hparts, hrest⟩
      | single name => exact ⟨parts, rest, (List.cons.inj hitems).2, hparts, hrest⟩
      | label element =>
        obtain ⟨rfl, -⟩ := List.cons.inj hitems
        cases part <;> simp [NamePart.items, openTag, singleTag, NamePart.element?] at hitem hpart
  · rintro ⟨parts, rest, hitems, hparts, hrest⟩
    refine ⟨part :: parts, rest, ?_, ?_, ?_⟩
    · rw [List.flatMap_cons, hitem, List.append_assoc, hitems]
      rfl
    · rwa [List.filterMap_cons_none hpart]
    · rwa [tokensOf, List.filterMap_cons_none hpart]

theorem completesInName_open {label : String} (hlabel : label ≠ nameElement) :
    CompletesInName done tokens (openTag label :: items) corpus ↔
      CompletesInLabel done tokens label [] items corpus := by
  constructor
  · rintro ⟨parts, rest, hitems, hparts, hrest⟩
    cases parts with
    | nil => cases hitems
    | cons part parts =>
      cases part with
      | text chars => cases hitems
      | single name => cases hitems
      | label element =>
        rw [List.flatMap_cons, NamePart.items, LabelElement.items, List.cons_append,
          List.cons_append, List.append_assoc, List.append_assoc, List.singleton_append] at hitems
        -- the label of the derivation is the one that was met
        obtain ⟨hopen, htexts⟩ := List.cons.inj hitems
        obtain rfl := openTag_injective hopen
        refine ⟨element.texts, _, htexts, hparts element (by simp [NamePart.element?]), parts, rest,
          rfl, fun element' helement => hparts element' (List.mem_cons_of_mem element helement), ?_⟩
        rw [← label_append_tokensOf] at hrest
        exact hrest
  · rintro ⟨texts, _, rfl, hraw, parts, rest, rfl, hparts, hrest⟩
    refine ⟨.label ⟨label, texts, hlabel⟩ :: parts, rest, ?_, ?_, ?_⟩
    · simp [NamePart.items, LabelElement.items]
    · intro element helement
      rcases List.mem_cons.1 helement with rfl | helement
      · exact hraw
      · exact hparts element helement
    · rw [← label_append_tokensOf]
      exact hrest

theorem not_completesInName_open :
    ¬ CompletesInName done tokens (openTag nameElement :: items) corpus := by
  rintro ⟨parts, rest, hitems, -⟩
  cases parts with
  | nil => cases hitems
  | cons part parts =>
    cases part with
    | text chars => cases hitems
    | single name => cases hitems
    | label element =>
      exact element.label_ne (openTag_injective (List.cons.inj hitems).1)

theorem completesInName_close (name : String) :
    CompletesInName done tokens (closeTag name :: items) corpus ↔
      name = nameElement ∧ CompletesOutside (close done tokens).toList items corpus := by
  constructor
  · rintro ⟨parts, rest, hitems, -, hrest⟩
    cases parts with
    | nil =>
      cases hitems
      exact ⟨rfl, by simpa [tokensOf] using hrest⟩
    | cons part parts =>
      cases part <;>
        simp [NamePart.items, LabelElement.items, openTag, singleTag, closeTag] at hitems
  · rintro ⟨rfl, hrest⟩
    exact ⟨[], items, rfl, by simp, by simpa [tokensOf] using hrest⟩

section

variable (label : String) (raw : List Char)

@[simp] theorem not_completesInLabel_nil : ¬ CompletesInLabel done tokens label raw [] corpus := by
  rintro ⟨texts, rest, hitems, -⟩
  simp at hitems

theorem completesInLabel_text (chars : List Char) :
    CompletesInLabel done tokens label raw (.text chars :: items) corpus ↔
      CompletesInLabel done tokens label (raw ++ chars) items corpus := by
  constructor
  · rintro ⟨texts, rest, hitems, hraw, hrest⟩
    cases texts with
    | nil => cases hitems
    | cons chars texts =>
      cases hitems
      rw [List.flatten_cons, ← List.append_assoc] at hraw hrest
      exact ⟨texts, rest, rfl, hraw, hrest⟩
  · rintro ⟨texts, rest, hitems, hraw, hrest⟩
    rw [List.append_assoc] at hraw hrest
    exact ⟨chars :: texts, rest, congrArg (_ :: ·) hitems, hraw, hrest⟩

/-- The only tag in a label element is the one that closes it. -/
theorem completesInLabel_tag (tag : Tag) :
    CompletesInLabel done tokens label raw (.tag tag :: items) corpus ↔
      .tag tag = closeTag label ∧ hasOverlongCode raw = false ∧
        CompletesInName done (Reader.label tokens label (normalize raw)) items corpus := by
  constructor
  · rintro ⟨texts, rest, hitems, hraw, hrest⟩
    -- a tag can only come behind all texts of the derivation
    cases texts with
    | nil =>
      cases hitems
      rw [List.flatten_nil, List.append_nil] at hraw hrest
      exact ⟨rfl, hraw, hrest⟩
    | cons chars texts => cases hitems
  · rintro ⟨htag, hraw, hrest⟩
    exact ⟨[], items, congrArg (· :: items) htag.symm, by simpa using hraw, by simpa using hrest⟩

end

/-! ### Derivations and runs -/

theorem completes_nil_iff (reader : Reader) :
    Completes [] corpus reader ↔ reader.finish = .ok corpus := by
  obtain ⟨done, state⟩ := reader
  cases state <;> simp [Completes, finish]

/-- What is left of a derivation is left behind a move. -/
theorem Move.completes_iff {reader reader' : Reader} {event : Event}
    (h : Move reader event reader') :
    Completes (event.item :: items) corpus reader ↔ Completes items corpus reader' := by
  cases h with
  | skip done offset item h => exact completesOutside_skip done.toList h
  | openName done => exact completesOutside_open done
  | passText done start tokens offset chars =>
    exact completesInName_pass done tokens (.text chars) rfl rfl
  | passSingle done start tokens offset name =>
    exact completesInName_pass done tokens (.single name) rfl rfl
  | openLabel done start tokens offset label h => exact completesInName_open done tokens h
  | closeName done start tokens =>
    exact (completesInName_close done tokens nameElement).trans (and_iff_right rfl)
  | keepText done start tokens label labelStart raw offset chars =>
    exact completesInLabel_text done tokens label raw chars
  | closeLabel done start tokens label labelStart raw offset h =>
    exact (completesInLabel_tag done tokens label raw ⟨.closing, label⟩).trans
      ((and_iff_right rfl).trans (and_iff_right h))

/-- No derivation goes on with an item that is refused. -/
theorem Refusal.not_completes {reader : Reader} {item : Item} {failure : Failure Violation}
    (h : Refusal reader item failure) : ¬ Completes (item :: items) corpus reader := by
  intro hc
  cases h with
  | nestedName done start tokens => exact not_completesInName_open done tokens hc
  | strayClosing done start tokens name h =>
    exact h ((completesInName_close done tokens name).1 hc).1
  | overlongCode done start tokens label labelStart raw digits h =>
    have hraw := ((completesInLabel_tag done tokens label raw ⟨.closing, label⟩).1 hc).2.1
    rw [hasOverlongCode_eq_false, h] at hraw
    cases hraw
  | mismatchedClosing done start tokens label labelStart raw name h =>
    have htag := ((completesInLabel_tag done tokens label raw ⟨.closing, name⟩).1 hc).1
    cases htag
    exact h rfl
  | nestedTag done start tokens label labelStart raw tag h =>
    have htag := ((completesInLabel_tag done tokens label raw tag).1 hc).1
    cases htag
    exact h rfl

theorem completes_cons_iff (reader : Reader) (event : Event) :
    Completes (event.item :: items) corpus reader ↔
      ∃ reader', reader.step event = .ok reader' ∧ Completes items corpus reader' := by
  rcases step_cases reader event with ⟨reader', hstep, hmove⟩ | ⟨failure, hstep, hrefusal⟩
  · rw [hmove.completes_iff, hstep]
    refine ⟨fun h => ⟨reader', rfl, h⟩, ?_⟩
    rintro ⟨_, ⟨⟩, h⟩
    exact h
  · rw [hstep]
    refine ⟨fun h => absurd h hrefusal.not_completes, ?_⟩
    rintro ⟨_, ⟨⟩, -⟩

/-- A reader gets to a corpus at the events whose items have a derivation. -/
theorem completes_iff (events : List Event) (reader : Reader) :
    Completes (events.map Event.item) corpus reader ↔
      events.foldlM step reader >>= finish = .ok corpus := by
  induction events generalizing reader with
  | nil => exact completes_nil_iff reader
  | cons event events ih =>
    -- what follows the first event is derived from where its step leads
    rw [List.map_cons, completes_cons_iff, List.foldlM_cons, bind_assoc]
    cases reader.step event with
    | error v =>
      refine ⟨?_, fun h => by cases h⟩
      rintro ⟨_, ⟨⟩, -⟩
    | ok reader' =>
      constructor
      · rintro ⟨_, ⟨⟩, hcompletes⟩
        exact (ih reader').1 hcompletes
      · exact fun h => ⟨reader', rfl, (ih reader').2 h⟩

end Reader

end NameTagger.Corpus
