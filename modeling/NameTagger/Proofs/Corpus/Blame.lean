import Mathlib.Data.List.Induction
import NameTagger.Proofs.Corpus.Reading
import NameTagger.Proofs.Markup.TagName

/-!
# The place to blame for a violation

An error names the line of a bracket: that of the tag or section that is not allowed, or that of the
tag which opened what the end of the text leaves open.  Nothing before the bracket is a violation,
and a tag that is one is blamed in the same way whatever follows it.

* `Violation.isOpen`, `Violation.isOfTag`: the violations of the end of a text, and of a tag;
* `IsCause`, `Blame`: what is wrong at a bracket, and an error that is blamed on it;
* `exists_of_foldlM_error`: the event at which a reader stops;
* `Traced`, `traced_of_foldlM`: where that was opened which a reader has open;
* `blame_of_refusal`, `blame_of_halt`, `blame_of_finish`: the three ways in which reading fails;
* `parse_code`: a character code of too many digits is refused without a place;
* `exists_blame_of_parse`: the place to blame for an error.
-/

namespace NameTagger.Corpus

open Text Markup

/-! ### Causes -/

/-- The violations that are found at the end of a text, where something is still open. -/
def Violation.isOpen : Violation → Bool
  | .openLabel _ => true
  | .openName => true
  | _ => false

/-- The violations that a complete tag commits. -/
def Violation.isOfTag : Violation → Bool
  | .nestedName => true
  | .strayClosing _ => true
  | .mismatchedClosing _ _ => true
  | .nestedTag _ _ => true
  | _ => false

/-- The end of a text leaves a name open, but no label. -/
def LeavesName (s : List Char) : Prop :=
  ∃ line, parse (String.ofList s) = .error (.malformed ⟨.openName, line⟩)

/-- The end of a text leaves a label open. -/
def LeavesLabel (s : List Char) (label : String) : Prop :=
  ∃ line, parse (String.ofList s) = .error (.malformed ⟨.openLabel label, line⟩)

/-- What is wrong with a text from a bracket on, by what stands before the bracket. -/
inductive IsCause (before rest : List Char) : Violation → Prop
  | markup {problem : Problem} (h : HasProblem rest problem) : IsCause before rest (.markup problem)
  | nestedName {inner behind : List Char} (hopen : LeavesName before)
      (htag : TagAt rest inner behind ⟨.opening, nameElement⟩) : IsCause before rest .nestedName
  | strayClosing {inner behind : List Char} {name : String} (hopen : LeavesName before)
      (htag : TagAt rest inner behind ⟨.closing, name⟩) (hname : name ≠ nameElement) :
      IsCause before rest (.strayClosing name)
  | mismatchedClosing {inner behind : List Char} {name label : String}
      (hopen : LeavesLabel before label) (htag : TagAt rest inner behind ⟨.closing, name⟩)
      (hname : name ≠ label) : IsCause before rest (.mismatchedClosing name label)
  | nestedTag {inner behind : List Char} {tag : Tag} {label : String}
      (hopen : LeavesLabel before label) (htag : TagAt rest inner behind tag)
      (hkind : tag.kind ≠ .closing) : IsCause before rest (.nestedTag tag.name label)
  | openLabel {inner behind : List Char} {label : String} (hopen : LeavesName before)
      (htag : TagAt rest inner behind ⟨.opening, label⟩) (hlabel : label ≠ nameElement)
      (hend : (scan behind).halt? = none)
      (hbehind : ∀ event ∈ (scan behind).events, ∀ tag, event.item ≠ .tag tag) :
      IsCause before rest (.openLabel label)
  | openName {inner behind : List Char} {corpus : Corpus}
      (hclosed : parse (String.ofList before) = .ok corpus)
      (htag : TagAt rest inner behind ⟨.opening, nameElement⟩)
      (hend : (scan behind).halt? = none)
      (hbehind : ∀ event ∈ (scan behind).events, event.item ≠ closeTag nameElement) :
      IsCause before rest .openName

/-- An error is blamed on the bracket that divides a text into two parts. -/
structure Blame (text : String) (e : Error) (before rest : List Char) : Prop where
  text_eq : text.toList = before ++ rest
  bracket : rest.head? = some '<'
  line : e.line = 1 + before.count '\n'
  cause : IsCause before rest e.violation
  /-- There is no earlier violation, and nothing else fails earlier. -/
  first : e.violation.isOpen = false → ∀ failure, parse (String.ofList before) = .error failure →
    ∃ e', failure = .malformed e' ∧ e'.violation.isOpen = true
  /-- What follows the tag does not matter. -/
  settled : e.violation.isOfTag = true →
    ∃ inner behind, rest = '<' :: inner ++ '>' :: behind ∧ (∀ c ∈ inner, c ≠ '<' ∧ c ≠ '>') ∧
      ∀ rest', parse (String.ofList (before ++ ('<' :: inner ++ '>' :: rest'))) =
        .error (.malformed e)

/-! ### Readers and scans -/

/-- A text is blamed for what its scan is blamed for. -/
theorem parse_ofList_error {s : List Char} {v : Violation.At}
    (h : ofScan (scan s) = .error (.malformed v)) :
    parse (String.ofList s) = .error (.malformed ⟨v.violation, lineAt s v.offset⟩) := by
  have hline : v.inText (String.ofList s) = ⟨v.violation, lineAt s v.offset⟩ := by
    rw [Violation.At.inText, String.toList_ofList]
  rw [parse, String.toList_ofList, h, ← hline]
  rfl

theorem lineAt_length_append (before rest : List Char) :
    lineAt (before ++ rest) before.length = 1 + before.count '\n' := by
  rw [lineAt, List.take_left, Nat.add_comm]

/-- The line of what stands behind the first part of a text. -/
theorem lineAt_of_cut {s before rest : List Char} {offset : Nat} (hs : s = before ++ rest)
    (hoffset : offset = 0 + before.length) : lineAt s offset = 1 + before.count '\n' := by
  rw [hs, hoffset, Nat.zero_add, lineAt_length_append]

namespace Reader

theorem ofScan_of_foldlM {s : List Char} {events : List Event} {reader : Reader}
    (hscan : scanFrom 0 s = ⟨events, none⟩)
    (hrun : events.foldlM Reader.step .start = .ok reader) :
    ofScan (scan s) = reader.finish := by
  rw [scan, hscan, ofScan]
  show events.foldlM Reader.step .start >>= (fun reader => reader.finish) = _
  rw [hrun]
  rfl

/-- What comes behind events that a reader gets through. -/
theorem ofScan_behind {events : List Event} {reader : Reader}
    (hrun : events.foldlM Reader.step .start = .ok reader) (scan : Scan) :
    ofScan (scan.behind events) = reader.readScan scan := by
  rw [ofScan, Scan.behind]
  show (events ++ scan.events).foldlM Reader.step .start >>= _ = _
  rw [List.foldlM_append, hrun]
  rfl

/-- What is met in a text does not depend on where it begins. -/
theorem scan_of_scanFrom {k : Nat} {s : List Char} {events : List Event}
    (hscan : scanFrom k s = ⟨events, none⟩) :
    (scan s).halt? = none ∧
      ∀ event ∈ (scan s).events, ∃ event' ∈ events, event'.item = event.item := by
  rw [← Nat.add_zero k, scanFrom_add] at hscan
  have hevents : (scan s).events.map (Event.later k) = events := congrArg Scan.events hscan
  have hhalt : (scan s).halt?.map (Halt.later k) = none := congrArg Scan.halt? hscan
  exact ⟨Option.map_eq_none_iff.1 hhalt,
    fun event hevent => ⟨event.later k, hevents ▸ List.mem_map_of_mem hevent, rfl⟩⟩

/-- Only what is open at the end of a text is blamed there. -/
theorem isOpen_of_finish {reader : Reader} {failure : Failure Violation.At}
    (h : reader.finish = .error failure) :
    ∃ v, failure = .malformed v ∧ v.violation.isOpen = true := by
  obtain ⟨done, state⟩ := reader
  cases state <;> cases h <;> exact ⟨_, rfl, rfl⟩

section

variable {before : List Char} {earlier : List Event} {reader : Reader}
  (hscan : scanFrom 0 before = ⟨earlier, none⟩)
  (hrun : earlier.foldlM Reader.step .start = .ok reader)
include hscan hrun

/-- A text that a reader gets through is at most left open. -/
theorem isOpen_of_parse {failure : Failure Error}
    (h : parse (String.ofList before) = .error failure) :
    ∃ e, failure = .malformed e ∧ e.violation.isOpen = true := by
  obtain ⟨failure', hfailure, rfl⟩ := exists_of_parse_eq_error h
  rw [String.toList_ofList, ofScan_of_foldlM hscan hrun] at hfailure
  obtain ⟨v, rfl, hopen⟩ := isOpen_of_finish hfailure
  exact ⟨_, rfl, hopen⟩

theorem leavesName {start : Nat} {tokens : Array LabeledToken}
    (hstate : reader.state = .inName start tokens) : LeavesName before := by
  have hfinish : reader.finish = .error (.malformed ⟨.openName, start⟩) := by rw [finish, hstate]
  exact ⟨_, parse_ofList_error ((ofScan_of_foldlM hscan hrun).trans hfinish)⟩

theorem leavesLabel {start labelStart : Nat} {tokens : Array LabeledToken} {label : String}
    {raw : List Char} (hstate : reader.state = .inLabel start tokens label labelStart raw) :
    LeavesLabel before label := by
  have hfinish : reader.finish = .error (.malformed ⟨.openLabel label, labelStart⟩) := by
    rw [finish, hstate]
  exact ⟨_, parse_ofList_error ((ofScan_of_foldlM hscan hrun).trans hfinish)⟩

/-- A tag that is refused behind a text is refused whatever follows it. -/
theorem parse_of_refused {s inner behind : List Char} {tag : Tag} {violation : Violation}
    (htag : TagAt s inner behind tag) (hrefusal : Refusal reader (.tag tag) (.malformed violation))
    (rest : List Char) :
    parse (String.ofList (before ++ ('<' :: inner ++ '>' :: rest))) =
      .error (.malformed ⟨violation, 1 + before.count '\n'⟩) := by
  have hstep : reader.step ⟨before.length, .tag tag⟩ =
      .error (.malformed ⟨violation, before.length⟩) :=
    @Refusal.step reader ⟨before.length, .tag tag⟩ (.malformed violation) hrefusal
  have hscan' : ofScan (scan (before ++ ('<' :: inner ++ '>' :: rest))) =
      .error (.malformed ⟨violation, before.length⟩) := by
    have hbracket : ∀ c, ('<' :: inner ++ '>' :: rest).head? = some c → c = '<' :=
      fun c hc => (Option.some.inj hc).symm
    rw [scan, scanFrom_append hscan hbracket, Nat.zero_add, scanFrom_of_read (by simp)
      (htag.read rest), htag.item?, ofScan_behind hrun]
    show reader.readScan (Scan.push before.length (some (.tag tag)) _) = _
    rw [readScan_push, hstep]
    rfl
  rw [parse_ofList_error hscan', lineAt_length_append]

end

/-- The event at which a reader stops. -/
theorem exists_of_foldlM_error {reader : Reader} {events : List Event}
    {failure : Failure Violation.At} (h : events.foldlM Reader.step reader = .error failure) :
    ∃ earlier event later reader', events = earlier ++ event :: later ∧
      earlier.foldlM Reader.step reader = .ok reader' ∧ reader'.step event = .error failure := by
  induction events generalizing reader with
  | nil => cases h
  | cons event events ih =>
    rw [List.foldlM_cons] at h
    cases hstep : reader.step event with
    | error failure' =>
      rw [hstep] at h
      cases h
      exact ⟨[], event, events, reader, rfl, rfl, hstep⟩
    | ok middle =>
      rw [hstep] at h
      obtain ⟨earlier, stop, later, reader', rfl, hrun, hstop⟩ := ih h
      refine ⟨event :: earlier, stop, later, reader', rfl, ?_, hstop⟩
      rw [List.foldlM_cons, hstep]
      exact hrun

/-! ### What is open -/

/-- The tag at an offset opened the name that is open behind some events. -/
def OpensName (events : List Event) (start : Nat) : Prop :=
  ∃ earlier later done, events = earlier ++ ⟨start, openTag nameElement⟩ :: later ∧
    earlier.foldlM Reader.step .start = .ok ⟨done, .outside⟩ ∧
    ∀ event ∈ later, event.item ≠ closeTag nameElement

/-- The tag at an offset opened the label that is open behind some events. -/
def OpensLabel (events : List Event) (start : Nat) (tokens : Array LabeledToken) (label : String)
    (labelStart : Nat) : Prop :=
  ∃ earlier later done, events = earlier ++ ⟨labelStart, openTag label⟩ :: later ∧
    earlier.foldlM Reader.step .start = .ok ⟨done, .inName start tokens⟩ ∧
    ∀ event ∈ later, ∀ tag, event.item ≠ .tag tag

theorem OpensName.snoc {events : List Event} {start : Nat} (h : OpensName events start)
    {event : Event} (hevent : event.item ≠ closeTag nameElement) :
    OpensName (events ++ [event]) start := by
  obtain ⟨earlier, later, done, rfl, hrun, hlater⟩ := h
  exact ⟨earlier, later ++ [event], done, by simp, hrun,
    List.forall_mem_append.2 ⟨hlater, List.forall_mem_singleton.2 hevent⟩⟩

theorem OpensLabel.snoc_text {events : List Event} {start labelStart : Nat}
    {tokens : Array LabeledToken} {label : String}
    (h : OpensLabel events start tokens label labelStart) (offset : Nat) (chars : List Char) :
    OpensLabel (events ++ [⟨offset, .text chars⟩]) start tokens label labelStart := by
  obtain ⟨earlier, later, done, rfl, hrun, hlater⟩ := h
  refine ⟨earlier, later ++ [⟨offset, .text chars⟩], done, by simp, hrun, ?_⟩
  exact List.forall_mem_append.2 ⟨hlater, List.forall_mem_singleton.2 (by rintro tag ⟨⟩)⟩

/-- What is open behind some events was opened by tags among them. -/
inductive Traced (events : List Event) : State → Prop
  | outside : Traced events .outside
  | inName {start : Nat} (tokens : Array LabeledToken) (hname : OpensName events start) :
      Traced events (.inName start tokens)
  | inLabel {start labelStart : Nat} {tokens : Array LabeledToken} {label : String}
      (raw : List Char) (hname : OpensName events start) (hne : label ≠ nameElement)
      (hlabel : OpensLabel events start tokens label labelStart) :
      Traced events (.inLabel start tokens label labelStart raw)

theorem Traced.move {events : List Event} {reader reader' : Reader} {event : Event}
    (h : Traced events reader.state) (hrun : events.foldlM Reader.step .start = .ok reader)
    (hmove : Move reader event reader') : Traced (events ++ [event]) reader'.state := by
  cases hmove with
  | skip => exact .outside
  | openName done offset => exact .inName _ ⟨events, [], done, rfl, hrun, List.forall_mem_nil _⟩
  | passText =>
    cases h with
    | inName _ hname => exact .inName _ (hname.snoc (by rintro ⟨⟩))
  | passSingle =>
    cases h with
    | inName _ hname => exact .inName _ (hname.snoc (by rintro ⟨⟩))
  | openLabel done start tokens offset label hlabel =>
    cases h with
    | inName _ hname =>
      exact .inLabel _ (hname.snoc (by rintro ⟨⟩)) hlabel
        ⟨events, [], done, rfl, hrun, List.forall_mem_nil _⟩
  | closeName => exact .outside
  | keepText =>
    cases h with
    | inLabel _ hname hne hlabel =>
      exact .inLabel _ (hname.snoc (by rintro ⟨⟩)) hne (hlabel.snoc_text _ _)
  | closeLabel _ _ _ label =>
    cases h with
    | inLabel _ hname hne _ =>
      refine .inName _ (hname.snoc fun hitem => hne ?_)
      simpa [closeTag] using hitem

theorem traced_of_foldlM {events : List Event} {reader : Reader}
    (h : events.foldlM Reader.step .start = .ok reader) : Traced events reader.state := by
  induction events using List.reverseRecOn generalizing reader with
  | nil =>
    cases h
    exact .outside
  | append_singleton events event ih =>
    rw [List.foldlM_append] at h
    cases hrun : events.foldlM Reader.step .start with
    | error v =>
      rw [hrun] at h
      cases h
    | ok middle =>
      rw [hrun] at h
      have hstep : middle.step event = .ok reader := by
        have hlast : List.foldlM Reader.step middle [event] = .ok reader := h
        rw [List.foldlM_cons] at hlast
        cases hstep : middle.step event with
        | error v =>
          rw [hstep] at hlast
          cases hlast
        | ok last =>
          rw [hstep] at hlast
          exact hlast
      exact (ih hrun).move hrun (.of_step hstep)

/-! ### The place to blame -/

theorem Refusal.exists_tag {reader : Reader} {item : Item} {failure : Failure Violation}
    (h : Refusal reader item failure) : ∃ tag, item = .tag tag := by
  cases h <;> exact ⟨_, rfl⟩

theorem isCause_of_refusal {before rest inner behind : List Char} {earlier : List Event}
    {reader : Reader} {item : Item} {tag : Tag} {violation : Violation}
    (hscan : scanFrom 0 before = ⟨earlier, none⟩)
    (hrun : earlier.foldlM Reader.step .start = .ok reader) (htag : TagAt rest inner behind tag)
    (hitem : item = .tag tag) (hrefusal : Refusal reader item (.malformed violation)) :
    IsCause before rest violation := by
  cases hrefusal with
  | nestedName =>
    cases hitem
    exact .nestedName (leavesName hscan hrun rfl) htag
  | strayClosing _ _ _ name hname =>
    cases hitem
    exact .strayClosing (leavesName hscan hrun rfl) htag hname
  | mismatchedClosing _ _ _ _ _ _ name hname =>
    cases hitem
    exact .mismatchedClosing (leavesLabel hscan hrun rfl) htag hname
  | nestedTag _ _ _ _ _ _ tag hkind =>
    cases hitem
    exact .nestedTag (leavesLabel hscan hrun rfl) htag hkind

/-- A tag that is refused is to blame. -/
theorem blame_of_refusal {text : String} {earlier later : List Event} {event : Event}
    {reader : Reader} {violation : Violation}
    (hevents : (scan text.toList).events = earlier ++ event :: later)
    (hrun : earlier.foldlM Reader.step .start = .ok reader)
    (hrefusal : Refusal reader event.item (.malformed violation)) :
    ∃ before rest, Blame text ⟨violation, lineAt text.toList event.offset⟩ before rest := by
  obtain ⟨before, rest, piece, behind, htext, hoffset, hscan, -, hread, hitem, -⟩ :=
    exists_cut hevents
  obtain ⟨tag, htag⟩ := hrefusal.exists_tag
  rw [htag] at hitem
  obtain ⟨inner, -, hat⟩ := TagAt.of_read hread hitem
  have hline := lineAt_of_cut htext hoffset
  refine ⟨before, rest, htext, by rw [hat.text]; rfl, hline,
    isCause_of_refusal hscan hrun hat htag hrefusal, fun _ _ => isOpen_of_parse hscan hrun,
    fun _ => ⟨inner, behind, hat.text, hat.unbracketed, fun rest' => ?_⟩⟩
  rw [parse_of_refused hscan hrun hat (htag ▸ hrefusal) rest', hline]

/-- What ends a scan is to blame if there was no violation before it. -/
theorem blame_of_halt {text : String} {reader : Reader} {halt : Halt}
    (hhalt : (scan text.toList).halt? = some halt)
    (hrun : (scan text.toList).events.foldlM Reader.step .start = .ok reader) :
    ∃ before rest,
      Blame text ⟨.markup halt.problem, lineAt text.toList halt.offset⟩ before rest := by
  obtain ⟨before, rest, htext, hoffset, hscan, hproblem⟩ := exists_cut_of_halt hhalt
  exact ⟨before, rest, htext, hproblem.head?, lineAt_of_cut htext hoffset, .markup hproblem,
    fun _ _ => isOpen_of_parse hscan hrun, by rintro ⟨⟩⟩

/-- The tag that opened what is left open is to blame if there was no violation. -/
theorem blame_of_finish {text : String} {reader : Reader} {v : Violation.At}
    (hhalt : (scan text.toList).halt? = none)
    (hrun : (scan text.toList).events.foldlM Reader.step .start = .ok reader)
    (hfinish : reader.finish = .error (.malformed v)) :
    ∃ before rest, Blame text ⟨v.violation, lineAt text.toList v.offset⟩ before rest := by
  have htraced := traced_of_foldlM hrun
  obtain ⟨done, state⟩ := reader
  cases htraced with
  | outside => cases hfinish
  | inName tokens hname =>
    cases hfinish
    obtain ⟨earlier, later, done', hevents, hearlier, hlater⟩ := hname
    obtain ⟨before, rest, piece, behind, htext, hoffset, hscan, -, hread, hitem, hbehind⟩ :=
      exists_cut hevents
    obtain ⟨inner, -, hat⟩ := TagAt.of_read hread hitem
    have hclosed : parse (String.ofList before) = .ok done'.toList := by
      rw [parse, String.toList_ofList, ofScan_of_foldlM hscan hearlier]
      rfl
    obtain ⟨hend, hmet⟩ := scan_of_scanFrom (hbehind.trans (congrArg (Scan.mk later) hhalt))
    refine ⟨before, rest, htext, by rw [hat.text]; rfl, lineAt_of_cut htext hoffset,
      .openName hclosed hat hend fun event hevent => ?_, by rintro ⟨⟩, by rintro ⟨⟩⟩
    obtain ⟨event', hmem, heq⟩ := hmet event hevent
    exact heq ▸ hlater event' hmem
  | inLabel raw _ hne hlabel =>
    cases hfinish
    obtain ⟨earlier, later, done', hevents, hearlier, hlater⟩ := hlabel
    obtain ⟨before, rest, piece, behind, htext, hoffset, hscan, -, hread, hitem, hbehind⟩ :=
      exists_cut hevents
    obtain ⟨inner, -, hat⟩ := TagAt.of_read hread hitem
    obtain ⟨hend, hmet⟩ := scan_of_scanFrom (hbehind.trans (congrArg (Scan.mk later) hhalt))
    refine ⟨before, rest, htext, by rw [hat.text]; rfl, lineAt_of_cut htext hoffset,
      .openLabel (leavesName hscan hearlier rfl) hat hne hend fun event hevent => ?_,
      by rintro ⟨⟩, by rintro ⟨⟩⟩
    obtain ⟨event', hmem, heq⟩ := hmet event hevent
    exact heq ▸ hlater event' hmem

end Reader

/-! ### Codes of too many digits -/

/-- A decimal code of too many digits is found behind its ampersand. -/
theorem overlongCode?_code {digits : List Char} (hdigits : ∀ c ∈ digits, Reference.isCodeDigit c)
    (hlong : Decimal.longestInteger < digits.length) :
    overlongCode? ('&' :: '#' :: (digits ++ [';'])) = some digits.length := by
  have hlength : codeLength ('#' :: (digits ++ [';'])) = digits.length := by
    rw [codeLength, List.takeWhile_append_of_pos hdigits]
    simp [Reference.isCodeDigit]
  rw [overlongCode?, hlength]
  simp [hlong]

/-- A code that cannot be read ends the reading behind its label element. -/
theorem Reader.read_overlong {raw : List Char} {digits : Nat} (hraw : '<' ∉ raw)
    (hcode : overlongCode? raw = some digits) :
    start.read 0 ("<Name><A>".toList ++ (raw ++ "</A></Name>".toList)) =
      .error (.overlongCode digits) := by
  have hne : raw ≠ [] := by
    rintro rfl
    cases hcode
  have hname := @read_tag "Name".toList ⟨.opening, nameElement⟩ .start 0 (by simp) (by simp)
    (by decide +kernel)
  have hlabel := @read_tag "A".toList ⟨.opening, "A"⟩ ⟨#[], .inName 0 #[]⟩ 6 (by simp) (by simp)
    (by decide +kernel)
  have hclose := @read_tag "/A".toList ⟨.closing, "A"⟩ ⟨#[], .inLabel 0 #[] "A" 6 raw⟩
    (9 + raw.length) (by simp) (by simp) (by decide +kernel) "</Name>".toList
  have hopened : step ⟨#[], .inName 0 #[]⟩ ⟨6, openTag "A"⟩ =
      .ok ⟨#[], .inLabel 0 #[] "A" 6 []⟩ := by decide +kernel
  have hrefused : step ⟨#[], .inLabel 0 #[] "A" 6 raw⟩ ⟨9 + raw.length, closeTag "A"⟩ =
      .error (.overlongCode digits) :=
    @Refusal.step _ ⟨9 + raw.length, _⟩ _ (.overlongCode #[] 0 #[] "A" 6 raw digits hcode)
  calc start.read 0 ("<Name><A>".toList ++ (raw ++ "</A></Name>".toList))
      = (⟨#[], .inName 0 #[]⟩ : Reader).read 6 ("<A>".toList ++ (raw ++ "</A></Name>".toList)) :=
        hname _
    _ = (⟨#[], .inLabel 0 #[] "A" 6 []⟩ : Reader).read 9 (raw ++ "</A></Name>".toList) := by
        refine (hlabel _).trans ?_
        rw [← openTag, hopened]
        rfl
    _ = (⟨#[], .inLabel 0 #[] "A" 6 raw⟩ : Reader).read (9 + raw.length) "</A></Name>".toList :=
        read_text _ 9 hne hraw (by simp)
    _ = .error (.overlongCode digits) := by
        refine hclose.trans ?_
        rw [← closeTag, hrefused]
        rfl

/-- A name whose token is such a code is refused without an error that names a line. -/
theorem parse_code {digits : List Char} (hdigits : ∀ c ∈ digits, Reference.isCodeDigit c)
    (hlong : Decimal.longestInteger < digits.length) :
    parse (String.ofList ("<Name><A>".toList ++
      ('&' :: '#' :: (digits ++ [';']) ++ "</A></Name>".toList))) =
        .error (.overlongCode digits.length) := by
  have hraw : '<' ∉ '&' :: '#' :: (digits ++ [';']) := by
    have hbracket : '<' ∉ digits := fun h => absurd (hdigits _ h) (by decide)
    simp [hbracket]
  have hscan := Reader.read_overlong hraw (overlongCode?_code hdigits hlong)
  rw [← Reader.ofScan_scan] at hscan
  generalize "<Name><A>".toList ++ ('&' :: '#' :: (digits ++ [';']) ++ "</A></Name>".toList) = s
    at hscan ⊢
  rw [parse, String.toList_ofList, hscan]
  rfl

/-! ### Whole texts -/

/-- Every error is blamed on a bracket: on that of the first tag or section that is not allowed, or
on that of the tag which opened what the end of the text leaves open.  It names the line of the
bracket. -/
theorem exists_blame_of_parse {text : String} {e : Error}
    (h : parse text = .error (.malformed e)) : ∃ before rest, Blame text e before rest := by
  obtain ⟨v, hscan, rfl⟩ : ∃ v, ofScan (scan text.toList) = .error (.malformed v) ∧
      e = v.inText text := by
    obtain ⟨failure, hscan, hfailure⟩ := exists_of_parse_eq_error h
    cases failure with
    | malformed v => exact ⟨v, hscan, Failure.malformed.inj hfailure⟩
    | overlongCode digits => cases hfailure
  cases hrun : (scan text.toList).events.foldlM Reader.step .start with
  | error failure =>
    rw [ofScan, hrun] at hscan
    cases hscan
    obtain ⟨earlier, event, later, reader, hevents, hearlier, hstep⟩ :=
      Reader.exists_of_foldlM_error hrun
    obtain ⟨failure, hfailure, hrefusal⟩ := Reader.Refusal.of_step hstep
    cases failure with
    | malformed violation =>
      cases hfailure
      exact Reader.blame_of_refusal hevents hearlier hrefusal
    | overlongCode digits => cases hfailure
  | ok reader =>
    rw [ofScan, hrun] at hscan
    cases hhalt : (scan text.toList).halt? with
    | some halt =>
      rw [hhalt] at hscan
      cases hscan
      exact Reader.blame_of_halt hhalt hrun
    | none =>
      rw [hhalt] at hscan
      exact Reader.blame_of_finish hhalt hrun hscan

/-- The first of several mistakes is to blame: a tag inside a label on the third line, before a
label that is closed by another tag and a section without an end. -/
theorem exists_blame_of_parse_nested :
    let text := "<!-- > -->\n<Name>\n<GivenName>J<b>o</SurName>\n<!-- "
    parse text = .error (.malformed ⟨.nestedTag "b" "GivenName", 3⟩) ∧
      ∃ before rest, Blame text ⟨.nestedTag "b" "GivenName", 3⟩ before rest := by
  intro text
  have hparse : parse text = .error (.malformed ⟨.nestedTag "b" "GivenName", 3⟩) := by
    decide +kernel
  exact ⟨hparse, exists_blame_of_parse hparse⟩

/-- No bracket is blamed for a code of 4301 digits. -/
theorem not_blame_code :
    let text := String.ofList ("<Name><A>".toList ++
      ('&' :: '#' :: (List.replicate 4301 '1' ++ [';']) ++ "</A></Name>".toList))
    (∃ failure, parse text = .error failure) ∧
      ¬ ∃ e before rest, parse text = .error (.malformed e) ∧ Blame text e before rest := by
  intro text
  have hparse : parse text = .error (.overlongCode 4301) := by
    have hcode := @parse_code (List.replicate 4301 '1')
      (fun c hc => by rw [List.eq_of_mem_replicate hc]; decide)
      (by rw [List.length_replicate]; decide)
    rwa [List.length_replicate] at hcode
  refine ⟨⟨_, hparse⟩, ?_⟩
  rintro ⟨e, -, -, he, -⟩
  rw [hparse] at he
  cases he

end NameTagger.Corpus
