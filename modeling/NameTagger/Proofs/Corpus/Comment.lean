import NameTagger.Proofs.Corpus.Append
import NameTagger.Proofs.Markup.Cut

/-!
# Comments inside a corpus

A comment that stands between two pieces of markup, or inside a run of text, makes no difference to
the corpus that a text describes.  If the text describes none, the violation is the same, and it is
found as many lines further down as the comment has newlines, if it lies behind the comment.

* `offset_of_mem_events`, `le_offset_of_halt`: where the events of a scan lie;
* `inserted`, `scanFrom_inserted`: the offsets of a text with something put in;
* `comment`, `scan_comment`: the scan of a text with a comment put in;
* `lineAt_inserted`: its lines;
* `Reader.read_commented`, `parse_commented`: what comes of it.
-/

namespace NameTagger.Markup

/-! ### Where events lie -/

/-- An event lies inside the text that was scanned. -/
theorem offset_of_mem_events {offset : Nat} {s : List Char} {event : Event}
    (h : event ∈ (scanFrom offset s).events) :
    offset ≤ event.offset ∧ event.offset < offset + s.length := by
  obtain ⟨earlier, later, hevents⟩ := List.append_of_mem h
  obtain ⟨before, rest, -, -, rfl, hoffset, -, hrest, -⟩ := exists_cut hevents
  have hpos := List.length_pos_of_ne_nil hrest
  rw [List.length_append]
  omega

/-- A scan does not end in front of the text that was scanned. -/
theorem le_offset_of_halt {offset : Nat} {s : List Char} {halt : Halt}
    (h : (scanFrom offset s).halt? = some halt) : offset ≤ halt.offset := by
  obtain ⟨before, -, -, hoffset, -⟩ := exists_cut_of_halt h
  omega

/-! ### Offsets with something put in -/

/-- An offset after `k` characters were put in at `m`. -/
def inserted (m k offset : Nat) : Nat := if offset < m then offset else k + offset

theorem inserted_of_lt {m offset : Nat} (h : offset < m) (k : Nat) :
    inserted m k offset = offset := if_pos h

theorem inserted_of_le {m offset : Nat} (h : m ≤ offset) (k : Nat) :
    inserted m k offset = k + offset := if_neg (Nat.not_lt.2 h)

/-- Two ways to change the offsets of a scan that agree on them. -/
theorem Scan.relocate_congr {scan : Scan} {f g : Nat → Nat}
    (hevents : ∀ event ∈ scan.events, f event.offset = g event.offset)
    (hhalt : ∀ halt, scan.halt? = some halt → f halt.offset = g halt.offset) :
    scan.relocate f = scan.relocate g := by
  unfold Scan.relocate
  congr 1
  · refine List.map_congr_left fun event hevent => ?_
    rw [Event.relocate, Event.relocate, hevents event hevent]
  · refine Option.map_congr fun halt hmem => ?_
    rw [Halt.relocate, Halt.relocate, hhalt halt hmem]

theorem Scan.relocate_behind (events : List Event) (scan : Scan) (f : Nat → Nat) :
    (scan.behind events).relocate f = (scan.relocate f).behind (events.map (Event.relocate f)) := by
  unfold Scan.behind Scan.relocate
  rw [List.map_append]

/-- What stands behind a text without a problem is found `k` characters further on if these are put
in between, and the events of the text stay where they are. -/
theorem scanFrom_inserted {a : List Char} {events : List Event} (ha : scan a = ⟨events, none⟩)
    (k : Nat) (b : List Char) :
    (scanFrom (k + a.length) b).behind events =
      ((scanFrom a.length b).behind events).relocate (inserted a.length k) := by
  have hfront : events.map (Event.relocate (inserted a.length k)) = events := by
    refine (List.map_congr_left fun event hevent => ?_).trans (List.map_id events)
    have hlt : event.offset < a.length := by
      have hmem : event ∈ (scanFrom 0 a).events := by
        rw [show scanFrom 0 a = ⟨events, none⟩ from ha]
        exact hevent
      have := (offset_of_mem_events hmem).2
      omega
    rw [Event.relocate, inserted_of_lt hlt]
    rfl
  have hbehind : (scanFrom a.length b).relocate (inserted a.length k) =
      scanFrom (k + a.length) b := by
    rw [scanFrom_add]
    show _ = (scanFrom a.length b).relocate (k + ·)
    apply Scan.relocate_congr
    · intro event hevent
      exact inserted_of_le (offset_of_mem_events hevent).1 k
    · intro halt hhalt
      exact inserted_of_le (le_offset_of_halt hhalt) k
  rw [Scan.relocate_behind, hfront, hbehind]

/-- The characters of a comment. -/
def comment (inner : List Char) : List Char := "<!--".toList ++ inner ++ "-->".toList

/-- A comment between two texts puts off what is met behind it, and that is all. -/
theorem scan_comment {a inner : List Char} {events : List Event} (ha : scan a = ⟨events, none⟩)
    (hinner : ¬ ['-', '-', '>'] <:+: inner) (b : List Char) :
    scan (a ++ comment inner ++ b) =
      ((scanFrom a.length b).behind events).relocate
        (inserted a.length (comment inner).length) := by
  have hcomment : comment inner ++ b =
      '<' :: '!' :: '-' :: '-' :: (inner ++ '-' :: '-' :: '>' :: b) := by
    simp [comment]
  have hhead : ∀ c, (comment inner ++ b).head? = some c → c = '<' := by
    rw [hcomment]
    rintro c ⟨⟩
    rfl
  have hskip : scanFrom a.length (comment inner ++ b) =
      scanFrom (a.length + (comment inner).length) b := by
    rw [hcomment, scanFrom_of_read (by simp) (read_comment hinner b)]
    rfl
  have hfront := scanFrom_append ha hhead
  rw [Nat.zero_add] at hfront
  rw [List.append_assoc, scan, hfront, hskip, Nat.add_comm, scanFrom_inserted ha]

end NameTagger.Markup

namespace NameTagger.Corpus

open Text Markup

namespace Reader

/-- A text with a comment put in is read as it is without the comment. -/
theorem read_commented {a inner : List Char} (ha : (scan a).halt? = none)
    (hinner : ¬ ['-', '-', '>'] <:+: inner) (b : List Char) :
    start.read 0 (a ++ comment inner ++ b) =
      Corpus.relocate [] (inserted a.length (comment inner).length) (start.read 0 (a ++ b)) := by
  obtain ⟨events, hscan⟩ : ∃ events, scan a = ⟨events, none⟩ := ⟨_, by rw [← ha]⟩
  rw [read_scanned hscan, Nat.zero_add, ← readScan_relocate]
  show start.readScan (scan (a ++ comment inner ++ b)) = _
  rw [scan_comment hscan hinner]
  rfl

end Reader

/-! ### Whole texts -/

/-- The line of a place in front of something does not depend on that. -/
theorem lineAt_front (s s' : List Char) {offset : Nat} (h : offset ≤ s.length) :
    lineAt (s ++ s') offset = lineAt s offset := by
  rw [lineAt, lineAt, List.take_append_of_le_length h]

/-- The line of a place in a text with something put in. -/
theorem lineAt_inserted (a c b : List Char) (offset : Nat) :
    lineAt (a ++ c ++ b) (inserted a.length c.length offset) =
      lineAt (a ++ b) offset + if offset < a.length then 0 else c.count '\n' := by
  split
  · next hlt =>
    have hfront (s : List Char) := lineAt_front a s (Nat.le_of_lt hlt)
    rw [inserted_of_lt hlt, List.append_assoc, hfront, hfront, Nat.add_zero]
  · next hle =>
    obtain ⟨behind, rfl⟩ := Nat.exists_eq_add_of_le (Nat.not_lt.1 hle)
    have hlength : c.length + (a.length + behind) = (a ++ c).length + behind := by
      rw [List.length_append]
      omega
    rw [inserted_of_le (Nat.le_add_right _ _), hlength, lineAt_append, lineAt_append,
      List.count_append]
    omega

/-- A comment makes no difference to the corpus, and none to an error but for its line, which lies
as many lines further down as the comment has newlines if the place to blame is behind it.  It may
stand wherever the text in front of it is no tag or section that is still open. -/
theorem parse_commented {a c : String} (ha : (scan a.toList).halt? = none)
    (hc : ¬ ['-', '-', '>'] <:+: c.toList) (b : String) :
    (∀ corpus, parse (a ++ b) = .ok corpus →
      parse (a ++ ("<!--" ++ c ++ "-->") ++ b) = .ok corpus) ∧
    ∀ failure, ofScan (scan (a ++ b).toList) = .error failure →
      parse (a ++ b) =
        .error (failure.map fun v => ⟨v.violation, lineAt (a ++ b).toList v.offset⟩) ∧
      parse (a ++ ("<!--" ++ c ++ "-->") ++ b) =
        .error (failure.map fun v => ⟨v.violation, lineAt (a ++ b).toList v.offset +
          if v.offset < a.toList.length then 0 else c.toList.count '\n'⟩) := by
  have htext : (a ++ ("<!--" ++ c ++ "-->") ++ b).toList =
      a.toList ++ comment c.toList ++ b.toList := by
    simp only [String.toList_append, comment]
  have hlines : (comment c.toList).count '\n' = c.toList.count '\n' := by
    rw [comment, List.count_append, List.count_append]
    simp
  rw [parse, parse, Reader.ofScan_scan, Reader.ofScan_scan, htext, Reader.read_commented ha hc,
    String.toList_append]
  cases Reader.start.read 0 (a.toList ++ b.toList) with
  | ok corpus => exact ⟨fun corpus' h => h, fun failure h => by cases h⟩
  | error failure =>
    refine ⟨fun corpus' h => (by cases h), fun failure' h => ?_⟩
    cases h
    cases failure with
    | overlongCode digits => exact ⟨rfl, rfl⟩
    | malformed v =>
      refine ⟨by rw [← String.toList_append]; rfl, ?_⟩
      show Except.error (Failure.malformed (Error.mk v.violation
        (lineAt _ (inserted _ _ v.offset)))) = _
      rw [htext, lineAt_inserted, hlines]
      rfl

/-- A comment with brackets and a newline inside a character reference. -/
theorem parse_commented_reference :
    parse "<Name>\n<B>R&am<!--<B>\n>-->p;D</B></Name>" = .ok [[⟨"R&D", "B"⟩]] ∧
      parse "<Name>\n<B>R&am<!--<B>\n>-->p;D</B><C>" =
        .error (.malformed ⟨.openLabel "C", 3⟩) := by
  have ha : (scan "<Name>\n<B>R&am".toList).halt? = none := by decide +kernel
  have hc : ¬ ['-', '-', '>'] <:+: "<B>\n>".toList := by decide
  refine ⟨(parse_commented ha hc "p;D</B></Name>").1 _ (by decide +kernel), ?_⟩
  exact ((parse_commented ha hc "p;D</B><C>").2 (.malformed ⟨.openLabel "C", 21⟩)
    (by decide +kernel)).2

end NameTagger.Corpus
