import NameTagger.Proofs.Corpus.Reading
import NameTagger.Proofs.Markup.Cut

/-!
# What stands in front is read first

The events of a text come before those of what follows it, unless a problem ends its scan.  A run of
text at the seam is one event or two, which makes no difference to a reader.

* `Reader.read_scanned`: a text without a problem in front of another one;
* `Reader.read_append`: a text that describes a corpus in front of another one.
-/

namespace NameTagger.Corpus

open Markup

namespace Reader

/-- What stands in front is read first, if there is no problem in it. -/
theorem read_scanned {offset : Nat} {s : List Char} {events : List Event}
    (h : scanFrom offset s = ⟨events, none⟩) (reader : Reader) (rest : List Char) :
    reader.read offset (s ++ rest) =
      reader.readScan ((scanFrom (offset + s.length) rest).behind events) := by
  induction offset, s using scanFrom.induct generalizing events reader with
  | case1 offset =>
    rw [scanFrom_nil] at h
    cases h
    rfl
  | case2 offset s hs problem hread =>
    rw [scanFrom_of_problem hs hread] at h
    cases h
  | case3 offset s hs piece behind hread problem hitem =>
    rw [scanFrom_of_read hs hread, hitem] at h
    cases h
  | case4 offset s hs piece behind hread item? hitem hlt ih =>
    rw [scanFrom_of_read hs hread, hitem] at h
    cases hbehind : scanFrom (offset + piece.source.length) behind with
    | mk later halt? =>
      rw [hbehind] at h
      obtain rfl : halt? = none :=
        (Scan.halt?_push offset item? ⟨later, halt?⟩).symm.trans (congrArg Scan.halt? h)
      obtain rfl : (Scan.push offset item? ⟨later, none⟩).events = events := congrArg Scan.events h
      have hlength : offset + s.length = offset + piece.source.length + behind.length := by
        rw [← source_append_of_read hread, List.length_append, Nat.add_assoc]
      rw [← Scan.push_behind, hlength]
      by_cases hlast : s.head? ≠ some '<' ∧ behind = []
      · -- text at the end is read before the text that goes on behind it
        obtain ⟨hhead, rfl⟩ := hlast
        obtain ⟨chars, rfl, hchars, hbracket, -⟩ := eq_text_of_read hhead hread
        obtain rfl : s = chars := hchars.trans (List.append_nil chars)
        cases hitem
        rw [scanFrom_nil] at hbehind
        cases hbehind
        rw [read_text_append reader offset hs hbracket rest, readScan_push]
        rfl
      · rw [read_of_read reader offset (by simp [hs]) (Markup.read_append hread hlast rest) hitem]
        cases item? with
        | none => exact ih hbehind reader
        | some item =>
          rw [readScan_push]
          exact bind_congr fun reader' => ih hbehind reader'

/-- Events are met first, and then what follows them. -/
theorem readScan_behind (reader : Reader) (events : List Event) (scan : Scan) :
    reader.readScan (scan.behind events) =
      events.foldlM step reader >>= fun reader => reader.readScan scan := by
  unfold readScan Scan.behind
  rw [List.foldlM_append, bind_assoc]

/-- A reader that gets to a corpus at the end of a text is outside of all names there. -/
theorem eq_of_finish {reader : Reader} {corpus : Corpus} (h : reader.finish = .ok corpus) :
    reader = ⟨corpus.toArray, .outside⟩ := by
  obtain ⟨done, state⟩ := reader
  cases state with
  | outside =>
    cases h
    rfl
  | inName start tokens => cases h
  | inLabel start tokens label labelStart raw => cases h

/-- A scan that describes a corpus has no problem and takes a reader outside of all names. -/
theorem of_readScan_eq_ok {reader : Reader} {scan : Scan} {corpus : Corpus}
    (h : reader.readScan scan = .ok corpus) :
    scan.halt? = none ∧ scan.events.foldlM step reader = .ok ⟨corpus.toArray, .outside⟩ := by
  obtain ⟨events, halt?⟩ := scan
  rw [readScan] at h
  dsimp only at h ⊢
  cases hrun : events.foldlM step reader with
  | error v =>
    rw [hrun] at h
    cases h
  | ok reader' =>
    rw [hrun] at h
    cases halt? with
    | some halt => cases h
    | none => exact ⟨rfl, congrArg Except.ok (eq_of_finish h)⟩

/-- A text that describes a corpus takes a reader outside of all names, also if more follows. -/
theorem read_append {reader : Reader} {offset : Nat} {s : List Char} {corpus : Corpus}
    (h : reader.read offset s = .ok corpus) (rest : List Char) :
    reader.read offset (s ++ rest) =
      (⟨corpus.toArray, .outside⟩ : Reader).read (offset + s.length) rest := by
  obtain ⟨hhalt, hrun⟩ := of_readScan_eq_ok h
  obtain ⟨events, hscan⟩ : ∃ events, scanFrom offset s = ⟨events, none⟩ := ⟨_, by rw [← hhalt]⟩
  rw [hscan] at hrun
  rw [read_scanned hscan, readScan_behind, hrun]
  rfl

end Reader

end NameTagger.Corpus
