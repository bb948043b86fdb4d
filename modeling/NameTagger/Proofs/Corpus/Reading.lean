import NameTagger.Fault
import NameTagger.Proofs.Corpus.Step
import NameTagger.Proofs.Markup.Scan

/-!
# Reading piece by piece

The events of a scan are read as the pieces of a text come.

* `Reader.readScan`, `Reader.read`: what a reader makes of a scan, and of a text from an offset on;
* `Reader.read_of_read`: one piece;
* `Reader.read_text`, `Reader.read_tag`, `Reader.read_comment`: the same by the way a piece is
  written;
* `Reader.read_text_append`, `Reader.read_idle_text`: text may be split anywhere, and it does not
  matter outside of label elements;
* `parse_eq_ok_iff`, `exists_of_parse_eq_error`: the corpus of a whole text, and what prevents it.
-/

namespace NameTagger.Corpus

open Markup

namespace Reader

/-- What a reader makes of the rest of a scan. -/
def readScan (reader : Reader) (scan : Scan) : Except (Failure Violation.At) Corpus := do
  let reader ← scan.events.foldlM step reader
  match scan.halt? with
  | some halt => .error (.malformed ⟨.markup halt.problem, halt.offset⟩)
  | none => reader.finish

/-- What a reader makes of the rest of a text, which begins at an offset. -/
def read (reader : Reader) (offset : Nat) (s : List Char) :
    Except (Failure Violation.At) Corpus :=
  reader.readScan (scanFrom offset s)

/-- What a reader makes of an item, if it is not passed over, and of the rest of a text. -/
def readItem (reader : Reader) (offset : Nat) (item? : Option Item) (offset' : Nat)
    (s : List Char) : Except (Failure Violation.At) Corpus :=
  match item? with
  | some item => reader.step ⟨offset, item⟩ >>= fun reader => reader.read offset' s
  | none => reader.read offset' s

theorem ofScan_scan (s : List Char) : ofScan (scan s) = start.read 0 s := rfl

theorem readScan_push (reader : Reader) (offset : Nat) (item : Item) (scan : Scan) :
    reader.readScan (scan.push offset (some item)) =
      reader.step ⟨offset, item⟩ >>= fun reader => reader.readScan scan := by
  rw [readScan, Scan.push, List.foldlM_cons, bind_assoc]
  rfl

@[simp] theorem read_nil (reader : Reader) (offset : Nat) :
    reader.read offset [] = reader.finish := by
  rw [read, scanFrom_nil]
  rfl

/-- One piece of a text is read, and then the rest. -/
theorem read_of_read {s rest : List Char} {piece : Piece} {item? : Option Item} (reader : Reader)
    (offset : Nat) (hs : s ≠ []) (h : Piece.read s = .ok (piece, rest))
    (hitem : piece.item? = .ok item?) :
    reader.read offset s = reader.readItem offset item? (offset + piece.source.length) rest := by
  rw [read, scanFrom_of_read hs h, hitem]
  cases item? with
  | none => rfl
  | some item => exact readScan_push ..

/-! ### Pieces by the way they are written -/

theorem read_text {chars rest : List Char} (reader : Reader) (offset : Nat) (hne : chars ≠ [])
    (hchars : '<' ∉ chars) (hrest : ∀ c, rest.head? = some c → c = '<') :
    reader.read offset (chars ++ rest) =
      reader.step ⟨offset, .text chars⟩ >>= fun reader =>
        reader.read (offset + chars.length) rest :=
  read_of_read reader offset (by simp [hne]) (Markup.read_text hne hchars hrest) rfl

theorem read_tag {inner : List Char} {tag : Tag} (reader : Reader) (offset : Nat)
    (hinner : ∀ c ∈ inner, c ≠ '<' ∧ c ≠ '>')
    (hhead : ∀ c, inner.head? = some c → c ≠ '!' ∧ c ≠ '?') (htag : Tag.ofInner? inner = some tag)
    (rest : List Char) :
    reader.read offset ('<' :: inner ++ '>' :: rest) =
      reader.step ⟨offset, .tag tag⟩ >>= fun reader =>
        reader.read (offset + (inner.length + 2)) rest := by
  have hitem : (Piece.tag inner).item? = .ok (some (.tag tag)) := by rw [Piece.item?, htag]
  have hlen : (Piece.tag inner).source.length = inner.length + 2 := by simp [Piece.source]
  rw [read_of_read reader offset (by simp) (Markup.read_tag hinner hhead) hitem, hlen]
  rfl

theorem read_comment {inner : List Char} (reader : Reader) (offset : Nat)
    (h : ¬ ['-', '-', '>'] <:+: inner) (rest : List Char) :
    reader.read offset ('<' :: '!' :: '-' :: '-' :: (inner ++ '-' :: '-' :: '>' :: rest)) =
      reader.read (offset + (inner.length + 7)) rest := by
  have hlen : (Piece.special .comment inner).source.length = inner.length + 7 := by
    simp [Piece.source, Special.opener, Special.closer]
  rw [read_of_read reader offset (by simp) (Markup.read_comment h rest) rfl, hlen]
  rfl

/-! ### Text that is split -/

/-- Text at the head is read first, also if more text follows it. -/
theorem read_text_append {chars : List Char} (reader : Reader) (offset : Nat) (hne : chars ≠ [])
    (hchars : '<' ∉ chars) (rest : List Char) :
    reader.read offset (chars ++ rest) =
      reader.step ⟨offset, .text chars⟩ >>= fun reader =>
        reader.read (offset + chars.length) rest := by
  obtain ⟨run, behind, rfl, hrun, hbracket⟩ := exists_text_run rest
  by_cases hempty : run = []
  · subst hempty
    exact read_text reader offset hne hchars hbracket
  -- what follows begins with text, which is one run with the text in front of it
  have hlength (reader : Reader) :
      reader.read (offset + (chars ++ run).length) behind =
        reader.read (offset + chars.length + run.length) behind := by
    rw [List.length_append, Nat.add_assoc]
  rw [← List.append_assoc, read_text reader offset (by simp [hne]) (by simp [hchars, hrun])
    hbracket, step_text_append, bind_assoc]
  refine bind_congr fun reader' => ?_
  rw [read_text reader' _ hempty hrun hbracket,
    step_text_offset reader' offset (offset + chars.length)]
  simp only [hlength]

/-- Text does not matter outside of label elements, also if more text follows. -/
theorem read_idle_text {reader : Reader} (h : reader.IsIdle) (offset : Nat) {chars : List Char}
    (hchars : '<' ∉ chars) (s : List Char) :
    reader.read offset (chars ++ s) = reader.read (offset + chars.length) s := by
  by_cases hne : chars = []
  · rw [hne]
    rfl
  · rw [read_text_append reader offset hne hchars, step_idle_text h]
    rfl

end Reader

/-- The corpus of a text is what a reader makes of it that has met nothing yet. -/
theorem parse_eq_ok_iff {text : String} {corpus : Corpus} :
    parse text = .ok corpus ↔ Reader.start.read 0 text.toList = .ok corpus := by
  rw [parse, Reader.ofScan_scan]
  exact mapError_eq_ok_iff

/-- A text fails as its scan does, with lines in place of offsets. -/
theorem exists_of_parse_eq_error {text : String} {failure : Failure Error}
    (h : parse text = .error failure) :
    ∃ failure' : Failure Violation.At, ofScan (scan text.toList) = .error failure' ∧
      failure = failure'.map (·.inText text) := by
  rw [parse] at h
  cases hscan : ofScan (scan text.toList) with
  | ok corpus =>
    rw [hscan] at h
    cases h
  | error failure' =>
    rw [hscan] at h
    exact ⟨failure', rfl, (Except.error.inj h).symm⟩

end NameTagger.Corpus
