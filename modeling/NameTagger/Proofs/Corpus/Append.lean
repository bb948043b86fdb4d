import NameTagger.Proofs.Corpus.Front
import NameTagger.Proofs.Corpus.Relocate

/-!
# Texts one behind the other

A text that describes a corpus leaves nothing open, so that what follows it is read as if it stood
alone.  Only the lines are counted from the first text on.

* `State.later`, `Reader.behind`: a reader of a text that stands further on, behind other names;
* `Reader.read_behind`: such a reader does the same with a text;
* `parse_append`: the corpus or the error of two texts one behind the other.
-/

namespace NameTagger.Corpus

open Text Markup

/-! ### The same text further on -/

/-- A state whose offsets lie `k` characters further on. -/
def State.later (k : Nat) : State → State
  | .outside => .outside
  | .inName start tokens => .inName (k + start) tokens
  | .inLabel start tokens label labelStart raw =>
      .inLabel (k + start) tokens label (k + labelStart) raw

/-- A violation `k` characters further on. -/
def Violation.At.later (k : Nat) (v : Violation.At) : Violation.At :=
  { v with offset := k + v.offset }

/-- What comes of a text that stands `k` characters further on, behind some names. -/
def behind (names : Corpus) (k : Nat) (outcome : Except (Failure Violation.At) Corpus) :
    Except (Failure Violation.At) Corpus :=
  (outcome.map (names ++ ·)).mapError (·.map (·.later k))

namespace Reader

variable (names : Corpus) (k : Nat)

/-- A reader of a text that stands `k` characters further on, behind some names. -/
def behind (reader : Reader) : Reader := ⟨names.toArray ++ reader.done, reader.state.later k⟩

theorem behind_eq_relocate (reader : Reader) :
    reader.behind names k = reader.relocate names (k + ·) := by
  obtain ⟨done, state⟩ := reader
  cases state <;> rfl

/-- A text is read in the same way wherever it stands and whatever names there were before it. -/
theorem read_behind (reader : Reader) (offset : Nat) (s : List Char) :
    (reader.behind names k).read (k + offset) s =
      Corpus.behind names k (reader.read offset s) := by
  rw [read, scanFrom_add, behind_eq_relocate]
  exact readScan_relocate names (k + ·) reader (scanFrom offset s)

end Reader

/-! ### Whole texts -/

/-- The line of a place behind a text is counted from that text on. -/
theorem lineAt_append (s s' : List Char) (offset : Nat) :
    lineAt (s ++ s') (s.length + offset) = lineAt s' offset + s.count '\n' := by
  rw [lineAt, lineAt, List.take_length_add_append, List.count_append]
  omega

/-- Behind a text that describes a corpus, a text is read as if it stood alone: the names of both
follow each other, and a failure is the same, with the lines of the first text counted in. -/
theorem parse_append {a : String} {names : Corpus} (ha : parse a = .ok names) (b : String) :
    (∀ corpus, parse b = .ok corpus → parse (a ++ b) = .ok (names ++ corpus)) ∧
    ∀ failure, parse b = .error failure →
      parse (a ++ b) =
        .error (failure.map fun e => ⟨e.violation, e.line + a.toList.count '\n'⟩) := by
  have hread := parse_eq_ok_iff.1 ha
  -- behind the first text the reader is the one of a lone text, further on and behind its names
  have hrest : Reader.start.read 0 (a ++ b).toList =
      behind names a.toList.length (Reader.start.read 0 b.toList) := by
    rw [String.toList_append, Reader.read_append hread, ← Reader.read_behind]
    simp [Reader.behind, Reader.start, State.later]
  rw [parse, parse, Reader.ofScan_scan, Reader.ofScan_scan, hrest]
  cases Reader.start.read 0 b.toList with
  | ok corpus =>
    refine ⟨fun corpus' h => ?_, fun failure h => (by cases h)⟩
    cases h
    rfl
  | error failure =>
    refine ⟨fun corpus' h => (by cases h), fun failure' h => ?_⟩
    cases h
    cases failure with
    | malformed v =>
      show Except.error (Failure.malformed (Error.mk _ (lineAt _ (a.toList.length + v.offset)))) = _
      rw [String.toList_append, lineAt_append]
      rfl
    | overlongCode digits => rfl

/-- A name that is left open behind a text with a comment, a name and text at its end. -/
theorem parse_append_open_name :
    parse "<A><!-- > -->\n<Name><B>x</B></Name>t" = .ok [[⟨"x", "B"⟩]] ∧
      parse "u\n<Name>" = .error (.malformed ⟨.openName, 2⟩) ∧
      parse ("<A><!-- > -->\n<Name><B>x</B></Name>t" ++ "u\n<Name>") =
        .error (.malformed ⟨.openName, 3⟩) := by
  have ha : parse "<A><!-- > -->\n<Name><B>x</B></Name>t" = .ok [[⟨"x", "B"⟩]] := by decide +kernel
  have hb : parse "u\n<Name>" = .error (.malformed ⟨.openName, 2⟩) := by decide +kernel
  exact ⟨ha, hb, (parse_append ha "u\n<Name>").2 _ hb⟩

end NameTagger.Corpus
