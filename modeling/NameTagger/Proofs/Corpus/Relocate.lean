import Mathlib.Data.List.Basic
import NameTagger.Proofs.Corpus.Reading

/-!
# Offsets are carried along

A reader never looks at an offset: it hands on those of the events that it met.  If the offsets of
all events are changed in some way, then the offset of a violation is changed in the same way, and
nothing else.  Names that were complete before make no difference either.

* `Event.relocate`, `Halt.relocate`, `Scan.relocate`: the same at other offsets;
* `State.relocate`, `Violation.At.relocate`, `relocate`: what is open, and what comes of a text;
* `Reader.Move.relocate`, `Reader.Refusal.relocate`: a reader does the same with an event;
* `Reader.readScan_relocate`: and so it does with a scan.
-/

namespace NameTagger.Markup

/-- An event at another offset. -/
def Event.relocate (f : Nat → Nat) (event : Event) : Event :=
  { event with offset := f event.offset }

/-- A halt at another offset. -/
def Halt.relocate (f : Nat → Nat) (halt : Halt) : Halt := { halt with offset := f halt.offset }

/-- A scan with other offsets. -/
def Scan.relocate (f : Nat → Nat) (scan : Scan) : Scan :=
  ⟨scan.events.map (Event.relocate f), scan.halt?.map (Halt.relocate f)⟩

end NameTagger.Markup

namespace NameTagger.Corpus

open Markup

/-- A state with other offsets. -/
def State.relocate (f : Nat → Nat) : State → State
  | .outside => .outside
  | .inName start tokens => .inName (f start) tokens
  | .inLabel start tokens label labelStart raw =>
      .inLabel (f start) tokens label (f labelStart) raw

/-- A violation at another offset. -/
def Violation.At.relocate (f : Nat → Nat) (v : Violation.At) : Violation.At :=
  { v with offset := f v.offset }

/-- What comes of a text with other offsets, behind some names. -/
def relocate (names : Corpus) (f : Nat → Nat) (outcome : Except (Failure Violation.At) Corpus) :
    Except (Failure Violation.At) Corpus :=
  (outcome.map (names ++ ·)).mapError (·.map (·.relocate f))

namespace Reader

variable (names : Corpus) (f : Nat → Nat)

/-- A reader of a text with other offsets, behind some names. -/
def relocate (reader : Reader) : Reader := ⟨names.toArray ++ reader.done, reader.state.relocate f⟩

theorem close_append (done : Array Sequence) (tokens : Array LabeledToken) :
    close (names.toArray ++ done) tokens = names.toArray ++ close done tokens := by
  unfold close
  split
  · rfl
  · rw [Array.append_push]

theorem Move.relocate {reader reader' : Reader} {event : Event} (h : Move reader event reader') :
    Move (reader.relocate names f) (event.relocate f) (reader'.relocate names f) := by
  cases h with
  | skip done offset item h => exact .skip _ _ item h
  | openName done offset => exact .openName _ _
  | passText done start tokens offset chars => exact .passText _ _ tokens _ chars
  | passSingle done start tokens offset name => exact .passSingle _ _ tokens _ name
  | openLabel done start tokens offset label h => exact .openLabel _ _ tokens _ label h
  | closeName done start tokens offset =>
    unfold Reader.relocate
    rw [← close_append]
    exact .closeName _ _ tokens _
  | keepText done start tokens label labelStart raw offset chars =>
    exact .keepText _ _ tokens label _ raw _ chars
  | closeLabel done start tokens label labelStart raw offset h =>
    exact .closeLabel _ _ tokens label _ raw _ h

theorem Refusal.relocate {reader : Reader} {item : Item} {failure : Failure Violation}
    (h : Refusal reader item failure) : Refusal (reader.relocate names f) item failure := by
  cases h with
  | nestedName done start tokens => exact .nestedName _ _ tokens
  | strayClosing done start tokens name h => exact .strayClosing _ _ tokens name h
  | overlongCode done start tokens label labelStart raw digits h =>
    exact .overlongCode _ _ tokens label _ raw digits h
  | mismatchedClosing done start tokens label labelStart raw name h =>
    exact .mismatchedClosing _ _ tokens label _ raw name h
  | nestedTag done start tokens label labelStart raw tag h =>
    exact .nestedTag _ _ tokens label _ raw tag h

theorem finish_relocate (reader : Reader) :
    (reader.relocate names f).finish = Corpus.relocate names f reader.finish := by
  obtain ⟨done, state⟩ := reader
  cases state with
  | outside => exact congrArg Except.ok Array.toList_append
  | inName start tokens => rfl
  | inLabel start tokens label labelStart raw => rfl

/-- What a reader makes of a scan with other offsets, behind some names. -/
theorem readScan_relocate (reader : Reader) (scan : Scan) :
    (reader.relocate names f).readScan (scan.relocate f) =
      Corpus.relocate names f (reader.readScan scan) := by
  obtain ⟨events, halt?⟩ := scan
  induction events generalizing reader with
  | nil =>
    cases halt? with
    | none => exact finish_relocate names f reader
    | some halt => rfl
  | cons event events ih =>
    show (reader.relocate names f).readScan
        ((Scan.relocate f ⟨events, halt?⟩).push (f event.offset) (some event.item)) =
      Corpus.relocate names f
        (reader.readScan (Scan.push event.offset (some event.item) ⟨events, halt?⟩))
    rw [readScan_push, readScan_push]
    rcases step_cases reader event with ⟨reader', hstep, hmove⟩ | ⟨failure, hstep, hrefusal⟩
    · have hmoved : (reader.relocate names f).step ⟨f event.offset, event.item⟩ =
          .ok (reader'.relocate names f) := (hmove.relocate names f).step
      rw [hstep, hmoved]
      exact ih reader'
    · have hrefused : (reader.relocate names f).step ⟨f event.offset, event.item⟩ =
          .error (failure.map (Violation.At.mk · (f event.offset))) :=
        @Refusal.step _ ⟨f event.offset, event.item⟩ _ (hrefusal.relocate names f)
      rw [hstep, hrefused]
      cases failure <;> rfl

end Reader

end NameTagger.Corpus
