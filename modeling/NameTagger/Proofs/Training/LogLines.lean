import Mathlib.Data.String.Basic
import NameTagger.Training.LogLines

/-!
# The lines of a log

Which lines are passed on depends on the log as a whole, and not on where its chunks end.

* `Cuts`: a text is made of lines, each with the newline that ends it, and of what is pending;
* `cut_line_append`, `Cuts.cut_eq`, `cuts_cut`: every text is cut in this way, and in no other;
* `Cuts.append`, `cut_append`: what is pending goes on in the text that follows;
* `feedAll_eq`: chunks one after another are cut as the text that they make up;
* `feedAll_lines`: the lines that are passed on, and what is pending behind them.
-/

namespace NameTagger.LogLines

open Text

/-- A text is made of lines, each with the newline that ends it, and of what follows them. -/
structure Cuts (s : List Char) (lines : List (List Char)) (pending : List Char) : Prop where
  text : s = lines.flatMap (· ++ ['\n']) ++ pending
  ended : ∀ line ∈ lines, '\n' ∉ line
  open_ : '\n' ∉ pending

/-! ### One text -/

/-- Without a newline no line is complete. -/
theorem cut_of_notMem {s : List Char} (h : '\n' ∉ s) : cut s = ([], s) := by
  induction s with
  | nil => rfl
  | cons c s ih =>
    obtain ⟨hc, hs⟩ := List.ne_and_not_mem_of_not_mem_cons h
    simp [cut, ih hs, Ne.symm hc]

theorem cut_line_append {line : List Char} (h : '\n' ∉ line) (s : List Char) :
    cut (line ++ '\n' :: s) = (line :: (cut s).1, (cut s).2) := by
  induction line with
  | nil => simp [cut]
  | cons c line ih =>
    obtain ⟨hc, hline⟩ := List.ne_and_not_mem_of_not_mem_cons h
    simp [cut, ih hline, Ne.symm hc]

/-- There is one way to cut a text. -/
theorem Cuts.cut_eq {s pending : List Char} {lines : List (List Char)} (h : Cuts s lines pending) :
    cut s = (lines, pending) := by
  obtain ⟨rfl, hended, hopen⟩ := h
  induction lines with
  | nil => exact cut_of_notMem hopen
  | cons line lines ih =>
    obtain ⟨hline, hlines⟩ := List.forall_mem_cons.1 hended
    rw [List.flatMap_cons, List.append_assoc, List.append_assoc, List.singleton_append,
      cut_line_append hline, ih hlines]

/-- Every text can be cut. -/
theorem exists_cuts (s : List Char) : ∃ lines pending, Cuts s lines pending := by
  induction s with
  | nil => exact ⟨[], [], rfl, by simp, by simp⟩
  | cons c s ih =>
    obtain ⟨lines, pending, rfl, hended, hopen⟩ := ih
    by_cases hc : c = '\n'
    · subst hc
      exact ⟨[] :: lines, pending, rfl, by simpa using hended, hopen⟩
    · -- the character belongs to the first line, or to what is pending if there is none
      cases lines with
      | nil => exact ⟨[], c :: pending, rfl, by simp, by simp [hopen, Ne.symm hc]⟩
      | cons line lines =>
        obtain ⟨hline, hlines⟩ := List.forall_mem_cons.1 hended
        refine ⟨(c :: line) :: lines, pending, rfl, List.forall_mem_cons.2 ⟨?_, hlines⟩, hopen⟩
        simp [hline, Ne.symm hc]

theorem cuts_cut (s : List Char) : Cuts s (cut s).1 (cut s).2 := by
  obtain ⟨lines, pending, h⟩ := exists_cuts s
  rw [h.cut_eq]
  exact h

/-! ### Texts one behind the other -/

/-- What is pending goes on in the text that follows, and no line is lost or cut twice. -/
theorem Cuts.append {s t pending pending' : List Char} {lines lines' : List (List Char)}
    (h : Cuts s lines pending) (h' : Cuts (pending ++ t) lines' pending') :
    Cuts (s ++ t) (lines ++ lines') pending' where
  text := by
    rw [h.text, List.append_assoc, h'.text, List.flatMap_append, List.append_assoc]
  ended := List.forall_mem_append.2 ⟨h.ended, h'.ended⟩
  open_ := h'.open_

theorem cut_append (s t : List Char) :
    cut (s ++ t) =
      ((cut s).1 ++ (cut ((cut s).2 ++ t)).1, (cut ((cut s).2 ++ t)).2) :=
  ((cuts_cut s).append (cuts_cut ((cut s).2 ++ t))).cut_eq

/-- Chunks one after another are cut as the text that they make up behind what was pending. -/
theorem feedAll_eq {pending : List Char} (h : '\n' ∉ pending) (chunks : List String) :
    feedAll pending chunks =
      ((cut (pending ++ (String.join chunks).toList)).1.filterMap shown?,
        (cut (pending ++ (String.join chunks).toList)).2) := by
  induction chunks generalizing pending with
  | nil =>
    have hnil : pending ++ (String.join []).toList = pending := List.append_nil pending
    rw [hnil, cut_of_notMem h]
    rfl
  | cons chunk chunks ih =>
    have hjoin : pending ++ (String.join (chunk :: chunks)).toList =
        (pending ++ chunk.toList) ++ (String.join chunks).toList := by
      rw [String.toList_join, String.toList_join, List.flatMap_cons, List.append_assoc]
    have hfeed : feedAll pending (chunk :: chunks) =
        ((cut (pending ++ chunk.toList)).1.filterMap shown? ++
            (feedAll (cut (pending ++ chunk.toList)).2 chunks).1,
          (feedAll (cut (pending ++ chunk.toList)).2 chunks).2) := rfl
    rw [hfeed, ih (cuts_cut _).open_, hjoin, cut_append (pending ++ chunk.toList),
      List.filterMap_append]

/-! ### Whole logs -/

/-- What is left of the lines once the blanks at their ends are gone, where anything is left. -/
theorem filterMap_shown? (lines : List (List Char)) :
    lines.filterMap shown? = ((lines.map trimEnd).filter (· ≠ [])).map String.ofList := by
  induction lines with
  | nil => rfl
  | cons line lines ih =>
    rw [List.map_cons]
    by_cases hline : trimEnd line = []
    · rw [List.filterMap_cons_none (by rw [shown?, hline]),
        List.filter_cons_of_neg (by simp [hline]), ih]
    · have hshown : shown? line = some (String.ofList (trimEnd line)) := by
        unfold shown?
        split
        · next hnil => exact absurd hnil hline
        · rfl
      rw [List.filterMap_cons_some hshown, List.filter_cons_of_pos (by simp [hline]), List.map_cons,
        ih]

/-- The lines that are passed on are what is left of the lines of the whole log, each of them once
and in order, and what is pending follows its last newline.  Another way of cutting the log into
chunks makes no difference. -/
theorem feedAll_lines (chunks : List String) :
    ∃ lines pending, Cuts (String.join chunks).toList lines pending ∧
      feedAll [] chunks =
        (((lines.map trimEnd).filter (· ≠ [])).map String.ofList, pending) ∧
      ∀ chunks', String.join chunks' = String.join chunks →
        feedAll [] chunks' = feedAll [] chunks := by
  have hfeed (chunks : List String) := feedAll_eq (List.not_mem_nil (a := '\n')) chunks
  refine ⟨_, _, cuts_cut _, ?_, fun chunks' hjoin => ?_⟩
  · rw [hfeed, List.nil_append, filterMap_shown?]
  · rw [hfeed, hfeed, hjoin]

/-- A log with an empty line, cut inside a line or at a newline and around an empty chunk. -/
theorem feedAll_lines_cut_twice :
    String.join ["a", "b \n\nc", "d"] = String.join ["ab ", "\n", "", "\ncd"] ∧
      feedAll [] ["a", "b \n\nc", "d"] = feedAll [] ["ab ", "\n", "", "\ncd"] ∧
      feedAll [] ["ab ", "\n", "", "\ncd"] = (["ab"], ['c', 'd']) := by
  have hjoin : String.join ["a", "b \n\nc", "d"] = String.join ["ab ", "\n", "", "\ncd"] := by
    decide
  obtain ⟨_, _, -, -, hsame⟩ := feedAll_lines ["ab ", "\n", "", "\ncd"]
  exact ⟨hjoin, hsame _ hjoin, by decide⟩

end NameTagger.LogLines
