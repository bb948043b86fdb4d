import NameTagger.Proofs.Text.Chunks
import NameTagger.Text.Case

/-!
# Texts on one line

A text whose only white space are spaces is on one line, by whatever rule lines are told apart.

* `lineBreaks`, `IsOneLine`: the characters that end a line, and a text that has none of them;
* `IsOneLine.of_blank`, `IsOneLine.of_all`: by the white space in it;
* `isWord_of_mem_words`, `words_joinWords`: the words of a text, and of words that were joined;
* `squeeze_squeeze`, `isOneLine_squeeze`: a text whose words are joined by single spaces;
* `mem_of_isBlank_of_mem_lower`, `IsOneLine.lower`: lower-casing makes no white space.
-/

namespace NameTagger.Text

/-- The characters at which a text can be divided into lines. -/
def lineBreaks : List Char :=
  ['\n', '\x0b', '\x0c', '\r', '\x1c', '\x1d', '\x1e', '\u0085', '\u2028', '\u2029']

/-- A text without a line break, whose only white space are spaces. -/
structure IsOneLine (s : List Char) : Prop where
  blank : ∀ c ∈ s, isBlank c = true → c = ' '
  unbroken : ∀ c ∈ lineBreaks, c ∉ s

namespace IsOneLine

variable {s t : List Char}

/-- Every line break is white space. -/
theorem of_blank (h : ∀ c ∈ s, isBlank c = true → c = ' ') : IsOneLine s := by
  have hbreaks : (lineBreaks.all fun c => isBlank c && c != ' ') = true := by decide
  refine ⟨h, fun c hc hmem => ?_⟩
  obtain ⟨hblank, hspace⟩ := Bool.and_eq_true_iff.1 (List.all_eq_true.1 hbreaks c hc)
  exact bne_iff_ne.1 hspace (h c hmem hblank)

theorem mono (h : IsOneLine s) (hsubset : t ⊆ s) : IsOneLine t :=
  of_blank fun c hc => h.blank c (hsubset hc)

theorem append (hs : IsOneLine s) (ht : IsOneLine t) : IsOneLine (s ++ t) :=
  of_blank fun c hc => (List.mem_append.1 hc).elim (hs.blank c) (ht.blank c)

theorem of_all (h : (s.all fun c => !isBlank c || c == ' ') = true) : IsOneLine s := by
  refine of_blank fun c hc hblank => ?_
  have hc := List.all_eq_true.1 h c hc
  rw [hblank, Bool.not_true, Bool.false_or] at hc
  exact eq_of_beq hc

theorem all (h : IsOneLine s) : (s.all fun c => !isBlank c || c == ' ') = true := by
  refine List.all_eq_true.2 fun c hc => ?_
  cases hblank : isBlank c with
  | false => rfl
  | true => rw [h.blank c hc hblank]; rfl

end IsOneLine

instance : DecidablePred IsOneLine := fun s =>
  decidable_of_iff ((s.all fun c => !isBlank c || c == ' ') = true) ⟨.of_all, IsOneLine.all⟩

theorem IsWord.isOneLine {w : List Char} (h : IsWord w) : IsOneLine w := by
  refine .of_blank fun c hc hblank => ?_
  rw [h.2 c hc] at hblank
  cases hblank

/-! ### Words -/

theorem isWord_of_mem_words {s w : List Char} (h : w ∈ words s) : IsWord w := by
  obtain ⟨chunk, hchunk, rfl⟩ := List.mem_map.1 h
  obtain ⟨before, after, -, -, hword, -⟩ := mem_chunksFrom_iff.1 hchunk
  exact hword

/-- The characters of a word stand in the text. -/
theorem subset_of_mem_words {s w : List Char} (h : w ∈ words s) : w ⊆ s := by
  obtain ⟨chunk, hchunk, rfl⟩ := List.mem_map.1 h
  obtain ⟨before, rest, rfl, -⟩ := exists_append_of_mem_chunksFrom hchunk
  intro c hc
  simp [hc]

theorem map_text_placed (offset : Nat) (ws : List (List Char)) :
    (placed offset ws).map Chunk.text = ws := by
  induction ws generalizing offset with
  | nil => rfl
  | cons w ws ih => rw [placed, List.map_cons, ih]

/-- Nothing is put in where white space is taken away around a text. -/
theorem trim_subset (s : List Char) : trim s ⊆ s := by
  intro c hc
  rw [trim, trimEnd, List.mem_reverse] at hc
  have hmem := (List.dropWhile_sublist _).subset hc
  exact (List.dropWhile_sublist _).subset (List.mem_reverse.1 hmem)

/-- Words that are joined by single spaces are found again. -/
theorem words_joinWords {ws : List (List Char)} (h : ∀ w ∈ ws, IsWord w) :
    words (joinWords ws) = ws := by
  rw [words, chunks, chunksFrom_joinWords h, map_text_placed]

theorem squeeze_squeeze (s : List Char) : squeeze (squeeze s) = squeeze s := by
  have hwords : words (squeeze s) = words s := words_joinWords fun _ => isWord_of_mem_words
  unfold squeeze at hwords ⊢
  rw [hwords]

theorem isOneLine_joinWords {ws : List (List Char)} (h : ∀ w ∈ ws, IsOneLine w) :
    IsOneLine (joinWords ws) := by
  induction ws with
  | nil => exact .of_blank fun c hc => absurd hc List.not_mem_nil
  | cons w ws ih =>
    obtain ⟨hw, hws⟩ := List.forall_mem_cons.1 h
    cases ws with
    | nil =>
      rw [joinWords, List.intercalate_singleton]
      exact hw
    | cons v ws =>
      have hspace : IsOneLine [' '] := .of_blank fun c hc _ => List.mem_singleton.1 hc
      rw [joinWords, List.intercalate_cons_cons]
      exact (hw.append hspace).append (ih hws)

/-- Whatever white space a text has, there are only spaces once its words are joined again. -/
theorem isOneLine_squeeze (s : List Char) : IsOneLine (squeeze s) :=
  isOneLine_joinWords fun _ hw => (isWord_of_mem_words hw).isOneLine

/-! ### Lower case -/

theorem exists_span_of_mem {spans : List Span} {n : Nat} (h : Span.mem spans n = true) :
    ∃ span ∈ spans, span.first ≤ n ∧ n ≤ span.last := by
  induction spans with
  | nil => cases h
  | cons span spans ih =>
    rw [Span.mem] at h
    split at h
    · cases h
    · rcases Bool.or_eq_true_iff.1 h with hspan | hrest
      · simp only [Span.contains, Bool.and_eq_true, decide_eq_true_eq] at hspan
        exact ⟨span, List.mem_cons_self, hspan.1⟩
      · obtain ⟨other, hother, hn⟩ := ih hrest
        exact ⟨other, List.mem_cons_of_mem span hother, hn⟩

/-- A number that stands for white space is in one of its spans; one that is no character stands
for the null character, which is no white space. -/
theorem exists_span_of_isBlank_ofNat {n : Nat} (h : isBlank (Char.ofNat n) = true) :
    ∃ span ∈ blankSpans, span.first ≤ n ∧ n ≤ span.last := by
  have hvalue : (Char.ofNat n).toNat = n ∨ (Char.ofNat n).toNat = 0 := by
    by_cases hvalid : n.isValidChar
    · rw [Char.ofNat, dif_pos hvalid]
      exact .inl rfl
    · rw [Char.ofNat, dif_neg hvalid]
      exact .inr rfl
  rcases hvalue with hn | hzero
  · rw [isBlank, hn] at h
    exact exists_span_of_mem h
  · rw [isBlank, hzero] at h
    exact absurd h (by decide)

/-- The lower-case forms of a span lie outside of all white space. -/
theorem lowerShifts_disjoint : ∀ shift ∈ lowerShifts, ∀ span ∈ blankSpans,
    (shift.span.last + shift.delta < span.first ∨ span.last < shift.span.first + shift.delta) := by
  decide +kernel

theorem eq_of_isBlank_of_mem_lowerChar {c d : Char} (hd : d ∈ lowerChar c)
    (hblank : isBlank d = true) : d = c := by
  rw [lowerChar] at hd
  split at hd
  · rcases List.mem_cons.1 hd with rfl | hd
    · exact absurd hblank (by decide)
    · rw [List.mem_singleton.1 hd] at hblank
      exact absurd hblank (by decide)
  · split at hd
    · next shift hshift =>
      obtain rfl := List.mem_singleton.1 hd
      have hspan := List.find?_some hshift
      simp only [Span.contains, Bool.and_eq_true, decide_eq_true_eq] at hspan
      obtain ⟨span, hmem, hfirst, hlast⟩ := exists_span_of_isBlank_ofNat hblank
      have hdisjoint := lowerShifts_disjoint shift (List.mem_of_find?_eq_some hshift) span hmem
      -- white space lies above zero, so that the number was not cut off there
      have hpositive : ∀ span ∈ blankSpans, 0 < span.first := by decide
      have := hpositive span hmem
      omega
    · exact List.mem_singleton.1 hd

theorem mem_of_isBlank_of_mem_lowerFrom {behindCased : Bool} {s : List Char} {d : Char}
    (hd : d ∈ lowerFrom behindCased s) (hblank : isBlank d = true) : d ∈ s := by
  induction s generalizing behindCased with
  | nil => exact hd
  | cons c s ih =>
    rw [lowerFrom] at hd
    rcases List.mem_append.1 hd with hform | hrest
    · split at hform
      · -- both forms of a sigma are letters
        obtain rfl := List.mem_singleton.1 hform
        split at hblank <;> exact absurd hblank (by decide)
      · rw [eq_of_isBlank_of_mem_lowerChar hform hblank]
        exact List.mem_cons_self
    · exact List.mem_cons_of_mem c (ih hrest)

/-- White space in the lower-case form of a text was there before. -/
theorem mem_of_isBlank_of_mem_lower {s : List Char} {d : Char} (hd : d ∈ lower s)
    (hblank : isBlank d = true) : d ∈ s :=
  mem_of_isBlank_of_mem_lowerFrom hd hblank

theorem IsOneLine.lower {s : List Char} (h : IsOneLine s) : IsOneLine (lower s) :=
  .of_blank fun c hc hblank => h.blank c (mem_of_isBlank_of_mem_lower hc hblank) hblank

end NameTagger.Text
