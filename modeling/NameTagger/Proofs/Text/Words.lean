import NameTagger.Text.Blank

/-!
# Words at the head of a text

* `takeWhile_append_stop`, `dropWhile_append_stop`: a run of characters that a text begins with;
* `IsWord`: a word has characters, none of which is white space;
* `chunksFrom_word_append`: the first chunk of a text that begins with a word;
* `words_word`, `head?_words_word_append`: the same for the words alone;
* `placed`, `chunksFrom_joinWords`: the chunks of words with single spaces between them;
* `exists_append_of_mem_chunksFrom`: a chunk stands in a text where its offset says;
* `IsWord.trim_append`: what a text that begins with a word is trimmed to.
-/

namespace NameTagger.Text

/-! ### The run at the head of a text -/

section

variable {α : Type} {p : α → Bool} {run rest : List α}

theorem takeWhile_append_stop (hrun : ∀ a ∈ run, p a = true)
    (hrest : ∀ a, rest.head? = some a → p a = false) : (run ++ rest).takeWhile p = run := by
  rw [List.takeWhile_append_of_pos hrun]
  cases rest with
  | nil => simp
  | cons a rest => simp [hrest a rfl]

theorem dropWhile_append_stop (hrun : ∀ a ∈ run, p a = true)
    (hrest : ∀ a, rest.head? = some a → p a = false) : (run ++ rest).dropWhile p = rest := by
  rw [List.dropWhile_append_of_pos hrun]
  cases rest with
  | nil => simp
  | cons a rest => simp [hrest a rfl]

end

/-! ### Words -/

/-- A word has characters, and none of them is white space. -/
def IsWord (w : List Char) : Prop := w ≠ [] ∧ ∀ c ∈ w, isBlank c = false

instance : DecidablePred IsWord := fun w =>
  decidable_of_iff (w ≠ [] ∧ w.all (!isBlank ·) = true) (by simp [IsWord])

/-- A word in front of white space, or at the end of a text, is the first chunk. -/
theorem chunksFrom_word_append {w rest : List Char} (hw : IsWord w)
    (hrest : ∀ c, rest.head? = some c → isBlank c = true) (offset : Nat) :
    chunksFrom offset (w ++ rest) = ⟨offset, w⟩ :: chunksFrom (offset + w.length) rest := by
  obtain ⟨hne, hsolid⟩ := hw
  cases w with
  | nil => exact absurd rfl hne
  | cons c w =>
    have hw : ∀ c ∈ w, isSolid c = true := fun d hd => by simp [isSolid, hsolid d (by simp [hd])]
    have hstop : ∀ c, rest.head? = some c → isSolid c = false :=
      fun d hd => by simp [isSolid, hrest d hd]
    rw [List.cons_append, chunksFrom, hsolid c (by simp), takeWhile_append_stop hw hstop,
      dropWhile_append_stop hw hstop]
    simp [Nat.add_comm, Nat.add_left_comm]

theorem chunksFrom_blank {c : Char} (hc : isBlank c = true) (s : List Char) (offset : Nat) :
    chunksFrom offset (c :: s) = chunksFrom (offset + 1) s := by
  rw [chunksFrom, hc, if_pos rfl]

theorem words_word {w : List Char} (hw : IsWord w) : words w = [w] := by
  have hchunks := @chunksFrom_word_append w [] hw (by simp) 0
  rw [List.append_nil, chunksFrom] at hchunks
  rw [words, chunks, hchunks]
  rfl

theorem squeeze_word {w : List Char} (hw : IsWord w) : squeeze w = w := by
  rw [squeeze, words_word hw]
  exact List.intercalate_singleton

theorem head?_words_word_append {w rest : List Char} (hw : IsWord w)
    (hrest : ∀ c, rest.head? = some c → isBlank c = true) :
    (words (w ++ rest)).head? = some w := by
  rw [words, chunks, chunksFrom_word_append hw hrest]
  rfl

/-! ### Words with single spaces between them -/

/-- Words as chunks, the first at an offset and each behind a space after the one before. -/
def placed (offset : Nat) : List (List Char) → List Chunk
  | [] => []
  | w :: ws => ⟨offset, w⟩ :: placed (offset + w.length + 1) ws

theorem chunksFrom_joinWords {ws : List (List Char)} (hws : ∀ w ∈ ws, IsWord w) (offset : Nat) :
    chunksFrom offset (joinWords ws) = placed offset ws := by
  induction ws generalizing offset with
  | nil =>
    rw [joinWords, List.intercalate_nil, chunksFrom]
    rfl
  | cons w ws ih =>
    obtain ⟨hw, hrest⟩ := List.forall_mem_cons.1 hws
    cases ws with
    | nil =>
      have hchunks := @chunksFrom_word_append w [] hw (by simp) offset
      rw [List.append_nil, chunksFrom] at hchunks
      rw [joinWords, List.intercalate_singleton, hchunks]
      rfl
    | cons v ws =>
      rw [joinWords, List.intercalate_cons_cons, List.append_assoc, List.singleton_append,
        chunksFrom_word_append hw (by rintro c ⟨⟩; decide), chunksFrom_blank (by decide)]
      exact congrArg (_ :: ·) (ih hrest _)

/-! ### The place of a chunk -/

/-- A chunk stands in the text, behind as many characters as its offset says. -/
theorem exists_append_of_mem_chunksFrom {offset : Nat} {s : List Char} {chunk : Chunk}
    (h : chunk ∈ chunksFrom offset s) :
    ∃ before rest, s = before ++ (chunk.text ++ rest) ∧
      chunk.start = offset + before.length := by
  fun_induction chunksFrom offset s with
  | case1 offset => exact absurd h List.not_mem_nil
  | case2 offset c s hc ih =>
    obtain ⟨before, rest, rfl, hstart⟩ := ih h
    exact ⟨c :: before, rest, rfl, by rw [hstart, List.length_cons]; omega⟩
  | case3 offset c s hc ih =>
    have hsplit : s = s.takeWhile isSolid ++ s.dropWhile isSolid :=
      List.takeWhile_append_dropWhile.symm
    rcases List.mem_cons.1 h with rfl | h
    · exact ⟨[], s.dropWhile isSolid, congrArg (c :: ·) hsplit, rfl⟩
    · obtain ⟨before, rest, hrest, hstart⟩ := ih h
      refine ⟨c :: s.takeWhile isSolid ++ before, rest, ?_, ?_⟩
      · rw [List.append_assoc, ← hrest, List.cons_append, ← hsplit]
      · rw [hstart, List.length_append, List.length_cons]
        omega

/-! ### Trimming -/

theorem IsWord.dropWhile_append {w : List Char} (hw : IsWord w) (rest : List Char) :
    (w ++ rest).dropWhile isBlank = w ++ rest := by
  obtain ⟨hne, hsolid⟩ := hw
  cases w with
  | nil => exact absurd rfl hne
  | cons c w => simp [hsolid c (by simp)]

theorem IsWord.reverse {w : List Char} (hw : IsWord w) : IsWord w.reverse :=
  ⟨by simpa using hw.1, fun c hc => hw.2 c (by simpa using hc)⟩

/-- Only what stands behind the first word of a text can be trimmed. -/
theorem IsWord.trim_append {w : List Char} (hw : IsWord w) (rest : List Char) :
    trim (w ++ rest) = w ++ trimEnd rest := by
  have hword := hw.reverse.dropWhile_append []
  rw [List.append_nil] at hword
  rw [trim, hw.dropWhile_append, trimEnd, trimEnd, List.reverse_append, List.dropWhile_append]
  split
  · next hnil => rw [hword, List.isEmpty_iff.1 hnil]; simp
  · simp

theorem IsWord.trim_eq {w : List Char} (hw : IsWord w) : trim w = w := by
  simpa [trimEnd] using hw.trim_append []

/-- Trimming takes nothing away from the head of a text. -/
theorem exists_trimEnd_append (s : List Char) : ∃ t, trimEnd s ++ t = s := by
  have h := List.reverse_prefix.2 (List.dropWhile_suffix (l := s.reverse) isBlank)
  rw [List.reverse_reverse] at h
  exact h

end NameTagger.Text
