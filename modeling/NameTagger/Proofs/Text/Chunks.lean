import NameTagger.Proofs.Text.Words

/-!
# The chunks of a text

The chunks of a text are its maximal runs of characters that are not white space, each once and from
left to right.

* `Chunk.stop`: the offset behind a chunk;
* `IsRun`: a chunk is a maximal run of a text;
* `isRun_cons_blank`, `isRun_word_append`: the runs of a text by what it begins with;
* `mem_chunksFrom_iff`, `pairwise_chunksFrom`: the chunks are the runs, in order;
* `exists_chunk_of_solid`: no other character is left out.
-/

namespace NameTagger.Text

/-- The offset behind the last character of a chunk. -/
def Chunk.stop (chunk : Chunk) : Nat := chunk.start + chunk.text.length

/-- A chunk is a maximal run of characters that are not white space, in a text whose first character
has the given offset. -/
def IsRun (offset : Nat) (s : List Char) (chunk : Chunk) : Prop :=
  ∃ before after, s = before ++ (chunk.text ++ after) ∧ chunk.start = offset + before.length ∧
    IsWord chunk.text ∧
    (∀ c, before.getLast? = some c → isBlank c = true) ∧
    (∀ c, after.head? = some c → isBlank c = true)

theorem not_isRun_nil (offset : Nat) (chunk : Chunk) : ¬IsRun offset [] chunk := by
  rintro ⟨before, after, hs, -, ⟨hne, -⟩, -⟩
  have hnil := List.append_eq_nil_iff.1 (List.append_eq_nil_iff.1 hs.symm).2
  exact hne hnil.1

/-- No run begins at white space. -/
theorem IsRun.offset_lt {offset : Nat} {s : List Char} {chunk : Chunk} (h : IsRun offset s chunk)
    (hs : ∀ c, s.head? = some c → isBlank c = true) : offset < chunk.start := by
  obtain ⟨before, after, rfl, hstart, ⟨hne, hsolid⟩, -⟩ := h
  cases before with
  | cons c before =>
    rw [hstart, List.length_cons]
    omega
  | nil =>
    obtain ⟨c, w, hw⟩ := List.exists_cons_of_ne_nil hne
    have hblank : isBlank c = true := hs c (by rw [hw]; rfl)
    rw [hsolid c (by rw [hw]; exact List.mem_cons_self)] at hblank
    cases hblank

theorem isRun_cons_blank {c : Char} (hc : isBlank c = true) (offset : Nat) (s : List Char)
    (chunk : Chunk) : IsRun offset (c :: s) chunk ↔ IsRun (offset + 1) s chunk := by
  constructor
  · intro h
    have hlt : offset < chunk.start := h.offset_lt (by rintro _ ⟨⟩; exact hc)
    obtain ⟨before, after, hs, hstart, hword, hbefore, hafter⟩ := h
    cases before with
    | nil => simp at hstart; omega
    | cons d before =>
      rw [List.cons_append, List.cons.injEq] at hs
      refine ⟨before, after, hs.2, ?_, hword, fun e he => hbefore e ?_, hafter⟩
      · rw [hstart, List.length_cons]
        omega
      · rw [List.getLast?_cons, he]
        rfl
  · rintro ⟨before, after, rfl, hstart, hword, hbefore, hafter⟩
    refine ⟨c :: before, after, rfl, ?_, hword, ?_, hafter⟩
    · rw [hstart, List.length_cons]
      omega
    · intro e he
      rw [List.getLast?_cons, Option.some.injEq] at he
      cases hlast : before.getLast? with
      | none => rwa [← he, hlast]
      | some d =>
        rw [← he, hlast]
        exact hbefore d hlast

theorem isRun_word_append {w rest : List Char} (hw : IsWord w)
    (hrest : ∀ c, rest.head? = some c → isBlank c = true) (offset : Nat) (chunk : Chunk) :
    IsRun offset (w ++ rest) chunk ↔
      chunk = ⟨offset, w⟩ ∨ IsRun (offset + w.length) rest chunk := by
  have hsolid : ∀ v : List Char, IsWord v → ∀ c ∈ v, isSolid c = true :=
    fun v hv c hc => by simp [isSolid, hv.2 c hc]
  have hstop : ∀ after : List Char, (∀ c, after.head? = some c → isBlank c = true) →
      ∀ c, after.head? = some c → isSolid c = false :=
    fun after h c hc => by simp [isSolid, h c hc]
  constructor
  · rintro ⟨before, after, hs, hstart, hword, hbefore, hafter⟩
    rcases List.append_eq_append_iff.1 hs with ⟨gap, rfl, hgap⟩ | ⟨tail, rfl, htail⟩
    · -- the run begins behind the word
      refine .inr ⟨gap, after, hgap, ?_, hword, fun c hc => hbefore c ?_, hafter⟩
      · rw [hstart, List.length_append]
        omega
      · rw [List.getLast?_append, hc]
        rfl
    · -- the run begins inside the word, so it begins with it
      have hnil : before = [] := by
        cases hlast : before.getLast? with
        | none => exact List.getLast?_eq_none_iff.1 hlast
        | some c =>
          have hblank : isBlank c = true := hbefore c hlast
          rw [hw.2 c (List.mem_append_left _ (List.mem_of_getLast? hlast))] at hblank
          cases hblank
      subst hnil
      have hrun : chunk.text = tail := by
        rw [← takeWhile_append_stop (hsolid _ hword) (hstop _ hafter), htail]
        exact takeWhile_append_stop (hsolid _ hw) (hstop _ hrest)
      left
      obtain ⟨start, text⟩ := chunk
      obtain rfl : text = tail := hrun
      obtain rfl : start = offset := hstart
      rfl
  · rintro (rfl | ⟨before, after, hs, hstart, hword, hbefore, hafter⟩)
    · exact ⟨[], rest, rfl, rfl, hw, by simp, hrest⟩
    · have hlt : offset + w.length < chunk.start :=
        IsRun.offset_lt ⟨before, after, hs, hstart, hword, hbefore, hafter⟩ hrest
      refine ⟨w ++ before, after, by rw [hs, List.append_assoc], ?_, hword, ?_, hafter⟩
      · rw [hstart, List.length_append]
        omega
      · intro c hc
        cases hlast : before.getLast? with
        | none =>
          rw [List.getLast?_eq_none_iff.1 hlast, List.length_nil] at hstart
          omega
        | some d =>
          rw [List.getLast?_append, hlast] at hc
          exact hbefore c (hlast.trans hc)

/-! ### The chunks are the runs -/

/-- What a text begins with if its first character is not white space. -/
theorem isWord_takeWhile {c : Char} (hc : ¬isBlank c = true) (s : List Char) :
    IsWord (c :: s.takeWhile isSolid) := by
  refine ⟨List.cons_ne_nil _ _, fun d hd => ?_⟩
  rcases List.mem_cons.1 hd with rfl | hd
  · simpa using hc
  · simpa [isSolid] using List.all_eq_true.1 List.all_takeWhile d hd

theorem isBlank_of_head?_dropWhile {s : List Char} {c : Char}
    (h : (s.dropWhile isSolid).head? = some c) : isBlank c = true := by
  have hc := List.head?_dropWhile_not isSolid s
  rw [h] at hc
  simpa [isSolid] using hc

theorem cons_eq_word_append (c : Char) (s : List Char) :
    c :: s = (c :: s.takeWhile isSolid) ++ s.dropWhile isSolid := by
  rw [List.cons_append, List.takeWhile_append_dropWhile]

/-- The chunks of a text are its maximal runs. -/
theorem mem_chunksFrom_iff {offset : Nat} {s : List Char} {chunk : Chunk} :
    chunk ∈ chunksFrom offset s ↔ IsRun offset s chunk := by
  fun_induction chunksFrom offset s with
  | case1 offset => simp [not_isRun_nil]
  | case2 offset c s hc ih => rw [ih, isRun_cons_blank hc]
  | case3 offset c s hc ih =>
    have hlength : offset + 1 + (s.takeWhile isSolid).length =
        offset + (c :: s.takeWhile isSolid).length := by
      rw [List.length_cons]
      omega
    rw [List.mem_cons, ih, hlength, cons_eq_word_append c s,
      isRun_word_append (isWord_takeWhile hc s) fun _ => isBlank_of_head?_dropWhile]

/-- A chunk ends before the next one begins. -/
theorem pairwise_chunksFrom (offset : Nat) (s : List Char) :
    (chunksFrom offset s).Pairwise fun a b => a.stop < b.start := by
  fun_induction chunksFrom offset s with
  | case1 offset => exact .nil
  | case2 offset c s hc ih => exact ih
  | case3 offset c s hc ih =>
    refine List.pairwise_cons.2 ⟨fun chunk hchunk => ?_, ih⟩
    have hlt := (mem_chunksFrom_iff.1 hchunk).offset_lt fun _ => isBlank_of_head?_dropWhile
    show offset + (c :: s.takeWhile isSolid).length < chunk.start
    rw [List.length_cons]
    omega

/-- A character that is not white space stands in a chunk. -/
theorem exists_chunk_of_solid {offset i : Nat} {s : List Char} {c : Char} (hi : s[i]? = some c)
    (hc : isBlank c = false) :
    ∃ chunk ∈ chunksFrom offset s, chunk.start ≤ offset + i ∧ offset + i < chunk.stop := by
  fun_induction chunksFrom offset s generalizing i with
  | case1 offset => cases hi
  | case2 offset d s hd ih =>
    cases i with
    | zero =>
      obtain rfl := Option.some.inj hi
      rw [hd] at hc
      cases hc
    | succ i =>
      obtain ⟨chunk, hchunk, hstart, hstop⟩ := ih hi
      exact ⟨chunk, hchunk, by omega, by omega⟩
  | case3 offset d s hd ih =>
    by_cases hlt : i < (d :: s.takeWhile isSolid).length
    · exact ⟨_, List.mem_cons_self, Nat.le_add_right _ _, Nat.add_lt_add_left hlt offset⟩
    · -- the character stands behind the first word
      have hbehind : (s.dropWhile isSolid)[i - (d :: s.takeWhile isSolid).length]? = some c := by
        rw [← hi, cons_eq_word_append d s, List.getElem?_append_right (by omega)]
      obtain ⟨chunk, hchunk, hstart, hstop⟩ := ih hbehind
      rw [List.length_cons] at hlt hstart hstop
      exact ⟨chunk, List.mem_cons_of_mem _ hchunk, by omega, by omega⟩

/-! ### Characters at a run -/

namespace IsRun

variable {s : List Char} {chunk : Chunk}

/-- The characters of a run stand from its start on. -/
theorem getElem?_start_add (h : IsRun 0 s chunk) {i : Nat} (hi : i < chunk.text.length) :
    s[chunk.start + i]? = chunk.text[i]? := by
  obtain ⟨before, after, rfl, hstart, -⟩ := h
  rw [hstart, Nat.zero_add, List.getElem?_append_right (by omega), Nat.add_sub_cancel_left,
    List.getElem?_append_left hi]

theorem stop_le (h : IsRun 0 s chunk) : chunk.stop ≤ s.length := by
  obtain ⟨before, after, rfl, hstart, -⟩ := h
  rw [Chunk.stop, hstart, List.length_append, List.length_append]
  omega

/-- A run is followed by white space. -/
theorem isBlank_stop (h : IsRun 0 s chunk) {c : Char} (hc : s[chunk.stop]? = some c) :
    isBlank c = true := by
  obtain ⟨before, after, rfl, hstart, -, -, hafter⟩ := h
  apply hafter c
  rw [← hc, Chunk.stop, hstart, ← List.append_assoc, List.getElem?_append_right (by simp),
    List.head?_eq_getElem?]
  congr 1
  simp

end IsRun

end NameTagger.Text
