import Mathlib.Data.List.Forall2
import NameTagger.Proofs.Text.Chunks
import NameTagger.Proofs.Token

/-!
# A name and its tokens

The tokens of a name are what is kept of its maximal runs of characters that are not white space,
and nothing else is lost than commas and points at the end of a run.

* `IsKept`: a token is what is kept of a chunk;
* `forall₂_ofText`: the tokens of a name, chunk by chunk;
* `IsSplit`: the tokens of a name, their texts, spans and places;
* `ofText_isSplit`: every name is split so.
-/

namespace NameTagger.Token

open Text

/-- A token is what is kept of a chunk. -/
structure IsKept (token : Token) (chunk : Chunk) : Prop where
  start_eq : token.start = chunk.start
  text_eq : token.text.toList = clean chunk.text
  stop_eq : token.stop = token.start + token.text.length

/-! ### Chunk by chunk -/

/-- The chunks of which something is kept. -/
def kept (s : List Char) : List Chunk := (chunks s).filter fun chunk => clean chunk.text ≠ []

theorem mem_kept_iff {s : List Char} {chunk : Chunk} :
    chunk ∈ kept s ↔ IsRun 0 s chunk ∧ clean chunk.text ≠ [] := by
  rw [kept, List.mem_filter, chunks, mem_chunksFrom_iff, decide_eq_true_iff]

theorem pairwise_kept (s : List Char) : (kept s).Pairwise fun a b => a.stop < b.start :=
  (pairwise_chunksFrom 0 s).filter _

theorem filterMap_ofChunk? (chunks : List Chunk) :
    chunks.filterMap ofChunk? =
      (chunks.filter fun chunk => clean chunk.text ≠ []).map fun chunk =>
        (chunk.start, String.ofList (clean chunk.text)) := by
  induction chunks with
  | nil => rfl
  | cons chunk chunks ih =>
    cases hclean : clean chunk.text with
    | nil =>
      rw [List.filterMap_cons_none (by rw [ofChunk?, hclean]),
        List.filter_cons_of_neg (by simp [hclean]), ih]
    | cons c s =>
      rw [List.filterMap_cons_some (by rw [ofChunk?, hclean]),
        List.filter_cons_of_pos (by simp [hclean]), List.map_cons, ih, hclean]

theorem forall₂_number (pieces : List (Nat × String)) :
    List.Forall₂ (fun token piece => token.start = piece.1 ∧ token.text = piece.2 ∧
      token.stop = token.start + token.text.length) (number pieces) pieces := by
  refine List.forall₂_iff_get.2 ⟨length_number pieces, fun i _ _ => ?_⟩
  simp [number]

/-- The tokens of a name are what is kept of its chunks, in order. -/
theorem forall₂_ofText (text : String) :
    List.Forall₂ IsKept (ofText text) (kept text.toList) := by
  rw [ofText, filterMap_ofChunk?, ← kept]
  refine (List.forall₂_map_right_iff.1 (forall₂_number _)).imp ?_
  rintro token chunk ⟨hstart, htext, hstop⟩
  exact ⟨hstart, by rw [htext, String.toList_ofList], hstop⟩

theorem length_kept (text : String) : (kept text.toList).length = (ofText text).length :=
  (forall₂_ofText text).length_eq.symm

theorem isKept_getElem {text : String} {i : Nat} (hi : i < (ofText text).length)
    (hi' : i < (kept text.toList).length) : IsKept (ofText text)[i] (kept text.toList)[i] :=
  (List.forall₂_iff_get.1 (forall₂_ofText text)).2 i hi hi'

namespace IsKept

variable {token : Token} {chunk : Chunk} {s : List Char}

/-- A token ends inside its chunk. -/
theorem stop_le (h : IsKept token chunk) : token.stop ≤ chunk.stop := by
  have hle := (clean_isPrefix chunk.text).length_le
  rw [← h.text_eq, String.length_toList] at hle
  rw [h.stop_eq, h.start_eq, Chunk.stop]
  omega

/-- No character is lost inside a chunk but commas and points behind its token. -/
theorem isTrailing_of_stop_le (h : IsKept token chunk) (hrun : IsRun 0 s chunk) {i : Nat} {c : Char}
    (hi : s[i]? = some c) (hstart : token.stop ≤ i) (hstop : i < chunk.stop) :
    isTrailing c = true := by
  obtain ⟨dropped, hdropped, htrailing⟩ := exists_clean_append chunk.text
  have hlength : token.stop = chunk.start + (clean chunk.text).length := by
    rw [h.stop_eq, h.start_eq, ← h.text_eq, String.length_toList]
  have hinside : i - chunk.start < chunk.text.length := by
    rw [Chunk.stop] at hstop
    omega
  have hc := hrun.getElem?_start_add hinside
  rw [Nat.add_sub_cancel' (by omega), hi, ← hdropped, List.getElem?_append_right (by omega)] at hc
  exact htrailing c (List.mem_of_getElem? hc.symm)

end IsKept

/-! ### The tokens of a name -/

/-- These are the tokens of a name. -/
structure IsSplit (s : List Char) (tokens : List Token) : Prop where
  /-- They correspond in order to the maximal runs of which something is kept. -/
  runs : ∃ kept : List Chunk, List.Forall₂ IsKept tokens kept ∧
    kept.Pairwise (fun a b => a.start < b.start) ∧
    ∀ chunk, chunk ∈ kept ↔ IsRun 0 s chunk ∧ clean chunk.text ≠ []
  span : ∀ token ∈ tokens, token.start < token.stop ∧ token.stop ≤ s.length ∧
    (s.take token.stop).drop token.start = token.text.toList
  text : ∀ token ∈ tokens, (∀ c ∈ token.text.toList, isBlank c = false) ∧
    token.text.toList.getLast? ≠ some ',' ∧
    (token.text.toList.getLast? = some '.' → token.text.toList ∈ abbreviations)
  /-- There is white space between any two of them. -/
  apart : tokens.Pairwise fun a b => ∃ i c, a.stop ≤ i ∧ i < b.start ∧ s[i]? = some c ∧
    isBlank c = true
  /-- Nothing else stands outside of them than white space, commas and points. -/
  rest : ∀ i c, s[i]? = some c → (∀ token ∈ tokens, ¬(token.start ≤ i ∧ i < token.stop)) →
    isBlank c = true ∨ c = ',' ∨ c = '.'
  place : ∀ i token, tokens[i]? = some token → token.position = i ∧
    (token.isFirst = true ↔ i = 0) ∧ (token.isLast = true ↔ i + 1 = tokens.length)

/-- The chunk of a token. -/
theorem exists_kept {text : String} {token : Token} (h : token ∈ ofText text) :
    ∃ chunk, IsKept token chunk ∧ IsRun 0 text.toList chunk ∧ clean chunk.text ≠ [] := by
  obtain ⟨i, hi, rfl⟩ := List.mem_iff_getElem.1 h
  have hi' : i < (kept text.toList).length := length_kept text ▸ hi
  obtain ⟨hrun, hne⟩ := mem_kept_iff.1 (List.getElem_mem hi')
  exact ⟨_, isKept_getElem hi hi', hrun, hne⟩

theorem start_lt_stop {text : String} {token : Token} (h : token ∈ ofText text) :
    token.start < token.stop := by
  obtain ⟨chunk, hkept, -, hne⟩ := exists_kept h
  have hpos : 0 < token.text.length := by
    rw [← String.length_toList, hkept.text_eq]
    exact List.length_pos_iff.2 hne
  rw [hkept.stop_eq]
  omega

theorem getLast?_text_ne_comma {text : String} {token : Token} (h : token ∈ ofText text) :
    token.text.toList.getLast? ≠ some ',' := by
  obtain ⟨chunk, hkept, -, -⟩ := exists_kept h
  rw [hkept.text_eq]
  intro hlast
  -- every abbreviation ends with a point
  have hpoint : ∀ a ∈ abbreviations, a.getLast? ≠ some ',' := by decide
  exact hpoint _ (clean_mem_abbreviations hlast rfl) hlast

/-- Two tokens have the white space behind the chunk of the first between them. -/
theorem pairwise_ofText (text : String) :
    (ofText text).Pairwise fun a b => ∃ i c, a.stop ≤ i ∧ i < b.start ∧
      text.toList[i]? = some c ∧ isBlank c = true := by
  rw [List.pairwise_iff_getElem]
  intro i j hi hj hij
  have hi' : i < (kept text.toList).length := length_kept text ▸ hi
  have hj' : j < (kept text.toList).length := length_kept text ▸ hj
  have hbefore := List.pairwise_iff_getElem.1 (pairwise_kept text.toList) i j hi' hj' hij
  obtain ⟨hrun, -⟩ := mem_kept_iff.1 (List.getElem_mem hi')
  obtain ⟨hrun', -⟩ := mem_kept_iff.1 (List.getElem_mem hj')
  have hlt : (kept text.toList)[i].stop < text.toList.length := by
    have hle := hrun'.stop_le
    rw [Chunk.stop] at hle
    omega
  have hc := List.getElem?_eq_getElem hlt
  exact ⟨_, _, (isKept_getElem hi hi').stop_le, (isKept_getElem hj hj').start_eq ▸ hbefore, hc,
    hrun.isBlank_stop hc⟩

/-- A character outside of all tokens is white space, a comma or a point. -/
theorem isBlank_or_isTrailing {text : String} {i : Nat} {c : Char}
    (hi : text.toList[i]? = some c)
    (hout : ∀ token ∈ ofText text, ¬(token.start ≤ i ∧ i < token.stop)) :
    isBlank c = true ∨ isTrailing c = true := by
  cases hc : isBlank c with
  | true => exact .inl rfl
  | false =>
    right
    obtain ⟨chunk, hchunk, hstart, hstop⟩ := @exists_chunk_of_solid 0 _ _ _ hi hc
    rw [Nat.zero_add] at hstart hstop
    have hrun := mem_chunksFrom_iff.1 hchunk
    by_cases hne : clean chunk.text = []
    · -- nothing is kept of the chunk, so all of it is dropped
      obtain ⟨dropped, hdropped, htrailing⟩ := exists_clean_append chunk.text
      rw [hne, List.nil_append] at hdropped
      have hinside : i - chunk.start < chunk.text.length := by
        rw [Chunk.stop] at hstop
        omega
      have hget := hrun.getElem?_start_add hinside
      rw [Nat.add_sub_cancel' hstart, hi, ← hdropped] at hget
      exact htrailing c (List.mem_of_getElem? hget.symm)
    · obtain ⟨j, hj, rfl⟩ := List.mem_iff_getElem.1 (mem_kept_iff.2 ⟨hrun, hne⟩)
      have hj' : j < (ofText text).length := length_kept text ▸ hj
      have htoken := isKept_getElem hj' hj
      refine htoken.isTrailing_of_stop_le hrun hi ?_ hstop
      have hnot := hout _ (List.getElem_mem hj')
      rw [htoken.start_eq] at hnot
      omega

theorem place_ofText {text : String} {i : Nat} {token : Token}
    (h : (ofText text)[i]? = some token) :
    token.position = i ∧ (token.isFirst = true ↔ i = 0) ∧
      (token.isLast = true ↔ i + 1 = (ofText text).length) := by
  refine ⟨position_of_number h, ?_⟩
  rw [ofText, length_number]
  rw [ofText, number, List.getElem?_mapIdx] at h
  obtain ⟨piece, -, rfl⟩ := Option.map_eq_some_iff.1 h
  simp

/-- The tokens of a name are exactly what is kept of its maximal runs. -/
theorem ofText_isSplit (text : String) : IsSplit text.toList (ofText text) where
  runs := by
    refine ⟨kept text.toList, forall₂_ofText text, ?_, fun chunk => mem_kept_iff⟩
    refine (pairwise_kept text.toList).imp fun {a b} hlt => ?_
    rw [Chunk.stop] at hlt
    omega
  span token htoken := by
    obtain ⟨chunk, hkept, hrun, -⟩ := exists_kept htoken
    exact ⟨start_lt_stop htoken, Nat.le_trans hkept.stop_le hrun.stop_le, ofText_span htoken⟩
  text token htoken := by
    obtain ⟨chunk, hkept, hrun, -⟩ := exists_kept htoken
    obtain ⟨-, -, -, -, ⟨-, hsolid⟩, -⟩ := hrun
    refine ⟨fun c hc => ?_, getLast?_text_ne_comma htoken, fun hlast => ?_⟩
    · rw [hkept.text_eq] at hc
      exact hsolid c ((clean_isPrefix chunk.text).subset hc)
    · rw [hkept.text_eq] at hlast ⊢
      exact clean_mem_abbreviations hlast rfl
  apart := pairwise_ofText text
  rest i c hi hout := by
    refine (isBlank_or_isTrailing hi hout).imp_right fun hc => ?_
    simpa [isTrailing] using hc
  place _ _ := place_ofText

end NameTagger.Token
