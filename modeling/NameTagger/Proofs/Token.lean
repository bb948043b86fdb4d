import NameTagger.Proofs.Text.Words
import NameTagger.Token

/-!
# Tokens of a name

A name that is typed as it was split has the same tokens as before.

* `Token.map_text_ofTexts`: the texts of a name that was split beforehand;
* `Token.exists_clean_append`, `Token.clean_mem_abbreviations`: what is dropped at the end of a
  piece and what is kept there;
* `Token.ofText_span`, `Token.position_of_number`: where a token stands in its name;
* `Token.IsWhole`: a text that is a token as it stands;
* `Token.filterMap_placed`: the chunks of such texts are kept;
* `Token.ofText_intercalate`: splitting them again gives the same tokens.
-/

namespace NameTagger.Token

open Text

@[simp] theorem length_spaced (offset : Nat) (texts : List String) :
    (spaced offset texts).length = texts.length := by
  induction texts generalizing offset with
  | nil => rfl
  | cons text texts ih => rw [spaced, List.length_cons, List.length_cons, ih]

theorem map_text_number (pieces : List (Nat × String)) :
    (number pieces).map Token.text = pieces.map (·.2) := by
  refine List.ext_getElem? fun i => ?_
  rw [number, List.getElem?_map, List.getElem?_mapIdx, List.getElem?_map, Option.map_map]
  rfl

theorem map_snd_spaced (offset : Nat) (texts : List String) :
    (spaced offset texts).map (·.2) = texts := by
  induction texts generalizing offset with
  | nil => rfl
  | cons text texts ih => rw [spaced, List.map_cons, ih]

/-- The texts of a name that was split beforehand are used as they are. -/
theorem map_text_ofTexts (texts : List String) : (ofTexts texts).map Token.text = texts := by
  rw [ofTexts, map_text_number, map_snd_spaced]

/-! ### Where a token stands -/

/-- Only commas and points are dropped, and only at the end of a piece. -/
theorem exists_clean_append (piece : List Char) :
    ∃ dropped, clean piece ++ dropped = piece ∧ ∀ c ∈ dropped, isTrailing c = true := by
  have hreversed (s : List Char) :
      ∃ dropped, dropped ++ cleanReversed s = s ∧ ∀ c ∈ dropped, isTrailing c = true := by
    induction s with
    | nil => exact ⟨[], rfl, fun _ hc => nomatch hc⟩
    | cons c s ih =>
      rw [cleanReversed]
      split
      · next hdrop =>
        obtain ⟨dropped, hs, htrailing⟩ := ih
        have hc : isTrailing c = true := (Bool.and_eq_true_iff.1 hdrop).1
        exact ⟨c :: dropped, congrArg (c :: ·) hs, List.forall_mem_cons.2 ⟨hc, htrailing⟩⟩
      · exact ⟨[], rfl, fun _ hc => nomatch hc⟩
  obtain ⟨dropped, hpiece, htrailing⟩ := hreversed piece.reverse
  refine ⟨dropped.reverse, ?_, fun c hc => htrailing c (List.mem_reverse.1 hc)⟩
  rw [clean, ← List.reverse_append, hpiece, List.reverse_reverse]

/-- What is kept of a piece stands at its beginning. -/
theorem clean_isPrefix (piece : List Char) : clean piece <+: piece := by
  obtain ⟨dropped, hpiece, -⟩ := exists_clean_append piece
  exact ⟨dropped, hpiece⟩

/-- A comma or a point is kept at the end of an abbreviation only. -/
theorem clean_mem_abbreviations {piece : List Char} {c : Char}
    (hlast : (clean piece).getLast? = some c) (hc : isTrailing c = true) :
    clean piece ∈ abbreviations := by
  have hreversed (s : List Char) (h : (cleanReversed s).head? = some c) :
      isAbbreviationReversed (cleanReversed s) = true := by
    induction s with
    | nil => cases h
    | cons d s ih =>
      rw [cleanReversed] at h ⊢
      split at h
      · next hdrop =>
        rw [if_pos hdrop]
        exact ih h
      · next hkeep =>
        rw [if_neg hkeep]
        obtain rfl := Option.some.inj h
        simpa [hc] using hkeep
  rw [clean, List.getLast?_reverse] at hlast
  exact (isAbbreviationReversed_iff _).1 (hreversed _ hlast)

theorem ofChunk?_eq_some {chunk : Chunk} {piece : Nat × String} (h : ofChunk? chunk = some piece) :
    piece.1 = chunk.start ∧ piece.2.toList <+: chunk.text := by
  rw [ofChunk?] at h
  split at h
  · cases h
  · next c s hclean =>
    obtain rfl := Option.some.inj h
    refine ⟨rfl, ?_⟩
    rw [String.toList_ofList, ← hclean]
    exact clean_isPrefix chunk.text

/-- A token has the number of the tokens before it. -/
theorem position_of_number {pieces : List (Nat × String)} {i : Nat} {token : Token}
    (h : (number pieces)[i]? = some token) : token.position = i := by
  rw [number, List.getElem?_mapIdx] at h
  obtain ⟨piece, -, rfl⟩ := Option.map_eq_some_iff.1 h
  rfl

theorem position_lt {text : String} {token : Token} (h : token ∈ ofText text) :
    token.position < (ofText text).length := by
  obtain ⟨i, hi, rfl⟩ := List.mem_iff_getElem.1 h
  exact (position_of_number (List.getElem?_eq_getElem hi)).symm ▸ hi

/-- The text of a token is what stands in the name from its start to its stop. -/
theorem ofText_span {text : String} {token : Token} (h : token ∈ ofText text) :
    (text.toList.take token.stop).drop token.start = token.text.toList := by
  rw [ofText, number, List.mem_mapIdx] at h
  obtain ⟨i, hi, rfl⟩ := h
  have hpiece := List.getElem_mem hi
  generalize ((chunks text.toList).filterMap ofChunk?)[i] = piece at hpiece ⊢
  obtain ⟨chunk, hchunk, hpiece⟩ := List.mem_filterMap.1 hpiece
  obtain ⟨hstart, dropped, hdropped⟩ := ofChunk?_eq_some hpiece
  obtain ⟨before, rest, htext, hoffset⟩ := exists_append_of_mem_chunksFrom hchunk
  have hlength : piece.1 = before.length := by omega
  show (text.toList.take (piece.1 + piece.2.length)).drop piece.1 = piece.2.toList
  rw [htext, ← hdropped, hlength, List.append_assoc, List.drop_take, Nat.add_sub_cancel_left,
    List.drop_left, ← String.length_toList, List.take_left]

/-! ### Tokens as they stand -/

/-- A text is a token as it stands: it is a word, and nothing is dropped at its end. -/
structure IsWhole (text : String) : Prop where
  isWord : IsWord text.toList
  clean_eq : clean text.toList = text.toList

/-- A chunk that is a token as it stands is kept. -/
theorem ofChunk?_whole {text : String} (h : IsWhole text) (offset : Nat) :
    ofChunk? ⟨offset, text.toList⟩ = some (offset, text) := by
  have hne := h.isWord.1
  have htext : String.ofList text.toList = text := String.ofList_toList
  rw [ofChunk?, h.clean_eq]
  cases hchars : text.toList with
  | nil => exact absurd hchars hne
  | cons c s => rw [← htext, hchars]

theorem filterMap_placed {texts : List String} (h : ∀ text ∈ texts, IsWhole text) (offset : Nat) :
    (placed offset (texts.map String.toList)).filterMap ofChunk? = spaced offset texts := by
  induction texts generalizing offset with
  | nil => rfl
  | cons text texts ih =>
    obtain ⟨htext, hrest⟩ := List.forall_mem_cons.1 h
    rw [List.map_cons, placed, List.filterMap_cons_some (ofChunk?_whole htext offset), ih hrest,
      spaced, String.length_toList]

/-- Texts that are tokens as they stand are split again where they were joined by single spaces. -/
theorem ofText_intercalate {texts : List String} (h : ∀ text ∈ texts, IsWhole text) :
    ofText (String.intercalate " " texts) = ofTexts texts := by
  have hwords : ∀ w ∈ texts.map String.toList, IsWord w :=
    List.forall_mem_map.2 fun text htext => (h text htext).isWord
  have hjoin : (String.intercalate " " texts).toList = joinWords (texts.map String.toList) :=
    String.toList_intercalate
  rw [ofText, hjoin, chunks, chunksFrom_joinWords hwords, filterMap_placed h, ofTexts]

end NameTagger.Token
