import NameTagger.Proofs.Token.Split

/-!
# Names that are split again

The texts of the tokens of a name, joined by single spaces, are a name with the same tokens but for
their spans, which are those of a name that was split beforehand.

* `clean_clean`: nothing more is dropped at the end of what was kept;
* `isWhole_of_mem_ofText`: the text of a token is a token as it stands;
* `ofText_rejoined`: splitting a name again changes nothing.
-/

namespace NameTagger.Token

open Text

theorem cleanReversed_cleanReversed (s : List Char) :
    cleanReversed (cleanReversed s) = cleanReversed s := by
  induction s with
  | nil => rfl
  | cons c s ih =>
    by_cases hdrop : (isTrailing c && !isAbbreviationReversed (c :: s)) = true
    · rw [cleanReversed, if_pos hdrop, ih]
    · -- what stops the first time stops at once the second time
      have hkeep : cleanReversed (c :: s) = c :: s := by rw [cleanReversed, if_neg hdrop]
      rw [hkeep, hkeep]

/-- A comma, a point or an abbreviation that comes to light stays what it is. -/
theorem clean_clean (piece : List Char) : clean (clean piece) = clean piece := by
  unfold clean
  rw [List.reverse_reverse, cleanReversed_cleanReversed]

/-- The text of a token is a token as it stands. -/
theorem isWhole_of_mem_ofText {text : String} {token : Token} (h : token ∈ ofText text) :
    IsWhole token.text := by
  obtain ⟨chunk, hkept, ⟨_, _, _, _, hword, _⟩, hne⟩ := exists_kept h
  constructor
  · rw [hkept.text_eq]
    exact ⟨hne, fun c hc => hword.2 c ((clean_isPrefix chunk.text).subset hc)⟩
  · rw [hkept.text_eq, clean_clean]

/-- The texts of the tokens of a name, joined by single spaces, have the tokens of a name that was
split beforehand, and so they have the same texts again.  The same is true of any words from which
nothing is dropped. -/
theorem ofText_rejoined :
    (∀ text : String,
      ofText (String.intercalate " " ((ofText text).map Token.text)) =
          ofTexts ((ofText text).map Token.text) ∧
        (ofText (String.intercalate " " ((ofText text).map Token.text))).map Token.text =
          (ofText text).map Token.text) ∧
    ∀ texts : List String, (∀ text ∈ texts, IsWhole text) →
      ofText (String.intercalate " " texts) = ofTexts texts := by
  refine ⟨fun text => ?_, fun texts htexts => ofText_intercalate htexts⟩
  have hwhole : ∀ t ∈ (ofText text).map Token.text, IsWhole t :=
    List.forall_mem_map.2 fun token htoken => isWhole_of_mem_ofText htoken
  have hagain := ofText_intercalate hwhole
  exact ⟨hagain, by rw [hagain, map_text_ofTexts]⟩

/-- Abbreviations keep their points, and a comma inside a word is no end of it. -/
theorem ofText_rejoined_abbreviations :
    (∀ text ∈ ["Mr.", "O,Neil", "Jr."], IsWhole text) ∧
      ofText (String.intercalate " " ["Mr.", "O,Neil", "Jr."]) = ofTexts ["Mr.", "O,Neil", "Jr."] ∧
      ofTexts ["Mr.", "O,Neil", "Jr."] =
        [⟨"Mr.", 0, 0, 3, true, false⟩, ⟨"O,Neil", 1, 4, 10, false, false⟩,
          ⟨"Jr.", 2, 11, 14, false, true⟩] := by
  have hwhole : ∀ text ∈ ["Mr.", "O,Neil", "Jr."], IsWhole text := by
    simp only [List.forall_mem_cons]
    exact ⟨⟨by decide, by decide⟩, ⟨by decide, by decide⟩, ⟨by decide, by decide⟩,
      List.forall_mem_nil _⟩
  exact ⟨hwhole, ofText_rejoined.2 _ hwhole, by decide⟩

end NameTagger.Token
