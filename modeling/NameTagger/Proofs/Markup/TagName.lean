import NameTagger.Proofs.Markup.Cut
import NameTagger.Proofs.Text.OneLine

/-!
# Tags and their names

* `Tag.IsNamed`: the name of a tag is a word without brackets;
* `TagAt`: the tag at the head of a text;
* `TagAt.of_read`, `TagAt.read`: such a tag is what is read there, whatever follows it;
* `head?_of_read`: what is no text begins with a bracket;
* `isNamed_of_mem_events`: the names of all tags that are met.
-/

namespace NameTagger.Markup

open Text

/-! ### Names -/

/-- The name of a tag is a word without brackets. -/
structure Tag.IsNamed (tag : Tag) : Prop where
  isWord : IsWord tag.name.toList
  inner : ∀ c ∈ tag.name.toList, c ≠ '<' ∧ c ≠ '>'

namespace Tag

variable {kind : TagKind} {tag : Tag} {s inner : List Char}

/-- The name of a tag is one of the words that stand between its brackets. -/
theorem name_of_named? (h : named? kind s = some tag) :
    IsWord tag.name.toList ∧ tag.name.toList ⊆ s := by
  obtain ⟨name, hname, rfl⟩ := Option.map_eq_some_iff.1 h
  rw [String.toList_ofList]
  have hmem : name ∈ words s := List.mem_of_head? hname
  exact ⟨isWord_of_mem_words hmem, subset_of_mem_words hmem⟩

theorem name_of_ofInner? (h : ofInner? inner = some tag) :
    IsWord tag.name.toList ∧ tag.name.toList ⊆ inner := by
  have htrim := trim_subset inner
  rw [ofInner?] at h
  split at h
  · next rest heq =>
    obtain ⟨hword, hname⟩ := name_of_named? h
    rw [heq] at htrim
    exact ⟨hword, fun c hc => htrim (List.mem_cons_of_mem _ (hname hc))⟩
  · split at h
    · obtain ⟨hword, hname⟩ := name_of_named? h
      exact ⟨hword, fun c hc => htrim (List.dropLast_subset _ (hname hc))⟩
    · obtain ⟨hword, hname⟩ := name_of_named? h
      exact ⟨hword, fun c hc => htrim (hname hc)⟩

end Tag

/-! ### Tags at the head of a text -/

/-- The tag at the head of a text, with what stands between its brackets and behind it. -/
structure TagAt (s inner behind : List Char) (tag : Tag) : Prop where
  text : s = '<' :: inner ++ '>' :: behind
  unbracketed : ∀ c ∈ inner, c ≠ '<' ∧ c ≠ '>'
  plain : Special.at? s = none
  tag : Tag.ofInner? inner = some tag

/-- What is no text begins with a bracket. -/
theorem head?_of_read {s behind : List Char} {piece : Piece}
    (h : Piece.read s = .ok (piece, behind)) (hpiece : ∀ chars, piece ≠ .text chars) :
    s.head? = some '<' := by
  refine Decidable.byContradiction fun hhead => ?_
  obtain ⟨chars, rfl, -⟩ := eq_text_of_read hhead h
  exact hpiece chars rfl

/-- A problem is met at a bracket, as text is none. -/
theorem HasProblem.head? {s : List Char} {problem : Problem} (h : HasProblem s problem) :
    s.head? = some '<' := by
  obtain ⟨-, hread | ⟨piece, behind, hread, hitem⟩⟩ := h
  · refine Decidable.byContradiction fun hhead => ?_
    cases s with
    | nil => cases hread
    | cons c s =>
      have htext := Piece.read.eq_2 (c :: s) fun t ht => hhead (by rw [ht]; rfl)
      rw [hread] at htext
      cases htext
  · refine head?_of_read hread ?_
    rintro chars rfl
    cases hitem

namespace TagAt

variable {s inner behind : List Char} {tag : Tag}

theorem isNamed (h : TagAt s inner behind tag) : tag.IsNamed := by
  obtain ⟨hword, hname⟩ := Tag.name_of_ofInner? h.tag
  exact ⟨hword, fun c hc => h.unbracketed c (hname hc)⟩

/-- A tag among the pieces of a text stands there. -/
theorem of_read {piece : Piece} (h : Piece.read s = .ok (piece, behind))
    (hitem : piece.item? = .ok (some (.tag tag))) :
    ∃ inner, piece = .tag inner ∧ TagAt s inner behind tag := by
  cases piece with
  | text chars => cases hitem
  | special kind inner => cases hitem
  | tag inner =>
    have hs := source_append_of_read h
    obtain ⟨t, rfl⟩ := List.head?_eq_some_iff.1 (head?_of_read h (by simp))
    have htag : Tag.ofInner? inner = some tag := by
      rw [Piece.item?] at hitem
      split at hitem
      · next heq =>
        cases hitem
        exact heq
      · cases hitem
    cases hkind : Special.at? ('<' :: t) with
    | some kind =>
      rw [read_special hkind, Piece.readSpecial] at h
      split at h <;> cases h
    | none =>
      rw [read_no_special hkind, Piece.readTag] at h
      refine ⟨inner, rfl, ?_, ?_, hkind, htag⟩
      · rw [← hs, Piece.source, List.append_assoc]
        rfl
      · split at h
        · cases h
          intro c hc
          simpa [Piece.isInner] using List.all_eq_true.1 List.all_takeWhile c hc
        · cases h

theorem item? (h : TagAt s inner behind tag) :
    (Piece.tag inner).item? = .ok (some (.tag tag)) := by
  rw [Piece.item?, h.tag]

/-- A tag is read in the same way whatever follows it. -/
theorem read (h : TagAt s inner behind tag) (rest : List Char) :
    Piece.read ('<' :: inner ++ '>' :: rest) = .ok (.tag inner, rest) := by
  have hrun : ∀ c ∈ inner, Piece.isInner c = true := by
    intro c hc
    simpa [Piece.isInner] using h.unbracketed c hc
  have hstop : ∀ c, ('>' :: rest).head? = some c → Piece.isInner c = false := by
    rintro c ⟨⟩
    decide
  have hclosed : '>' ∈ inner ++ ['>'] := List.mem_append_right _ (List.mem_singleton_self _)
  have hplain (rest : List Char) :
      Special.at? ('<' :: inner ++ '>' :: rest) = Special.at? ('<' :: (inner ++ ['>'])) := by
    rw [← Special.at?_append hclosed rest]
    simp
  have hat : Special.at? ('<' :: (inner ++ '>' :: rest)) = none := by
    rw [← List.cons_append, hplain, ← hplain behind, ← h.text, h.plain]
  rw [List.cons_append, read_no_special hat, Piece.readTag, dropWhile_append_stop hrun hstop,
    takeWhile_append_stop hrun hstop]
  rfl

end TagAt

/-- The names of the tags that are met are words without brackets. -/
theorem isNamed_of_mem_events {offset : Nat} {s : List Char} {event : Event} {tag : Tag}
    (h : event ∈ (scanFrom offset s).events) (htag : event.item = .tag tag) : tag.IsNamed := by
  obtain ⟨earlier, later, hevents⟩ := List.append_of_mem h
  obtain ⟨-, rest, piece, behind, -, -, -, -, hread, hitem, -⟩ := exists_cut hevents
  rw [htag] at hitem
  obtain ⟨inner, -, hat⟩ := TagAt.of_read hread hitem
  exact hat.isNamed

end NameTagger.Markup
