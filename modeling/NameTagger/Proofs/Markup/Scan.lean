import NameTagger.Markup.Scan
import NameTagger.Proofs.Text.Words

/-!
# Scanning piece by piece

* `scanFrom_of_read`: one step of a scan;
* `exists_text_run`: the run of text in front of the first bracket;
* `read_text`, `read_tag`, `read_comment`: the first piece of a text, by the way it is written;
* `IsElementName`, `Tag.ofInner?_name`, `Tag.ofInner?_slash`: names that tags are written with.
-/

namespace NameTagger.Markup

open Text

/-! ### One step -/

@[simp] theorem scanFrom_nil (offset : Nat) : scanFrom offset [] = .done := by
  rw [scanFrom, dif_pos rfl]

theorem scanFrom_of_read {s rest : List Char} {piece : Piece} (hs : s ≠ [])
    (h : Piece.read s = .ok (piece, rest)) (offset : Nat) :
    scanFrom offset s =
      match piece.item? with
      | .error problem => .failed offset problem
      | .ok item? => (scanFrom (offset + piece.source.length) rest).push offset item? := by
  rw [scanFrom, dif_neg hs]
  split
  · next heq =>
    rw [h] at heq
    cases heq
  · next heq =>
    rw [h] at heq
    cases heq
    rfl

/-! ### The first piece of a text -/

theorem bracket_not_mem_takeWhile (s : List Char) : '<' ∉ s.takeWhile Piece.isText := by
  intro hmem
  have htext := List.all_eq_true.1 (List.all_takeWhile (l := s)) '<' hmem
  simp [Piece.isText] at htext

theorem eq_bracket_of_dropWhile {s : List Char} {c : Char}
    (h : (s.dropWhile Piece.isText).head? = some c) : c = '<' := by
  have hstop := List.head?_dropWhile_not Piece.isText s
  rw [h] at hstop
  simpa [Piece.isText] using hstop

/-- A text begins with a run of text, which may be empty, up to a bracket. -/
theorem exists_text_run (s : List Char) :
    ∃ run rest, s = run ++ rest ∧ '<' ∉ run ∧ ∀ c, rest.head? = some c → c = '<' :=
  ⟨s.takeWhile Piece.isText, s.dropWhile Piece.isText, List.takeWhile_append_dropWhile.symm,
    bracket_not_mem_takeWhile s, fun _ => eq_bracket_of_dropWhile⟩

/-- A run of text ends at an opening bracket or with the text. -/
theorem read_text {chars rest : List Char} (hne : chars ≠ []) (hchars : '<' ∉ chars)
    (hrest : ∀ c, rest.head? = some c → c = '<') :
    Piece.read (chars ++ rest) = .ok (.text chars, rest) := by
  have hrun : ∀ c ∈ chars, Piece.isText c = true := by
    intro c hc
    simpa [Piece.isText] using fun heq : c = '<' => hchars (heq ▸ hc)
  have hstop : ∀ c, rest.head? = some c → Piece.isText c = false :=
    fun c hc => by simp [Piece.isText, hrest c hc]
  have htake := takeWhile_append_stop hrun hstop
  have hdrop := dropWhile_append_stop hrun hstop
  cases chars with
  | nil => exact absurd rfl hne
  | cons c chars =>
    have hc : c ≠ '<' := fun heq => hchars (by simp [heq])
    rw [List.cons_append] at htake hdrop ⊢
    unfold Piece.read
    split
    · next heq => exact absurd (List.cons.inj heq).1 hc
    · rw [htake, hdrop]

/-- No section begins with a bracket in front of another character than its marks. -/
theorem at?_eq_none {s : List Char} (h : ∀ c, s.head? = some c → c ≠ '!' ∧ c ≠ '?') :
    Special.at? ('<' :: s) = none := by
  cases s with
  | nil => rfl
  | cons c s =>
    obtain ⟨hbang, hquery⟩ := h c rfl
    simp [Special.at?, Special.all, Special.opener, List.isPrefixOf, Ne.symm hbang, Ne.symm hquery]

theorem read_tag {inner rest : List Char} (hinner : ∀ c ∈ inner, c ≠ '<' ∧ c ≠ '>')
    (hhead : ∀ c, inner.head? = some c → c ≠ '!' ∧ c ≠ '?') :
    Piece.read ('<' :: inner ++ '>' :: rest) = .ok (.tag inner, rest) := by
  have hrun : ∀ c ∈ inner, Piece.isInner c = true := by
    intro c hc
    simpa [Piece.isInner] using hinner c hc
  have hstop : ∀ c, ('>' :: rest).head? = some c → Piece.isInner c = false := by
    rintro c ⟨⟩
    decide
  have hspecial : Special.at? ('<' :: (inner ++ '>' :: rest)) = none := by
    refine at?_eq_none fun c hc => ?_
    cases inner with
    | nil =>
      cases hc
      decide
    | cons d inner => exact hhead c hc
  rw [List.cons_append, Piece.read, hspecial]
  simp only [Piece.readTag, dropWhile_append_stop hrun hstop, takeWhile_append_stop hrun hstop]

/-- A mark whose last character stands nowhere else in it is found first behind a text in which it
does not stand. -/
theorem splitAt?_closing {init inner : List Char} {c : Char} (hc : c ∉ init)
    (h : ¬ (init ++ [c]) <:+: inner) (rest : List Char) :
    splitAt? (init ++ [c]) (inner ++ (init ++ [c]) ++ rest) = some (inner, rest) := by
  induction inner with
  | nil =>
    have hbegins : (init ++ [c]).isPrefixOf (init ++ [c] ++ rest) = true :=
      List.isPrefixOf_iff_prefix.2 (List.prefix_append _ _)
    have hdrop : (init ++ [c] ++ rest).drop (init ++ [c]).length = rest := List.drop_left
    rw [List.nil_append]
    cases hmark : init ++ [c] ++ rest with
    | nil => simp at hmark
    | cons d s =>
      rw [hmark] at hbegins hdrop
      rw [splitAt?, if_pos hbegins, hdrop]
  | cons d inner ih =>
    rw [List.infix_cons_iff, not_or] at h
    -- a mark that begins at `d` would lie inside, or have its last character twice
    have hhead : ¬ (init ++ [c]).isPrefixOf (d :: (inner ++ (init ++ [c]) ++ rest)) = true := by
      rw [List.isPrefixOf_iff_prefix, ← List.cons_append, ← List.cons_append, List.append_assoc]
      intro hbegins
      rcases List.prefix_or_prefix_of_prefix hbegins (List.prefix_append (d :: inner) _)
        with hinside | ⟨t, ht⟩
      · exact h.1 hinside
      · rw [← ht, List.prefix_append_right_inj, ht, List.append_assoc] at hbegins
        have hlength := congrArg List.length ht
        rw [List.length_append, List.length_append, List.length_cons, List.length_singleton]
          at hlength
        have hbefore : t <+: init :=
          List.prefix_of_prefix_length_le hbegins (List.prefix_append _ _) (by omega)
        cases hlast : t.getLast? with
        | none =>
          rw [List.getLast?_eq_none_iff.1 hlast, List.append_nil] at ht
          exact h.1 (ht ▸ List.prefix_rfl)
        | some e =>
          have hc' : e = c := by
            have hends := congrArg List.getLast? ht
            rw [List.getLast?_append, List.getLast?_append, hlast] at hends
            exact Option.some.inj hends
          exact hc (hbefore.subset (hc' ▸ List.mem_of_getLast? hlast))
    rw [List.cons_append, List.cons_append, splitAt?, if_neg hhead, ih h.2]
    rfl

theorem read_comment {inner : List Char} (h : ¬ ['-', '-', '>'] <:+: inner)
    (rest : List Char) :
    Piece.read ('<' :: '!' :: '-' :: '-' :: (inner ++ '-' :: '-' :: '>' :: rest)) =
      .ok (.special .comment inner, rest) := by
  have hat (s : List Char) : Special.at? ('<' :: '!' :: '-' :: '-' :: s) = some .comment := rfl
  rw [Piece.read, hat]
  show Piece.readSpecial .comment (inner ++ '-' :: '-' :: '>' :: rest) = _
  have hdashes : '>' ∉ ['-', '-'] := by decide
  have hsplit : splitAt? Special.comment.closer (inner ++ '-' :: '-' :: '>' :: rest) =
      some (inner, rest) := by
    rw [← splitAt?_closing hdashes h rest, List.append_assoc]
    rfl
  rw [Piece.readSpecial, hsplit]

/-! ### Names of elements -/

/-- A name that a tag can be written with: a word without brackets that neither begins like a
closing tag or a section nor ends like a single tag. -/
structure IsElementName (name : List Char) : Prop where
  isWord : IsWord name
  inner : ∀ c ∈ name, c ≠ '<' ∧ c ≠ '>'
  head : ∀ c, name.head? = some c → c ≠ '/' ∧ c ≠ '!' ∧ c ≠ '?'
  last : name.getLast? ≠ some '/'

theorem isElementName_iff (name : List Char) :
    IsElementName name ↔
      IsWord name ∧ name.all (fun c => c ≠ '<' && c ≠ '>') = true ∧
        name.head?.all (fun c => c ≠ '/' && (c ≠ '!' && c ≠ '?')) = true ∧
        name.getLast? ≠ some '/' := by
  have hinner : name.all (fun c => c ≠ '<' && c ≠ '>') = true ↔
      ∀ c ∈ name, c ≠ '<' ∧ c ≠ '>' := by simp
  have hhead : name.head?.all (fun c => c ≠ '/' && (c ≠ '!' && c ≠ '?')) = true ↔
      ∀ c, name.head? = some c → c ≠ '/' ∧ c ≠ '!' ∧ c ≠ '?' := by
    simp [Option.all_eq_true]
  rw [hinner, hhead]
  exact ⟨fun h => ⟨h.isWord, h.inner, h.head, h.last⟩, fun ⟨hw, hi, hh, hl⟩ => ⟨hw, hi, hh, hl⟩⟩

instance : DecidablePred IsElementName := fun name =>
  decidable_of_iff _ (isElementName_iff name).symm

theorem Tag.named?_word_append (kind : TagKind) {name rest : List Char} (h : IsWord name)
    (hrest : ∀ c, rest.head? = some c → isBlank c = true) :
    named? kind (name ++ rest) = some ⟨kind, String.ofList name⟩ := by
  rw [named?, head?_words_word_append h hrest]
  rfl

theorem Tag.named?_word (kind : TagKind) {name : List Char} (h : IsWord name) :
    named? kind name = some ⟨kind, String.ofList name⟩ := by
  simpa using @named?_word_append kind name [] h (by simp)

theorem Tag.ofInner?_slash {name : List Char} (h : IsElementName name) :
    ofInner? ('/' :: name) = some ⟨.closing, String.ofList name⟩ := by
  have hword : IsWord ('/' :: name) := by
    refine ⟨by simp, fun c hc => ?_⟩
    rcases List.mem_cons.1 hc with rfl | hc
    · decide
    · exact h.isWord.2 c hc
  rw [ofInner?, hword.trim_eq]
  exact named?_word .closing h.isWord

theorem Tag.ofInner?_of_head {s : List Char} (h : ∀ c, (trim s).head? = some c → c ≠ '/') :
    ofInner? s =
      if (trim s).getLast? = some '/' then named? .single (trim s).dropLast
      else named? .opening (trim s) := by
  rw [ofInner?]
  split
  · next heq => exact absurd rfl (h '/' (by rw [heq]; rfl))
  · rfl

theorem Tag.ofInner?_name {name : List Char} (h : IsElementName name) :
    ofInner? name = some ⟨.opening, String.ofList name⟩ := by
  have htrim := h.isWord.trim_eq
  rw [ofInner?_of_head fun c hc => (h.head c (htrim ▸ hc)).1, htrim, if_neg h.last]
  exact named?_word .opening h.isWord

/-- A tag may hold more behind its name, where it may also be a single one. -/
theorem Tag.ofInner?_name_append {name rest : List Char} (h : IsElementName name)
    (hrest : ∀ c, rest.head? = some c → isBlank c = true) :
    ∃ kind, kind ≠ .closing ∧ ofInner? (name ++ rest) = some ⟨kind, String.ofList name⟩ := by
  have htrim := h.isWord.trim_append rest
  have hhead (c : Char) (hc : (trim (name ++ rest)).head? = some c) : c ≠ '/' := by
    obtain ⟨d, name, rfl⟩ := List.exists_cons_of_ne_nil h.isWord.1
    rw [htrim] at hc
    exact (h.head c hc).1
  have hblank {s : List Char} (hs : s <+: trimEnd rest) :
      ∀ c, s.head? = some c → isBlank c = true := by
    intro c hc
    obtain ⟨t, ht⟩ := hs
    obtain ⟨u, hu⟩ := exists_trimEnd_append rest
    have hhead : (s ++ t ++ u).head? = some c := by simp [hc]
    rw [ht, hu] at hhead
    exact hrest c hhead
  rw [ofInner?_of_head hhead, htrim]
  split
  · next hslash =>
    have hne : trimEnd rest ≠ [] := by
      intro hnil
      rw [hnil, List.append_nil] at hslash
      exact h.last hslash
    refine ⟨.single, by decide, ?_⟩
    rw [List.dropLast_append_of_ne_nil hne]
    exact named?_word_append .single h.isWord (hblank (List.dropLast_prefix _))
  · exact ⟨.opening, by decide, named?_word_append .opening h.isWord (hblank List.prefix_rfl)⟩

end NameTagger.Markup
