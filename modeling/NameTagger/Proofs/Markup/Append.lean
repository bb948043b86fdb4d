import NameTagger.Proofs.Markup.Scan

/-!
# Markup in front of more text

A tag or a section that is complete is read in the same way whatever follows it, and so is a run of
text that a bracket ends.  Text in front of a markup text moves its events and changes nothing else.

* `splitAt?_replace`, `splitAt?_append`, `Special.at?_append`: marks are found where they were found
  before;
* `read_append`: a complete piece in front of more text;
* `Event.later`, `Halt.later`, `Scan.later`: the same further on in a text;
* `scanFrom_add`: the scan of a text that begins further on.
-/

namespace NameTagger.Markup

/-! ### Pieces -/

/-- A mark that was found is found again if something else follows it. -/
theorem splitAt?_replace {mark s before behind : List Char}
    (h : splitAt? mark s = some (before, behind)) (rest : List Char) :
    splitAt? mark (before ++ mark ++ rest) = some (before, rest) := by
  induction s generalizing before with
  | nil =>
    have hs := eq_of_splitAt? h
    simp only [List.nil_eq, List.append_eq_nil_iff] at hs
    obtain ⟨⟨rfl, rfl⟩, rfl⟩ := hs
    cases rest <;> simp [splitAt?]
  | cons c s ih =>
    have hs := eq_of_splitAt? h
    rw [splitAt?] at h
    split at h
    · cases h
      cases hmark : mark ++ rest with
      | nil =>
        obtain ⟨rfl, rfl⟩ := List.append_eq_nil_iff.1 hmark
        rfl
      | cons d t =>
        have hbegins : mark.isPrefixOf (d :: t) = true :=
          List.isPrefixOf_iff_prefix.2 (hmark ▸ List.prefix_append mark rest)
        rw [List.nil_append, hmark, splitAt?, if_pos hbegins, ← hmark, List.drop_left]
    · next hhead =>
      obtain ⟨⟨before', behind'⟩, hsplit, heq⟩ := Option.map_eq_some_iff.1 h
      cases heq
      -- the mark does not stand at `c`, as it did not with what followed before
      have hhead' : ¬mark.isPrefixOf (c :: (before' ++ mark ++ rest)) = true := by
        intro hbegins
        rw [List.isPrefixOf_iff_prefix] at hbegins hhead
        have hfits : mark <+: c :: before' ++ mark := by
          refine List.prefix_of_prefix_length_le hbegins ⟨rest, by simp⟩ ?_
          rw [List.length_append]
          omega
        exact hhead (hs ▸ hfits.trans (List.prefix_append _ behind))
      rw [List.cons_append, List.cons_append, splitAt?, if_neg hhead', ih hsplit]
      rfl

/-- A mark that was found is the first one also if more text follows. -/
theorem splitAt?_append {mark s before behind : List Char}
    (h : splitAt? mark s = some (before, behind)) (rest : List Char) :
    splitAt? mark (s ++ rest) = some (before, behind ++ rest) := by
  rw [eq_of_splitAt? h, List.append_assoc]
  exact splitAt?_replace h (behind ++ rest)

/-- Whether a section begins at a bracket does not depend on what follows a closing bracket. -/
theorem Special.at?_append {s : List Char} (h : '>' ∈ s) (rest : List Char) :
    Special.at? ('<' :: s ++ rest) = Special.at? ('<' :: s) := by
  match s with
  | [] => cases h
  | [c] =>
    obtain rfl := List.mem_singleton.1 h
    rfl
  | [c, d] =>
    rcases List.mem_cons.1 h with rfl | h
    · rfl
    · obtain rfl := List.mem_singleton.1 h
      simp [Special.at?, Special.all, Special.opener, List.isPrefixOf, List.find?]
  | c :: d :: e :: s =>
    simp [Special.at?, Special.all, Special.opener, List.isPrefixOf, List.find?]

theorem mem_closer (kind : Special) : '>' ∈ kind.closer := by
  cases kind <;> decide

/-- A section takes up a closing bracket behind its opening mark. -/
theorem readSpecial_append {kind : Special} {s behind : List Char} {piece : Piece}
    (h : Piece.readSpecial kind s = .ok (piece, behind)) (rest : List Char) :
    '>' ∈ s ∧ Piece.readSpecial kind (s ++ rest) = .ok (piece, behind ++ rest) := by
  rw [Piece.readSpecial] at h ⊢
  split at h
  · next inner r hsplit =>
    simp only [Except.ok.injEq, Prod.mk.injEq] at h
    obtain ⟨rfl, rfl⟩ := h
    refine ⟨?_, by rw [splitAt?_append hsplit]⟩
    rw [eq_of_splitAt? hsplit]
    simp [mem_closer]
  · cases h

theorem readTag_append {s behind : List Char} {piece : Piece}
    (h : Piece.readTag s = .ok (piece, behind)) (rest : List Char) :
    '>' ∈ s ∧ Piece.readTag (s ++ rest) = .ok (piece, behind ++ rest) := by
  rw [Piece.readTag] at h
  split at h
  · next r hdrop =>
    simp only [Except.ok.injEq, Prod.mk.injEq] at h
    obtain ⟨rfl, rfl⟩ := h
    have hs : s = s.takeWhile Piece.isInner ++ '>' :: r := by
      rw [← hdrop, List.takeWhile_append_dropWhile]
    have hrun : ∀ c ∈ s.takeWhile Piece.isInner, Piece.isInner c = true :=
      List.all_eq_true.1 List.all_takeWhile
    have hstop : ∀ c, ('>' :: (r ++ rest)).head? = some c → Piece.isInner c = false := by
      rintro c ⟨⟩
      decide
    generalize s.takeWhile Piece.isInner = run at hs hrun
    subst hs
    refine ⟨by simp, ?_⟩
    rw [List.append_assoc, List.cons_append, Piece.readTag, Text.dropWhile_append_stop hrun hstop,
      Text.takeWhile_append_stop hrun hstop]
    rfl
  · cases h

theorem read_special {s : List Char} {kind : Special} (h : Special.at? ('<' :: s) = some kind) :
    Piece.read ('<' :: s) = Piece.readSpecial kind (('<' :: s).drop kind.opener.length) := by
  rw [Piece.read, h]

theorem read_no_special {s : List Char} (h : Special.at? ('<' :: s) = none) :
    Piece.read ('<' :: s) = Piece.readTag s := by
  rw [Piece.read, h]

/-- A piece that is no text is read in the same way in front of more text. -/
theorem read_bracket_append {s behind : List Char} {piece : Piece}
    (h : Piece.read ('<' :: s) = .ok (piece, behind)) (rest : List Char) :
    Piece.read ('<' :: s ++ rest) = .ok (piece, behind ++ rest) := by
  cases hkind : Special.at? ('<' :: s) with
  | some kind =>
    rw [read_special hkind] at h
    obtain ⟨hmem, hspecial⟩ := readSpecial_append h rest
    have hclosed : '>' ∈ s := by simpa using List.mem_of_mem_drop hmem
    have hlen : kind.opener.length ≤ ('<' :: s).length := by
      rw [opener_of_at? hkind, List.length_append]
      omega
    have hkind' : Special.at? ('<' :: (s ++ rest)) = some kind := by
      rw [← List.cons_append, Special.at?_append hclosed, hkind]
    rw [List.cons_append, read_special hkind', ← List.cons_append,
      List.drop_append_of_le_length hlen]
    exact hspecial
  | none =>
    rw [read_no_special hkind] at h
    obtain ⟨hclosed, htag⟩ := readTag_append h rest
    have hkind' : Special.at? ('<' :: (s ++ rest)) = none := by
      rw [← List.cons_append, Special.at?_append hclosed, hkind]
    rw [List.cons_append, read_no_special hkind']
    exact htag

/-- The first piece of a text is a run of text if there is no bracket at its head. -/
theorem eq_text_of_read {s behind : List Char} {piece : Piece} (hhead : s.head? ≠ some '<')
    (h : Piece.read s = .ok (piece, behind)) :
    ∃ chars, piece = .text chars ∧ s = chars ++ behind ∧ '<' ∉ chars ∧
      ∀ c, behind.head? = some c → c = '<' := by
  have hread : Piece.read s = .ok (.text (s.takeWhile Piece.isText), s.dropWhile Piece.isText) := by
    cases s with
    | nil => rfl
    | cons c s => exact Piece.read.eq_2 _ fun t ht => hhead (by rw [ht]; rfl)
  rw [hread] at h
  cases h
  exact ⟨_, rfl, List.takeWhile_append_dropWhile.symm, bracket_not_mem_takeWhile s,
    fun _ => eq_bracket_of_dropWhile⟩

/-- A piece is read in the same way in front of more text, unless it is a run of text with nothing
behind it, which may go on. -/
theorem read_append {s behind : List Char} {piece : Piece}
    (h : Piece.read s = .ok (piece, behind)) (hend : ¬ (s.head? ≠ some '<' ∧ behind = []))
    (rest : List Char) : Piece.read (s ++ rest) = .ok (piece, behind ++ rest) := by
  by_cases hhead : s.head? = some '<'
  · obtain ⟨t, rfl⟩ := List.head?_eq_some_iff.1 hhead
    exact read_bracket_append h rest
  · obtain ⟨d, behind, rfl⟩ := List.exists_cons_of_ne_nil fun hnil => hend ⟨hhead, hnil⟩
    obtain ⟨chars, rfl, rfl, hchars, hbracket⟩ := eq_text_of_read hhead h
    obtain rfl := hbracket d rfl
    have hne : chars ≠ [] := by
      rintro rfl
      exact hhead rfl
    rw [List.append_assoc]
    exact read_text hne hchars fun c hc => (Option.some.inj hc).symm

/-! ### Scans -/

/-- An event that is met `k` characters further on. -/
def Event.later (k : Nat) (event : Event) : Event := { event with offset := k + event.offset }

/-- A halt `k` characters further on. -/
def Halt.later (k : Nat) (halt : Halt) : Halt := { halt with offset := k + halt.offset }

/-- A scan all of whose offsets lie `k` characters further on. -/
def Scan.later (k : Nat) (scan : Scan) : Scan :=
  ⟨scan.events.map (Event.later k), scan.halt?.map (Halt.later k)⟩

theorem Scan.push_later (k offset : Nat) (item? : Option Item) (scan : Scan) :
    (scan.later k).push (k + offset) item? = (scan.push offset item?).later k := by
  cases item? <;> rfl

theorem scanFrom_of_problem {s : List Char} {problem : Problem} (hs : s ≠ [])
    (h : Piece.read s = .error problem) (offset : Nat) :
    scanFrom offset s = .failed offset problem := by
  rw [scanFrom, dif_neg hs]
  split
  · next heq =>
    rw [h] at heq
    cases heq
    rfl
  · next heq =>
    rw [h] at heq
    cases heq

/-- The scan of a text does not depend on where it begins, but for its offsets. -/
theorem scanFrom_add (k offset : Nat) (s : List Char) :
    scanFrom (k + offset) s = (scanFrom offset s).later k := by
  induction offset, s using scanFrom.induct with
  | case1 offset =>
    rw [scanFrom_nil, scanFrom_nil]
    rfl
  | case2 offset s hs problem hread =>
    rw [scanFrom_of_problem hs hread, scanFrom_of_problem hs hread]
    rfl
  | case3 offset s hs piece rest hread problem hitem =>
    rw [scanFrom_of_read hs hread, scanFrom_of_read hs hread, hitem]
    rfl
  | case4 offset s hs piece rest hread item? hitem hlt ih =>
    rw [scanFrom_of_read hs hread, scanFrom_of_read hs hread, hitem, ← Scan.push_later, ← ih,
      Nat.add_assoc]

end NameTagger.Markup
