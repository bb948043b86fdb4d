import NameTagger.Proofs.Markup.Append

/-!
# Markup up to an event

A markup text can be cut in front of each of its events, and in front of the problem that ends its
scan.  What stands before the cut gives the earlier events alone, whatever stands behind it.

* `read_source`, `read_source_append`: a piece is read again from its own characters;
* `Scan.behind`, `scanFrom_append`: events, and what follows them;
* `scanFrom_cut`: a text with a piece at its head is cut further on;
* `exists_cut`: the text before an event, and from there on;
* `HasProblem`, `exists_cut_of_halt`: the text before a problem, and from there on.
-/

namespace NameTagger.Markup

open Text

/-! ### Pieces -/

/-- A piece that is no text is read from its own characters. -/
theorem read_source {s behind : List Char} {piece : Piece}
    (h : Piece.read ('<' :: s) = .ok (piece, behind)) :
    ∃ t, piece.source = '<' :: t ∧ Piece.read ('<' :: t) = .ok (piece, []) := by
  have hsource := source_append_of_read h
  cases hkind : Special.at? ('<' :: s) with
  | some kind =>
    rw [read_special hkind, Piece.readSpecial] at h
    split at h
    · next inner rest hsplit =>
      cases h
      obtain ⟨t, hopener⟩ : ∃ t, kind.opener = '<' :: t := by
        cases kind
        · exact ⟨['!', '-', '-'], rfl⟩
        · exact ⟨['?'], rfl⟩
        · exact ⟨['!'], rfl⟩
      have hcut : (Piece.special kind inner).source = '<' :: (t ++ inner ++ kind.closer) := by
        rw [Piece.source, hopener]
        rfl
      refine ⟨_, hcut, ?_⟩
      rw [hcut, List.cons_append, List.cons.injEq] at hsource
      have hclosed : '>' ∈ t ++ inner ++ kind.closer :=
        List.mem_append_right _ (mem_closer kind)
      rw [← hsource.2, ← List.cons_append, Special.at?_append hclosed] at hkind
      have hdrop : ('<' :: (t ++ inner ++ kind.closer)).drop kind.opener.length =
          inner ++ kind.closer := by
        rw [← hcut, Piece.source, List.append_assoc, List.drop_left]
      have hagain := splitAt?_replace hsplit []
      rw [List.append_nil] at hagain
      rw [read_special hkind, hdrop, Piece.readSpecial, hagain]
    · cases h
  | none =>
    rw [read_no_special hkind, Piece.readTag] at h
    split at h
    · next rest hdrop =>
      cases h
      refine ⟨_, rfl, ?_⟩
      rw [Piece.source, List.cons_append, List.cons_append, List.append_assoc,
        List.cons.injEq] at hsource
      have hclosed : '>' ∈ s.takeWhile Piece.isInner ++ ['>'] :=
        List.mem_append_right _ (List.mem_singleton_self _)
      have hat : Special.at? ('<' :: (s.takeWhile Piece.isInner ++ ['>'])) = none := by
        rw [← Special.at?_append hclosed behind, List.cons_append, List.append_assoc, hsource.2,
          hkind]
      have hrun : ∀ c ∈ s.takeWhile Piece.isInner, Piece.isInner c = true :=
        List.all_eq_true.1 List.all_takeWhile
      have hstop : ∀ c, ['>'].head? = some c → Piece.isInner c = false := by
        rintro c ⟨⟩
        decide
      rw [List.append_eq, read_no_special hat, Piece.readTag, dropWhile_append_stop hrun hstop,
        takeWhile_append_stop hrun hstop]
      rfl
    · cases h

/-- A piece is read again if a part of what followed it is left, which begins as that did. -/
theorem read_source_append {s before rest : List Char} {piece : Piece} (hs : s ≠ [])
    (h : Piece.read s = .ok (piece, before ++ rest)) :
    Piece.read (piece.source ++ before) = .ok (piece, before) := by
  by_cases hhead : s.head? = some '<'
  · obtain ⟨t, rfl⟩ := List.head?_eq_some_iff.1 hhead
    obtain ⟨u, hu, hread⟩ := read_source h
    rw [hu]
    exact read_bracket_append hread before
  · obtain ⟨chars, rfl, rfl, hchars, hbracket⟩ := eq_text_of_read hhead h
    have hne : chars ≠ [] := by
      rintro rfl
      cases before with
      | nil =>
        cases rest with
        | nil => exact hs rfl
        | cons c rest => exact hhead (by rw [hbracket c rfl]; rfl)
      | cons c before => exact hhead (by rw [hbracket c rfl]; rfl)
    refine read_text hne hchars fun c hc => hbracket c ?_
    rw [List.head?_append, hc]
    rfl

/-! ### Scans -/

/-- A scan with the events that were met before it. -/
def Scan.behind (events : List Event) (scan : Scan) : Scan :=
  { scan with events := events ++ scan.events }

theorem Scan.push_behind (offset : Nat) (item? : Option Item) (events : List Event)
    (scan : Scan) : (scan.behind events).push offset item? =
      scan.behind (Scan.push offset item? ⟨events, none⟩).events := by
  cases item? <;> rfl

theorem Scan.halt?_push (offset : Nat) (item? : Option Item) (scan : Scan) :
    (Scan.push offset item? scan).halt? = scan.halt? := by
  cases item? <;> rfl

/-- What stands in front of a bracket is scanned first, if there is no problem in it. -/
theorem scanFrom_append {offset : Nat} {s rest : List Char} {events : List Event}
    (h : scanFrom offset s = ⟨events, none⟩) (hrest : ∀ c, rest.head? = some c → c = '<') :
    scanFrom offset (s ++ rest) = (scanFrom (offset + s.length) rest).behind events := by
  induction offset, s using scanFrom.induct generalizing events with
  | case1 offset =>
    rw [scanFrom_nil] at h
    cases h
    rfl
  | case2 offset s hs problem hread =>
    rw [scanFrom_of_problem hs hread] at h
    cases h
  | case3 offset s hs piece behind hread problem hitem =>
    rw [scanFrom_of_read hs hread, hitem] at h
    cases h
  | case4 offset s hs piece behind hread item? hitem hlt ih =>
    have hlength : s.length = piece.source.length + behind.length := by
      rw [← source_append_of_read hread, List.length_append]
    -- a run of text at the end goes on to the bracket, which is not part of it
    have hread' : Piece.read (s ++ rest) = .ok (piece, behind ++ rest) := by
      by_cases hlast : s.head? ≠ some '<' ∧ behind = []
      · obtain ⟨hhead, rfl⟩ := hlast
        obtain ⟨chars, rfl, hchars, hbracket, -⟩ := eq_text_of_read hhead hread
        obtain rfl : s = chars := hchars.trans (List.append_nil chars)
        exact read_text hs hbracket hrest
      · exact read_append hread hlast rest
    rw [scanFrom_of_read hs hread, hitem] at h
    rw [scanFrom_of_read (by simp [hs]) hread', hitem]
    cases hbehind : scanFrom (offset + piece.source.length) behind with
    | mk later halt? =>
      rw [hbehind] at h
      obtain rfl : halt? = none := by
        exact (Scan.halt?_push offset item? ⟨later, halt?⟩).symm.trans (congrArg Scan.halt? h)
      show Scan.push offset item? _ = _
      rw [ih hbehind, hlength, ← Nat.add_assoc, Scan.push_behind]
      exact congrArg (Scan.behind · _) (congrArg Scan.events h)

/-- A text with a piece at its head is cut behind the piece. -/
theorem scanFrom_cut {s before rest : List Char} {piece : Piece} {item? : Option Item}
    (hs : s ≠ []) (hread : Piece.read s = .ok (piece, before ++ rest))
    (hitem : piece.item? = .ok item?) (offset : Nat) :
    scanFrom offset (piece.source ++ before) =
      (scanFrom (offset + piece.source.length) before).push offset item? := by
  have hread' := read_source_append hs hread
  have hne : piece.source ++ before ≠ [] := by
    intro hnil
    rw [hnil] at hread'
    have hsource := source_append_of_read hread
    rw [(List.append_eq_nil_iff.1 hnil).1, List.nil_append] at hsource
    exact absurd (length_lt_of_read hs hread) (by rw [hsource]; exact Nat.lt_irrefl _)
  rw [scanFrom_of_read hne hread', hitem]

/-! ### Cuts -/

/-- A text can be cut in front of each event. -/
theorem exists_cut {offset : Nat} {s : List Char} {earlier later : List Event} {event : Event}
    (h : (scanFrom offset s).events = earlier ++ event :: later) :
    ∃ before rest piece behind, s = before ++ rest ∧ event.offset = offset + before.length ∧
      scanFrom offset before = ⟨earlier, none⟩ ∧ rest ≠ [] ∧
      Piece.read rest = .ok (piece, behind) ∧ piece.item? = .ok (some event.item) ∧
      scanFrom (event.offset + piece.source.length) behind =
        ⟨later, (scanFrom offset s).halt?⟩ := by
  induction offset, s using scanFrom.induct generalizing earlier with
  | case1 offset =>
    rw [scanFrom_nil] at h
    simp [Scan.done] at h
  | case2 offset s hs problem hread =>
    rw [scanFrom_of_problem hs hread] at h
    simp [Scan.failed] at h
  | case3 offset s hs piece behind hread problem hitem =>
    rw [scanFrom_of_read hs hread, hitem] at h
    simp [Scan.failed] at h
  | case4 offset s hs piece behind hread item? hitem hlt ih =>
    have hscan : scanFrom offset s =
        (scanFrom (offset + piece.source.length) behind).push offset item? := by
      rw [scanFrom_of_read hs hread, hitem]
    have hsource := source_append_of_read hread
    rw [hscan] at h ⊢
    rw [Scan.halt?_push]
    -- the cut is behind the piece, unless the event is that of the piece
    have further {earlier' : List Event}
        (hevents : (scanFrom (offset + piece.source.length) behind).events =
          earlier' ++ event :: later)
        (hearlier : (Scan.push offset item? ⟨earlier', none⟩) = ⟨earlier, none⟩) :
        ∃ before rest next behind', s = before ++ rest ∧ event.offset = offset + before.length ∧
          scanFrom offset before = ⟨earlier, none⟩ ∧ rest ≠ [] ∧
          Piece.read rest = .ok (next, behind') ∧ next.item? = .ok (some event.item) ∧
          scanFrom (event.offset + next.source.length) behind' =
            ⟨later, (scanFrom (offset + piece.source.length) behind).halt?⟩ := by
      obtain ⟨before, rest, next, behind', rfl, hoffset, hbefore, hrest⟩ := ih hevents
      refine ⟨piece.source ++ before, rest, next, behind', ?_, ?_, ?_, hrest⟩
      · rw [List.append_assoc, hsource]
      · rw [hoffset, List.length_append, Nat.add_assoc]
      · rw [scanFrom_cut hs hread hitem, hbefore, hearlier]
    cases item? with
    | none => exact further h rfl
    | some item =>
      cases earlier with
      | nil =>
        obtain ⟨rfl, rfl⟩ := List.cons.inj h
        exact ⟨[], s, piece, behind, rfl, rfl, scanFrom_nil offset, hs, hread, hitem, rfl⟩
      | cons first earlier =>
        obtain ⟨rfl, hevents⟩ := List.cons.inj h
        exact further hevents rfl

/-- A text begins with a problem. -/
def HasProblem (s : List Char) (problem : Problem) : Prop :=
  s ≠ [] ∧ (Piece.read s = .error problem ∨
    ∃ piece behind, Piece.read s = .ok (piece, behind) ∧ piece.item? = .error problem)

/-- A text can be cut in front of the problem that ends its scan. -/
theorem exists_cut_of_halt {offset : Nat} {s : List Char} {halt : Halt}
    (h : (scanFrom offset s).halt? = some halt) :
    ∃ before rest, s = before ++ rest ∧ halt.offset = offset + before.length ∧
      scanFrom offset before = ⟨(scanFrom offset s).events, none⟩ ∧
      HasProblem rest halt.problem := by
  induction offset, s using scanFrom.induct with
  | case1 offset =>
    rw [scanFrom_nil] at h
    cases h
  | case2 offset s hs problem hread =>
    rw [scanFrom_of_problem hs hread] at h ⊢
    cases h
    exact ⟨[], s, rfl, rfl, scanFrom_nil offset, hs, .inl hread⟩
  | case3 offset s hs piece behind hread problem hitem =>
    rw [scanFrom_of_read hs hread, hitem] at h ⊢
    cases h
    exact ⟨[], s, rfl, rfl, scanFrom_nil offset, hs, .inr ⟨piece, behind, hread, hitem⟩⟩
  | case4 offset s hs piece behind hread item? hitem hlt ih =>
    have hscan : scanFrom offset s =
        (scanFrom (offset + piece.source.length) behind).push offset item? := by
      rw [scanFrom_of_read hs hread, hitem]
    rw [hscan] at h ⊢
    rw [Scan.halt?_push] at h
    obtain ⟨before, rest, rfl, hoffset, hbefore, hproblem⟩ := ih h
    refine ⟨piece.source ++ before, rest, ?_, ?_, ?_, hproblem⟩
    · rw [List.append_assoc, source_append_of_read hread]
    · rw [hoffset, List.length_append, Nat.add_assoc]
    · rw [scanFrom_cut hs hread hitem, hbefore]
      cases item? <;> rfl

end NameTagger.Markup
