import NameTagger.Proofs.Markup.TagName

/-!
# Markup as a row of tiles

A markup text is cut into runs of text, tags and sections that are passed over, each of which
begins where the one before it ends, up to the end of the text or to a problem.  What is a tile and
what is a problem can be told without scanning.

* `IsNameless`, `Tag.ofInner?_eq_none_iff`: what stands between the brackets of a tag without a
  name;
* `Special.Begins`, `splitAt?_closer_eq_some_iff`, `splitAt?_eq_none_iff`: where sections begin and
  end;
* `IsTile`, `Blocks`: a piece in front of the rest of a text, and a problem at the head of a text;
* `IsTile.read`, `Blocks.hasProblem`, `isTile_or_blocks`: one step of a scan;
* `sources`, `eventsFrom`, `Tiles`, `scanFrom_tiles`, `exists_tiles`: a row of tiles;
* `scan_tiles`: the scan of a text, and where it ends.
-/

namespace NameTagger.Markup

open Text

/-! ### Tags without a name -/

/-- There is nothing but white space between two brackets, apart from one slash. -/
def IsNameless (inner : List Char) : Prop :=
  inner.filter isSolid = [] ∨ inner.filter isSolid = ['/']

theorem words_eq_nil_iff {s : List Char} : words s = [] ↔ s.filter isSolid = [] := by
  rw [words, List.map_eq_nil_iff, chunks]
  generalize 0 = offset
  fun_induction chunksFrom offset s with
  | case1 offset => simp
  | case2 offset c s hc ih => simpa [isSolid, hc] using ih
  | case3 offset c s hc ih => simp [isSolid, hc]

theorem Tag.named?_eq_none_iff {kind : TagKind} {s : List Char} :
    named? kind s = none ↔ s.filter isSolid = [] := by
  rw [named?, Option.map_eq_none_iff, List.head?_eq_none_iff, words_eq_nil_iff]

theorem filter_solid_dropWhile (s : List Char) :
    (s.dropWhile isBlank).filter isSolid = s.filter isSolid := by
  induction s with
  | nil => rfl
  | cons c s ih =>
    by_cases hc : isBlank c = true
    · simpa [hc, isSolid] using ih
    · simp [hc]

/-- Trimming takes away nothing but white space. -/
theorem filter_solid_trim (s : List Char) : (trim s).filter isSolid = s.filter isSolid := by
  rw [trim, trimEnd, List.filter_reverse, filter_solid_dropWhile, List.filter_reverse,
    List.reverse_reverse, filter_solid_dropWhile]

/-- A text that was trimmed does not end with white space. -/
theorem isSolid_of_getLast?_trim {s : List Char} {c : Char} (h : (trim s).getLast? = some c) :
    isSolid c = true := by
  rw [trim, trimEnd, List.getLast?_reverse] at h
  have hstop := List.head?_dropWhile_not isBlank (s.dropWhile isBlank).reverse
  rw [h] at hstop
  simpa [isSolid] using hstop

theorem Tag.ofInner?_eq_none_iff {inner : List Char} :
    ofInner? inner = none ↔ IsNameless inner := by
  have hslash : isSolid '/' = true := by decide
  rw [IsNameless, ← filter_solid_trim inner, ofInner?]
  split
  next rest htrim =>
    rw [named?_eq_none_iff, htrim, List.filter_cons_of_pos hslash]
    simp
  next =>
    split
    next hlast =>
      obtain ⟨init, hinit⟩ := List.getLast?_eq_some_iff.1 hlast
      rw [named?_eq_none_iff, hinit, List.dropLast_concat, List.filter_append,
        List.filter_cons_of_pos hslash]
      simp
    next hlast =>
      rw [named?_eq_none_iff]
      refine (or_iff_left fun hfilter => hlast ?_).symm
      -- the only character that is not white space would be the last one
      cases hc : (trim inner).getLast? with
      | none =>
        rw [List.getLast?_eq_none_iff.1 hc] at hfilter
        cases hfilter
      | some c =>
        have hmem : c ∈ (trim inner).filter isSolid :=
          List.mem_filter.2 ⟨List.mem_of_getLast? hc, isSolid_of_getLast?_trim hc⟩
        rw [hfilter, List.mem_singleton] at hmem
        rw [hmem]

/-! ### Where sections begin and end -/

/-- A section of a kind begins at the head of a text.  The mark of a comment begins like that of a
declaration, which is none then. -/
def Special.Begins (kind : Special) (s : List Char) : Prop :=
  kind.opener <+: s ∧ (kind = .declaration → ¬ comment.opener <+: s)

theorem Special.at?_eq_some_iff {kind : Special} {s : List Char} :
    at? s = some kind ↔ kind.Begins s := by
  -- of two marks at the head of a text, one begins the other
  have hquery (other : Special) (hother : other.opener <+: s) (h : instruction.opener <+: s) :
      other = .instruction := by
    have hboth := List.prefix_or_prefix_of_prefix hother h
    revert hboth
    cases other <;> decide
  have hfind : at? s = some kind ↔ kind.opener <+: s ∧
      (kind = .instruction → ¬ comment.opener <+: s) ∧
      (kind = .declaration → ¬ comment.opener <+: s ∧ ¬ instruction.opener <+: s) := by
    simp only [at?, all, List.find?, ← List.isPrefixOf_iff_prefix]
    cases kind <;> cases comment.opener.isPrefixOf s <;> cases instruction.opener.isPrefixOf s <;>
      cases declaration.opener.isPrefixOf s <;> simp
  rw [hfind, Begins]
  refine and_congr_right fun hkind => ⟨fun h hdeclaration => (h.2 hdeclaration).1, fun h => ?_⟩
  refine ⟨fun hinstruction hcomment => ?_, fun hdeclaration => ⟨h hdeclaration, fun hother => ?_⟩⟩
  · cases hquery .comment hcomment (hinstruction ▸ hkind)
  · cases hdeclaration.symm.trans (hquery kind hkind hother)

theorem Special.at?_eq_none_iff {s : List Char} : at? s = none ↔ ∀ kind, ¬ Begins kind s := by
  simp only [← at?_eq_some_iff, Option.eq_none_iff_forall_ne_some]

theorem splitAt?_eq_none_iff {mark s : List Char} : splitAt? mark s = none ↔ ¬ mark <:+: s := by
  induction s with
  | nil => cases mark <;> simp [splitAt?]
  | cons c s ih =>
    rw [splitAt?, List.infix_cons_iff, ← List.isPrefixOf_iff_prefix]
    split
    next h => simp [h]
    next h => simpa [h] using ih

theorem not_isInfix_of_splitAt? {mark s before behind : List Char} (hmark : mark ≠ [])
    (h : splitAt? mark s = some (before, behind)) : ¬ mark <:+: before := by
  induction s generalizing before with
  | nil =>
    cases mark with
    | nil => exact absurd rfl hmark
    | cons c mark => cases h
  | cons c s ih =>
    have hs := eq_of_splitAt? h
    rw [splitAt?] at h
    split at h
    · cases h
      exact fun hmem => hmark (List.infix_nil.1 hmem)
    next hhead =>
      obtain ⟨⟨before', behind'⟩, hsplit, heq⟩ := Option.map_eq_some_iff.1 h
      cases heq
      rw [List.infix_cons_iff, not_or]
      refine ⟨fun hbegins => hhead ?_, ih hsplit⟩
      rw [List.isPrefixOf_iff_prefix, hs, List.append_assoc]
      exact hbegins.trans (List.prefix_append _ _)

theorem exists_closer (kind : Special) :
    ∃ init, kind.closer = init ++ ['>'] ∧ '>' ∉ init := by
  cases kind
  · exact ⟨['-', '-'], rfl, by decide⟩
  · exact ⟨['?'], rfl, by decide⟩
  · exact ⟨[], rfl, List.not_mem_nil⟩

/-- A section reaches up to the first closing mark behind its opening mark. -/
theorem splitAt?_closer_eq_some_iff {kind : Special} {s inner rest : List Char} :
    splitAt? kind.closer s = some (inner, rest) ↔
      s = inner ++ kind.closer ++ rest ∧ ¬ kind.closer <:+: inner := by
  obtain ⟨init, hcloser, hinit⟩ := exists_closer kind
  constructor
  · intro h
    refine ⟨eq_of_splitAt? h, not_isInfix_of_splitAt? ?_ h⟩
    rw [hcloser]
    exact List.append_ne_nil_of_right_ne_nil _ (List.cons_ne_nil _ _)
  · rintro ⟨rfl, h⟩
    rw [hcloser] at h ⊢
    exact splitAt?_closing hinit h rest

/-! ### Tiles and problems -/

/-- A piece in front of the rest of a text: a run of text up to a bracket, a tag with a name, or a
section up to its first closing mark. -/
inductive IsTile : Piece → List Char → Prop
  | text {chars rest : List Char} (hne : chars ≠ []) (hchars : '<' ∉ chars)
      (hrest : ∀ c, rest.head? = some c → c = '<') : IsTile (.text chars) rest
  | tag {inner rest : List Char}
      (hplain : ∀ kind, ¬ Special.Begins kind ('<' :: inner ++ '>' :: rest))
      (hinner : ∀ c ∈ inner, c ≠ '<' ∧ c ≠ '>') (hname : ¬ IsNameless inner) :
      IsTile (.tag inner) rest
  | special {kind : Special} {inner rest : List Char}
      (hbegins : kind.Begins (kind.opener ++ inner ++ kind.closer ++ rest))
      (hinner : ¬ kind.closer <:+: inner) : IsTile (.special kind inner) rest

/-- A problem at the head of a text: a section without a closing mark, a bracket without a closing
one in front of the next, or a tag without a name. -/
inductive Blocks : List Char → Problem → Prop
  | openSpecial {kind : Special} {s : List Char} (hbegins : kind.Begins (kind.opener ++ s))
      (hopen : ¬ kind.closer <:+: s) : Blocks (kind.opener ++ s) (.openSpecial kind)
  | openTag {s : List Char} (hplain : ∀ kind, ¬ Special.Begins kind ('<' :: s))
      (hopen : ∀ inner rest, s = inner ++ '>' :: rest → '<' ∈ inner) : Blocks ('<' :: s) .openTag
  | namelessTag {inner rest : List Char}
      (hplain : ∀ kind, ¬ Special.Begins kind ('<' :: inner ++ '>' :: rest))
      (hinner : ∀ c ∈ inner, c ≠ '<' ∧ c ≠ '>') (hname : IsNameless inner) :
      Blocks ('<' :: inner ++ '>' :: rest) .namelessTag

theorem readSpecial_eq_ok_iff {kind : Special} {s rest : List Char} {piece : Piece} :
    Piece.readSpecial kind s = .ok (piece, rest) ↔
      ∃ inner, piece = .special kind inner ∧ s = inner ++ kind.closer ++ rest ∧
        ¬ kind.closer <:+: inner := by
  simp only [← splitAt?_closer_eq_some_iff]
  rw [Piece.readSpecial]
  cases splitAt? kind.closer s with
  | none => simp
  | some split =>
    obtain ⟨before, behind⟩ := split
    simp only [Except.ok.injEq, Prod.mk.injEq, Option.some.injEq]
    constructor
    · rintro ⟨rfl, rfl⟩
      exact ⟨before, rfl, rfl, rfl⟩
    · rintro ⟨inner, rfl, rfl, rfl⟩
      exact ⟨rfl, rfl⟩

theorem readSpecial_eq_error_iff {kind : Special} {s : List Char} {problem : Problem} :
    Piece.readSpecial kind s = .error problem ↔
      problem = .openSpecial kind ∧ ¬ kind.closer <:+: s := by
  rw [← splitAt?_eq_none_iff, Piece.readSpecial]
  cases splitAt? kind.closer s with
  | none => simp [eq_comm]
  | some split => simp

theorem readTag_eq_ok_iff {s rest : List Char} {piece : Piece} :
    Piece.readTag s = .ok (piece, rest) ↔
      ∃ inner, piece = .tag inner ∧ s = inner ++ '>' :: rest ∧
        ∀ c ∈ inner, c ≠ '<' ∧ c ≠ '>' := by
  constructor
  · intro h
    rw [Piece.readTag] at h
    split at h
    next behind hdrop =>
      cases h
      refine ⟨s.takeWhile Piece.isInner, rfl, ?_, fun c hc => ?_⟩
      · rw [← hdrop, List.takeWhile_append_dropWhile]
      · simpa [Piece.isInner] using List.all_eq_true.1 List.all_takeWhile c hc
    next => cases h
  · rintro ⟨inner, rfl, rfl, hinner⟩
    have hrun : ∀ c ∈ inner, Piece.isInner c = true := by
      intro c hc
      simpa [Piece.isInner] using hinner c hc
    have hstop : ∀ c, ('>' :: rest).head? = some c → Piece.isInner c = false := by
      rintro c ⟨⟩
      decide
    rw [Piece.readTag, dropWhile_append_stop hrun hstop, takeWhile_append_stop hrun hstop]
    rfl

theorem readTag_eq_error_iff {s : List Char} {problem : Problem} :
    Piece.readTag s = .error problem ↔
      problem = .openTag ∧ ∀ inner rest, s = inner ++ '>' :: rest → '<' ∈ inner := by
  cases hread : Piece.readTag s with
  | ok result =>
    obtain ⟨piece, rest⟩ := result
    obtain ⟨inner, -, hs, hinner⟩ := readTag_eq_ok_iff.1 hread
    refine ⟨nofun, fun h => ?_⟩
    exact absurd rfl (hinner _ (h.2 inner rest hs)).1
  | error other =>
    have hother : other = .openTag := by
      rw [Piece.readTag] at hread
      split at hread <;> cases hread
      rfl
    rw [hother, Except.error.injEq, eq_comm]
    refine (and_iff_left fun inner rest hs => ?_).symm
    -- what stands before the first closing bracket would be the inside of a tag
    refine Decidable.byContradiction fun hbracket => ?_
    have hclosed : '>' ∈ inner ++ ['>'] := List.mem_append_right _ (List.mem_singleton_self _)
    obtain ⟨first, behind, hcut, hfirst⟩ := List.eq_append_cons_of_mem hclosed
    have hlength := congrArg List.length hcut
    rw [List.length_append, List.length_append, List.length_singleton, List.length_cons] at hlength
    have hinside : first <+: inner :=
      List.prefix_of_prefix_length_le ⟨_, hcut.symm⟩ (List.prefix_append _ _) (by omega)
    have hs' : s = first ++ '>' :: (behind ++ rest) := by
      rw [hs, List.append_cons, hcut, List.append_assoc, List.cons_append]
    have hinner : ∀ c ∈ first, c ≠ '<' ∧ c ≠ '>' := by
      intro c hc
      exact ⟨fun heq => hbracket (heq ▸ hinside.subset hc), fun heq => hfirst (heq ▸ hc)⟩
    rw [readTag_eq_ok_iff.2 ⟨first, rfl, hs', hinner⟩] at hread
    cases hread

/-! ### One step of a scan -/

theorem exists_opener (kind : Special) : ∃ t, kind.opener = '<' :: t := by
  cases kind
  · exact ⟨['!', '-', '-'], rfl⟩
  · exact ⟨['?'], rfl⟩
  · exact ⟨['!'], rfl⟩

theorem read_of_begins {kind : Special} {s : List Char} (h : kind.Begins (kind.opener ++ s)) :
    Piece.read (kind.opener ++ s) = Piece.readSpecial kind s := by
  obtain ⟨t, ht⟩ := exists_opener kind
  have hat := Special.at?_eq_some_iff.2 h
  have hdrop : (kind.opener ++ s).drop kind.opener.length = s := List.drop_left
  rw [ht, List.cons_append] at hat hdrop ⊢
  rw [read_special hat, ht, hdrop]

theorem read_of_plain {s : List Char} (h : ∀ kind, ¬ Special.Begins kind ('<' :: s)) :
    Piece.read ('<' :: s) = Piece.readTag s :=
  read_no_special (Special.at?_eq_none_iff.2 h)

/-- A text is a run of text and the rest, or it begins with a section, or with another bracket. -/
theorem text_cases {s : List Char} (hs : s ≠ []) :
    (∃ chars rest, s = chars ++ rest ∧ IsTile (.text chars) rest) ∨
    (∃ kind t, s = kind.opener ++ t ∧ Special.Begins kind (kind.opener ++ t)) ∨
    ∃ t, s = '<' :: t ∧ ∀ kind, ¬ Special.Begins kind ('<' :: t) := by
  obtain ⟨chars, rest, rfl, hchars, hrest⟩ := exists_text_run s
  by_cases hne : chars = []
  · right
    rw [hne, List.nil_append] at hs ⊢
    obtain ⟨c, t, rfl⟩ := List.exists_cons_of_ne_nil hs
    obtain rfl := hrest c rfl
    cases hat : Special.at? ('<' :: t) with
    | none => exact .inr ⟨t, rfl, Special.at?_eq_none_iff.1 hat⟩
    | some kind =>
      have hbegins := Special.at?_eq_some_iff.1 hat
      obtain ⟨behind, hbehind⟩ := hbegins.1
      exact .inl ⟨kind, behind, hbehind.symm, hbehind ▸ hbegins⟩
  · exact .inl ⟨chars, rest, rfl, .text hne hchars hrest⟩

section

variable {piece : Piece} {s rest : List Char} {problem : Problem}

theorem item?_tag_of_isNameless {inner : List Char} (h : IsNameless inner) :
    (Piece.tag inner).item? = .error .namelessTag := by
  rw [Piece.item?, Tag.ofInner?_eq_none_iff.2 h]

theorem exists_item?_tag {inner : List Char} (h : ¬ IsNameless inner) :
    ∃ tag, Tag.ofInner? inner = some tag ∧ (Piece.tag inner).item? = .ok (some (.tag tag)) := by
  rw [← Tag.ofInner?_eq_none_iff] at h
  obtain ⟨tag, htag⟩ := Option.ne_none_iff_exists'.1 h
  exact ⟨tag, htag, by rw [Piece.item?, htag]⟩

namespace IsTile

/-- A tile is read as it is. -/
theorem read (h : IsTile piece rest) : Piece.read (piece.source ++ rest) = .ok (piece, rest) := by
  cases h with
  | text hne hchars hrest => exact read_text hne hchars hrest
  | @tag inner rest hplain hinner hname =>
    have hsource : (Piece.tag inner).source ++ rest = '<' :: inner ++ '>' :: rest := by
      simp [Piece.source]
    rw [hsource]
    exact (read_of_plain hplain).trans (readTag_eq_ok_iff.2 ⟨_, rfl, rfl, hinner⟩)
  | special hbegins hinner =>
    rw [List.append_assoc, List.append_assoc] at hbegins
    rw [Piece.source, List.append_assoc, List.append_assoc, read_of_begins hbegins]
    exact readSpecial_eq_ok_iff.2 ⟨_, rfl, (List.append_assoc _ _ _).symm, hinner⟩

theorem exists_item? (h : IsTile piece rest) : ∃ item?, piece.item? = .ok item? := by
  cases h with
  | text => exact ⟨_, rfl⟩
  | tag _ _ hname =>
    obtain ⟨tag, -, hitem⟩ := exists_item?_tag hname
    exact ⟨_, hitem⟩
  | special => exact ⟨_, rfl⟩

theorem source_ne_nil (h : IsTile piece rest) : piece.source ≠ [] := by
  cases h with
  | text hne => exact hne
  | tag => exact List.cons_ne_nil _ _
  | @special kind => simp [Piece.source, opener_ne_nil kind]

end IsTile

/-- A problem at the head of a text ends a scan there. -/
theorem Blocks.hasProblem (h : Blocks s problem) : HasProblem s problem := by
  cases h with
  | @openSpecial kind s hbegins hopen =>
    refine ⟨by simp [opener_ne_nil kind], .inl ?_⟩
    rw [read_of_begins hbegins]
    exact readSpecial_eq_error_iff.2 ⟨rfl, hopen⟩
  | openTag hplain hopen =>
    refine ⟨List.cons_ne_nil _ _, .inl ?_⟩
    rw [read_of_plain hplain]
    exact readTag_eq_error_iff.2 ⟨rfl, hopen⟩
  | @namelessTag inner rest hplain hinner hname =>
    refine ⟨List.cons_ne_nil _ _, .inr ⟨_, rest, ?_, item?_tag_of_isNameless hname⟩⟩
    exact (read_of_plain hplain).trans (readTag_eq_ok_iff.2 ⟨_, rfl, rfl, hinner⟩)

/-- A text that is not empty begins with a tile or with a problem. -/
theorem isTile_or_blocks (hs : s ≠ []) :
    (∃ piece rest, s = piece.source ++ rest ∧ IsTile piece rest) ∨ ∃ problem, Blocks s problem := by
  rcases text_cases hs with ⟨chars, rest, rfl, htile⟩ | ⟨kind, t, rfl, hbegins⟩ | ⟨t, rfl, hplain⟩
  · exact .inl ⟨.text chars, rest, rfl, htile⟩
  · cases hread : Piece.readSpecial kind t with
    | error problem =>
      obtain ⟨-, hopen⟩ := readSpecial_eq_error_iff.1 hread
      exact .inr ⟨_, .openSpecial hbegins hopen⟩
    | ok result =>
      obtain ⟨inner, -, rfl, hinner⟩ := readSpecial_eq_ok_iff.1 hread
      rw [← List.append_assoc, ← List.append_assoc] at hbegins ⊢
      exact .inl ⟨.special kind inner, _, rfl, .special hbegins hinner⟩
  · cases hread : Piece.readTag t with
    | error problem =>
      obtain ⟨-, hopen⟩ := readTag_eq_error_iff.1 hread
      exact .inr ⟨_, .openTag hplain hopen⟩
    | ok result =>
      obtain ⟨inner, -, rfl, hinner⟩ := readTag_eq_ok_iff.1 hread
      by_cases hname : Tag.ofInner? inner = none
      · exact .inr ⟨_, .namelessTag hplain hinner (Tag.ofInner?_eq_none_iff.1 hname)⟩
      · refine .inl ⟨.tag inner, _, ?_, .tag hplain hinner (mt Tag.ofInner?_eq_none_iff.2 hname)⟩
        simp [Piece.source]

end

/-! ### Rows of tiles -/

/-- The characters of pieces. -/
def sources (pieces : List Piece) : List Char := pieces.flatMap Piece.source

/-- The events of pieces, the first of which stands at an offset. -/
def eventsFrom (offset : Nat) : List Piece → List Event
  | [] => []
  | piece :: pieces =>
      match piece.item? with
      | .ok (some item) => ⟨offset, item⟩ :: eventsFrom (offset + piece.source.length) pieces
      | _ => eventsFrom (offset + piece.source.length) pieces

/-- Where pieces begin, the first of which stands at an offset. -/
def startsFrom (offset : Nat) : List Piece → List Nat
  | [] => []
  | piece :: pieces => offset :: startsFrom (offset + piece.source.length) pieces

/-- Each of several pieces is a tile in front of the next, and the last in front of the rest of a
text. -/
inductive Tiles (rest : List Char) : List Piece → Prop
  | nil : Tiles rest []
  | cons {piece : Piece} {pieces : List Piece} (htile : IsTile piece (sources pieces ++ rest))
      (htiles : Tiles rest pieces) : Tiles rest (piece :: pieces)

/-- Tiles are scanned first, and then the rest. -/
theorem scanFrom_tiles {pieces : List Piece} {rest : List Char} (h : Tiles rest pieces)
    (offset : Nat) :
    scanFrom offset (sources pieces ++ rest) =
      (scanFrom (offset + (sources pieces).length) rest).behind (eventsFrom offset pieces) := by
  induction h generalizing offset with
  | nil => rfl
  | @cons piece pieces htile htiles ih =>
    obtain ⟨item?, hitem⟩ := htile.exists_item?
    have hne : piece.source ++ (sources pieces ++ rest) ≠ [] := by simp [htile.source_ne_nil]
    have hsources : sources (piece :: pieces) = piece.source ++ sources pieces := rfl
    rw [hsources, List.append_assoc, scanFrom_of_read hne htile.read, hitem, List.length_append,
      ← Nat.add_assoc, eventsFrom, hitem, ih]
    cases item? <;> rfl

/-- A text is a row of tiles up to its end or to a problem. -/
theorem exists_tiles (s : List Char) :
    ∃ pieces rest, s = sources pieces ++ rest ∧ Tiles rest pieces ∧
      (rest = [] ∨ ∃ problem, Blocks rest problem) := by
  induction hlength : s.length using Nat.strongRecOn generalizing s with
  | ind n ih =>
    by_cases hs : s = []
    · exact ⟨[], s, rfl, .nil, .inl hs⟩
    rcases isTile_or_blocks hs with ⟨piece, behind, rfl, htile⟩ | hblocks
    · have hlt : behind.length < n := by
        have hpos := List.length_pos_iff.2 htile.source_ne_nil
        rw [List.length_append] at hlength
        omega
      obtain ⟨pieces, rest, rfl, htiles, hend⟩ := ih _ hlt behind rfl
      exact ⟨piece :: pieces, rest, (List.append_assoc _ _ _).symm, .cons htile htiles, hend⟩
    · exact ⟨[], s, rfl, .nil, .inr hblocks⟩

/-- A problem at the head of a text is all that a scan comes to. -/
theorem scanFrom_of_blocks {s : List Char} {problem : Problem} (h : Blocks s problem)
    (offset : Nat) : scanFrom offset s = .failed offset problem := by
  obtain ⟨hs, hread | ⟨piece, behind, hread, hitem⟩⟩ := h.hasProblem
  · exact scanFrom_of_problem hs hread offset
  · rw [scanFrom_of_read hs hread, hitem]

/-! ### Offsets -/

theorem le_of_mem_startsFrom {offset start : Nat} {pieces : List Piece}
    (h : start ∈ startsFrom offset pieces) : offset ≤ start := by
  induction pieces generalizing offset with
  | nil => cases h
  | cons piece pieces ih =>
    rcases List.mem_cons.1 h with rfl | h
    · exact Nat.le_refl _
    · exact Nat.le_trans (Nat.le_add_right _ _) (ih h)

/-- Every tile begins further on than the one before it. -/
theorem Tiles.pairwise_startsFrom {pieces : List Piece} {rest : List Char} (h : Tiles rest pieces)
    (offset : Nat) : (startsFrom offset pieces).Pairwise (· < ·) := by
  induction h generalizing offset with
  | nil => exact .nil
  | cons htile htiles ih =>
    refine List.pairwise_cons.2 ⟨fun start hstart => ?_, ih _⟩
    have hpos := List.length_pos_iff.2 htile.source_ne_nil
    have hle := le_of_mem_startsFrom hstart
    omega

theorem offsets_eventsFrom_sublist (offset : Nat) (pieces : List Piece) :
    ((eventsFrom offset pieces).map (·.offset)).Sublist (startsFrom offset pieces) := by
  induction pieces generalizing offset with
  | nil => exact .slnil
  | cons piece pieces ih =>
    rw [eventsFrom, startsFrom]
    split
    · exact (ih _).cons_cons offset
    · exact (ih _).cons offset

/-! ### What is met in a text -/

/-- An event stands in a text at its offset: a run of text up to a bracket, or a tag up to the next
closing bracket, with the name that it holds. -/
inductive Event.StandsIn (s : List Char) : Event → Prop
  | text {before chars behind : List Char} (hs : s = before ++ (chars ++ behind))
      (hne : chars ≠ []) (hchars : '<' ∉ chars)
      (hbehind : ∀ c, behind.head? = some c → c = '<') : StandsIn s ⟨before.length, .text chars⟩
  | tag {before inner behind : List Char} {tag : Tag}
      (hs : s = before ++ ('<' :: inner ++ '>' :: behind)) (hinner : ∀ c ∈ inner, c ≠ '<' ∧ c ≠ '>')
      (htag : Tag.ofInner? inner = some tag) (hname : tag.IsNamed) :
      StandsIn s ⟨before.length, .tag tag⟩

/-- An event is that of a tile. -/
theorem Tiles.exists_tile {pieces : List Piece} {rest : List Char} (h : Tiles rest pieces)
    {offset : Nat} {event : Event} (hevent : event ∈ eventsFrom offset pieces) :
    ∃ before piece behind, sources pieces ++ rest = before ++ (piece.source ++ behind) ∧
      event.offset = offset + before.length ∧ IsTile piece behind ∧
      piece.item? = .ok (some event.item) := by
  induction h generalizing offset with
  | nil => cases hevent
  | @cons piece pieces htile htiles ih =>
    have further (h : event ∈ eventsFrom (offset + piece.source.length) pieces) :
        ∃ before next behind, sources (piece :: pieces) ++ rest =
          before ++ (next.source ++ behind) ∧ event.offset = offset + before.length ∧
          IsTile next behind ∧ next.item? = .ok (some event.item) := by
      obtain ⟨before, next, behind, hs, hoffset, hnext⟩ := ih h
      refine ⟨piece.source ++ before, next, behind, ?_, ?_, hnext⟩
      · rw [List.append_assoc, ← hs, ← List.append_assoc]
        rfl
      · rw [hoffset, List.length_append, Nat.add_assoc]
    rw [eventsFrom] at hevent
    split at hevent
    next item hitem =>
      rcases List.mem_cons.1 hevent with rfl | hevent
      · exact ⟨[], piece, sources pieces ++ rest, List.append_assoc _ _ _, rfl, htile, hitem⟩
      · exact further hevent
    next => exact further hevent

theorem Tiles.standsIn {pieces : List Piece} {rest : List Char} (h : Tiles rest pieces)
    {event : Event} (hevent : event ∈ eventsFrom 0 pieces) :
    event.StandsIn (sources pieces ++ rest) := by
  obtain ⟨before, piece, behind, hs, hoffset, htile, hitem⟩ := h.exists_tile hevent
  obtain ⟨offset, item⟩ := event
  rw [Nat.zero_add] at hoffset
  obtain rfl : offset = before.length := hoffset
  cases htile with
  | text hne hchars hbehind =>
    cases hitem
    exact .text hs hne hchars hbehind
  | @tag inner behind hplain hinner hname =>
    obtain ⟨tag, htag, hitem'⟩ := exists_item?_tag hname
    cases hitem.symm.trans hitem'
    obtain ⟨hword, hsubset⟩ := Tag.name_of_ofInner? htag
    have hs' : sources pieces ++ rest = before ++ ('<' :: inner ++ '>' :: behind) := by
      simp [hs, Piece.source]
    exact .tag hs' hinner htag ⟨hword, fun c hc => hinner c (hsubset hc)⟩
  | special => cases hitem

/-! ### The scan of a text -/

theorem scan_of_tiles {pieces : List Piece} {rest : List Char} (h : Tiles rest pieces) :
    scan (sources pieces ++ rest) =
      (scanFrom (sources pieces).length rest).behind (eventsFrom 0 pieces) := by
  rw [scan, scanFrom_tiles h, Nat.zero_add]

/-- The scan of a text takes up tiles from the left, one behind the other, each further on than the
one before, up to the end of the text or to the first problem, and there always is one of the two.
It meets the runs of text and the tags among them, where they stand. -/
theorem scan_tiles (s : List Char) :
    (∃ pieces rest, s = sources pieces ++ rest ∧ Tiles rest pieces ∧
      (startsFrom 0 pieces).Pairwise (· < ·) ∧ (scan s).events = eventsFrom 0 pieces ∧
      ((scan s).halt? = none → rest = [])) ∧
    (∀ halt, (scan s).halt? = some halt ↔
      ∃ pieces rest, s = sources pieces ++ rest ∧ Tiles rest pieces ∧
        halt.offset = (sources pieces).length ∧ Blocks rest halt.problem) ∧
    ((scan s).events.map (·.offset)).Pairwise (· < ·) ∧
    ∀ event ∈ (scan s).events, event.StandsIn s := by
  obtain ⟨pieces, rest, rfl, htiles, hend⟩ := exists_tiles s
  have hstarts := htiles.pairwise_startsFrom 0
  have hevents : (scan (sources pieces ++ rest)).events = eventsFrom 0 pieces := by
    rw [scan_of_tiles htiles]
    rcases hend with rfl | ⟨problem, hblocks⟩
    · rw [scanFrom_nil]
      exact List.append_nil _
    · rw [scanFrom_of_blocks hblocks]
      exact List.append_nil _
  refine ⟨⟨pieces, rest, rfl, htiles, hstarts, hevents, fun hdone => ?_⟩,
    fun halt => ⟨fun h => ?_, ?_⟩, ?_, ?_⟩
  · refine hend.resolve_right fun ⟨problem, hblocks⟩ => ?_
    rw [scan_of_tiles htiles, scanFrom_of_blocks hblocks] at hdone
    cases hdone
  · rw [scan_of_tiles htiles] at h
    rcases hend with rfl | ⟨problem, hblocks⟩
    · rw [scanFrom_nil] at h
      cases h
    · rw [scanFrom_of_blocks hblocks] at h
      cases h
      exact ⟨pieces, rest, rfl, htiles, rfl, hblocks⟩
  · rintro ⟨pieces', rest', hs, htiles', hoffset, hblocks⟩
    rw [hs, scan_of_tiles htiles', scanFrom_of_blocks hblocks, ← hoffset]
    rfl
  · rw [hevents]
    exact hstarts.sublist (offsets_eventsFrom_sublist 0 pieces)
  · rw [hevents]
    exact fun event hevent => htiles.standsIn hevent

end NameTagger.Markup
