import NameTagger.Text.Blank

/-!
# Pieces of markup

Markup is text with tags in angle brackets.  Comments, instructions and declarations have marks of
their own at both ends and may hold angle brackets.

* `Special`, with its `opener` and `closer`: the kinds of section that are passed over;
* `Piece`, `Piece.source`: a run of text, a tag or a section, and the characters that it takes up;
* `splitAt?`: what stands before and behind the first occurrence of a mark;
* `Problem`: why markup cannot be split;
* `Piece.read`: the first piece of markup, or the problem at its head.
-/

namespace NameTagger.Markup

/-- The sections that are passed over. -/
inductive Special where
  | comment
  | instruction
  | declaration
deriving DecidableEq, Repr

namespace Special

/-- The kinds of section in the order in which they are tried. -/
def all : List Special := [.comment, .instruction, .declaration]

/-- The mark at which a section begins. -/
def opener : Special → List Char
  | .comment => "<!--".toList
  | .instruction => "<?".toList
  | .declaration => "<!".toList

/-- The mark at which a section ends. -/
def closer : Special → List Char
  | .comment => "-->".toList
  | .instruction => "?>".toList
  | .declaration => ['>']

/-- The section that begins at the head of a text. -/
def at? (s : List Char) : Option Special := all.find? fun special => special.opener.isPrefixOf s

end Special

/-- A piece of markup. -/
inductive Piece where
  | text (chars : List Char)
  | tag (inner : List Char)
  | special (kind : Special) (inner : List Char)
deriving DecidableEq, Repr

/-- The characters of a piece. -/
def Piece.source : Piece → List Char
  | .text chars => chars
  | .tag inner => '<' :: inner ++ ['>']
  | .special kind inner => kind.opener ++ inner ++ kind.closer

/-- What stands before the first occurrence of a mark, and what stands behind it. -/
def splitAt? (mark : List Char) : List Char → Option (List Char × List Char)
  | [] => if mark.isPrefixOf [] then some ([], []) else none
  | c :: s =>
      if mark.isPrefixOf (c :: s) then some ([], (c :: s).drop mark.length)
      else (splitAt? mark s).map fun (before, behind) => (c :: before, behind)

/-- Why markup cannot be split. -/
inductive Problem where
  | openSpecial (kind : Special)
  | openTag
  | namelessTag
deriving DecidableEq, Repr

/-- The problem in words. -/
def Problem.message : Problem → String
  | .openSpecial kind => "Unterminated " ++ String.ofList kind.opener ++ " section"
  | .openTag => "Unterminated tag"
  | .namelessTag => "Tag without a name"

namespace Piece

/-- Text ends at an opening bracket. -/
def isText (c : Char) : Bool := c ≠ '<'

/-- The inside of a tag ends at either bracket. -/
def isInner (c : Char) : Bool := c ≠ '<' && c ≠ '>'

/-- The section of a kind whose opening mark was passed. -/
def readSpecial (kind : Special) (s : List Char) : Except Problem (Piece × List Char) :=
  match splitAt? kind.closer s with
  | some (inner, rest) => .ok (.special kind inner, rest)
  | none => .error (.openSpecial kind)

/-- The tag whose opening bracket was passed; it holds no further one. -/
def readTag (s : List Char) : Except Problem (Piece × List Char) :=
  match s.dropWhile isInner with
  | '>' :: rest => .ok (.tag (s.takeWhile isInner), rest)
  | _ => .error .openTag

/-- The first piece of a text that is not empty, and the rest. -/
def read (s : List Char) : Except Problem (Piece × List Char) :=
  match s with
  | '<' :: behind =>
      match Special.at? s with
      | some kind => readSpecial kind (s.drop kind.opener.length)
      | none => readTag behind
  | _ => .ok (.text (s.takeWhile isText), s.dropWhile isText)

end Piece

/-! ### Nothing is lost -/

theorem eq_of_splitAt? {mark s before behind : List Char}
    (h : splitAt? mark s = some (before, behind)) : s = before ++ mark ++ behind := by
  induction s generalizing before with
  | nil =>
    cases mark <;> simp_all [splitAt?]
  | cons c s ih =>
    rw [splitAt?] at h
    split at h
    · rename_i hp
      obtain ⟨t, ht⟩ := List.isPrefixOf_iff_prefix.1 hp
      simp only [Option.some.injEq, Prod.mk.injEq] at h
      obtain ⟨rfl, rfl⟩ := h
      simp [← ht]
    · obtain ⟨⟨b, r⟩, hb, hr⟩ := Option.map_eq_some_iff.1 h
      simp only [Prod.mk.injEq] at hr
      obtain ⟨rfl, rfl⟩ := hr
      simp [ih hb]

/-- The opening mark of the section at the head of a text stands there. -/
theorem opener_of_at? {s : List Char} {kind : Special} (h : Special.at? s = some kind) :
    s = kind.opener ++ s.drop kind.opener.length := by
  have hp : kind.opener.isPrefixOf s = true := by
    rw [Special.at?] at h
    simpa using List.find?_some h
  obtain ⟨t, rfl⟩ := List.isPrefixOf_iff_prefix.1 hp
  simp

/-- A piece and the rest make up the text. -/
theorem source_append_of_read {s rest : List Char} {piece : Piece}
    (h : Piece.read s = .ok (piece, rest)) : piece.source ++ rest = s := by
  unfold Piece.read at h
  split at h
  · rename_i behind
    split at h
    · rename_i kind hk
      unfold Piece.readSpecial at h
      split at h
      · rename_i inner r hs
        simp only [Except.ok.injEq, Prod.mk.injEq] at h
        obtain ⟨rfl, rfl⟩ := h
        rw [opener_of_at? hk, eq_of_splitAt? hs]
        simp [Piece.source]
      · simp at h
    · unfold Piece.readTag at h
      split at h
      · rename_i r hs
        simp only [Except.ok.injEq, Prod.mk.injEq] at h
        obtain ⟨rfl, rfl⟩ := h
        have := List.takeWhile_append_dropWhile (p := Piece.isInner) (l := behind)
        rw [hs] at this
        simp [Piece.source, this]
      · simp at h
  · simp only [Except.ok.injEq, Prod.mk.injEq] at h
    obtain ⟨rfl, rfl⟩ := h
    exact List.takeWhile_append_dropWhile

theorem opener_ne_nil (kind : Special) : kind.opener ≠ [] := by
  cases kind <;> decide

/-- A piece takes up at least one character. -/
theorem length_lt_of_read {s rest : List Char} {piece : Piece} (hs : s ≠ [])
    (h : Piece.read s = .ok (piece, rest)) : rest.length < s.length := by
  have hlen := congrArg List.length (source_append_of_read h)
  simp only [List.length_append] at hlen
  suffices 0 < piece.source.length by omega
  cases piece with
  | tag inner => simp [Piece.source]
  | special kind inner =>
    have := List.length_pos_iff.2 (opener_ne_nil kind)
    simp only [Piece.source, List.length_append]
    omega
  | text chars =>
    unfold Piece.read at h
    split at h
    · split at h
      · simp only [Piece.readSpecial] at h
        split at h <;> simp at h
      · simp only [Piece.readTag] at h
        split at h <;> simp at h
    · rename_i hne
      simp only [Except.ok.injEq, Prod.mk.injEq, Piece.text.injEq] at h
      cases s with
      | nil => exact absurd rfl hs
      | cons c s =>
        have hc : c ≠ '<' := fun hc => hne s (by rw [hc])
        rw [← h.1]
        simp [Piece.source, Piece.isText, hc]

end NameTagger.Markup
