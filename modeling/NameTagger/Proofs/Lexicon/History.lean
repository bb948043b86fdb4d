import NameTagger.Instance.Learn
import NameTagger.Lexicon.Numbering
import NameTagger.Proofs.Lexicon

/-!
# The history of a lexicon

A lexicon is made of a list of strings and then answers requests, some of which it may refuse.  At
any time it numbers the strings that were put into it by their first occurrence, and a number that
it gave is never taken back.

* `Origin`, `Request`, `Answer`: how a lexicon is made, what it is asked and what it answers;
* `perform`, `after`: one request, and the lexicon behind several;
* `asked`: the strings that requests put into a lexicon;
* `after_eq_self`, `strings_after`: what requests do to a frozen lexicon and to one that grows;
* `Numbers`: a lexicon numbers the strings of a list by their first occurrence;
* `numbers_after`: every lexicon does so at any time, and keeps to it.
-/

namespace NameTagger.Lexicon

/-! ### Making a lexicon -/

/-- How a lexicon is made: of strings, or of strings that are listed with numbers. -/
inductive Origin where
  | strings (ss : List String)
  | numbered (listed : List (String × SourceId))

namespace Origin

/-- The lexicon that is made. -/
def lexicon : Origin → Except Fault Lexicon
  | .strings ss => .ok (ofStrings ss)
  | .numbered listed => ofNumbered listed

/-- The strings that are put into it, in this order: listed ones by their numbers. -/
def initial : Origin → Except Fault (List String)
  | .strings ss => .ok ss
  | .numbered listed => do
      let numbered ← values listed
      return (numbered.mergeSort fun a b => a.2 ≤ b.2).map (·.1)

end Origin

/-- A lexicon holds what it is made of, and only listed strings make a frozen one. -/
theorem Origin.of_lexicon {origin : Origin} {d : Lexicon} (h : origin.lexicon = .ok d) :
    ∃ ss, origin.initial = .ok ss ∧ d.strings = ss.eraseDups ∧
      (d.frozen = true ↔ ∃ listed, origin = .numbered listed) := by
  cases origin with
  | strings ss =>
    obtain rfl := Except.ok.inj h
    refine ⟨ss, rfl, strings_ofStrings ss, ?_⟩
    rw [(absorbs_ofStrings ss).frozen]
    simp [empty]
  | numbered listed =>
    rw [lexicon, ofNumbered] at h
    cases hvalues : values listed with
    | error fault =>
      rw [hvalues] at h
      cases h
    | ok numbered =>
      rw [hvalues] at h
      obtain rfl := Except.ok.inj h
      refine ⟨_, by rw [initial, hvalues]; rfl, ?_, by simp [freeze]⟩
      rw [strings_freeze, strings_ofStrings]

/-! ### Requests -/

/-- What a lexicon is asked. -/
inductive Request where
  /-- For the number of a string, which may be new. -/
  | intern (s : String)
  /-- For the number of a string, if it has one. -/
  | find (s : String)
  /-- For the string with a number. -/
  | read (i : Int)
  | freeze
deriving DecidableEq

/-- What a lexicon answers. -/
inductive Answer where
  | number (i : Nat)
  | found (i? : Option Nat)
  | string (s? : Option String)
  | done
  | refused (fault : Fault)
deriving DecidableEq

/-- The lexicon behind a request, and the answer. -/
def perform (d : Lexicon) : Request → Lexicon × Answer
  | .intern s =>
      match d.intern s with
      | (d, .ok i) => (d, .number i)
      | (d, .error refusal) => (d, .refused (Instance.Refusal.readOnly refusal).fault)
  | .find s => (d, .found (d.id? s))
  | .read i => (d, .string (if i < 0 then none else d.string? i.toNat))
  | .freeze => (d.freeze, .done)

/-- The lexicon behind several requests. -/
def after (d : Lexicon) (requests : List Request) : Lexicon :=
  requests.foldl (fun d request => (d.perform request).1) d

/-- The strings that requests put into a lexicon that grows, until it is frozen. -/
def asked : List Request → List String
  | [] => []
  | .intern s :: rest => s :: asked rest
  | .freeze :: _ => []
  | _ :: rest => asked rest

@[simp] theorem after_nil (d : Lexicon) : d.after [] = d := rfl

@[simp] theorem after_cons (d : Lexicon) (request : Request) (rest : List Request) :
    d.after (request :: rest) = (d.perform request).1.after rest := rfl

/-! ### One request -/

/-- A string that has a number is not added again. -/
theorem perform_intern_known {d : Lexicon} {s : String} {i : Nat} (h : d.id? s = some i) :
    d.perform (.intern s) = (d, .number i) := by
  rcases intern_cases d s with ⟨j, hj, hintern⟩ | ⟨hnone, -, -⟩ | ⟨hnew, -, -⟩
  · obtain rfl : i = j := Option.some.inj (h.symm.trans hj)
    simp only [perform, hintern]
  · rw [hnone] at h
    cases h
  · rw [id?, hnew] at h
    cases h

/-- A frozen lexicon refuses a string that has no number. -/
theorem perform_intern_unknown {d : Lexicon} (hfrozen : d.frozen = true) {s : String}
    (h : d.id? s = none) :
    d.perform (.intern s) = (d, .refused ⟨.runtime, ReadOnly.message ⟨s⟩⟩) := by
  rcases intern_cases d s with ⟨j, hj, -⟩ | ⟨-, -, hintern⟩ | ⟨-, hgrowing, -⟩
  · rw [h] at hj
    cases hj
  · simp only [perform, hintern]
    rfl
  · rw [hfrozen] at hgrowing
    cases hgrowing

theorem freeze_eq_self {d : Lexicon} (hfrozen : d.frozen = true) : d.freeze = d := by
  obtain ⟨entries, index, frozen, hindex⟩ := d
  obtain rfl : frozen = true := hfrozen
  rfl

theorem perform_frozen {d : Lexicon} (hfrozen : d.frozen = true) (request : Request) :
    (d.perform request).1 = d := by
  cases request with
  | intern s =>
    cases hid : d.id? s with
    | some i => rw [perform_intern_known hid]
    | none => rw [perform_intern_unknown hfrozen hid]
  | find s => rfl
  | read i => rfl
  | freeze => exact freeze_eq_self hfrozen

/-- No request takes a number back. -/
theorem prefix_perform (d : Lexicon) (request : Request) :
    d.strings <+: (d.perform request).1.strings := by
  cases request with
  | intern s =>
    have hextends := extends_intern d s
    rw [perform]
    split <;> simp_all [Extends.strings]
  | find s => exact List.prefix_rfl
  | read i => exact List.prefix_rfl
  | freeze => exact List.prefix_rfl

theorem absorbs_perform_intern {d : Lexicon} (hgrowing : d.frozen = false) (s : String) :
    Absorbs d [s] (d.perform (.intern s)).1 := by
  obtain ⟨d', i, hintern, habsorbs, -⟩ := intern_growing hgrowing s
  simp only [perform, hintern]
  exact habsorbs

/-! ### Several requests -/

/-- A frozen lexicon stays as it is. -/
theorem after_eq_self {d : Lexicon} (hfrozen : d.frozen = true) (requests : List Request) :
    d.after requests = d := by
  induction requests with
  | nil => rfl
  | cons request rest ih => rw [after_cons, perform_frozen hfrozen, ih]

theorem prefix_after (d : Lexicon) (requests : List Request) :
    d.strings <+: (d.after requests).strings := by
  induction requests generalizing d with
  | nil => exact List.prefix_rfl
  | cons request rest ih => exact (prefix_perform d request).trans (ih _)

/-- A lexicon that grows takes in the strings that it is asked for. -/
theorem strings_after {d : Lexicon} (hgrowing : d.frozen = false) (requests : List Request) :
    (d.after requests).strings = d.strings ++ unseen d.strings (asked requests) := by
  induction requests generalizing d with
  | nil => exact (List.append_nil d.strings).symm
  | cons request rest ih =>
    rw [after_cons]
    cases request with
    | intern s =>
      have habsorbs := absorbs_perform_intern hgrowing s
      have hsplit : asked (.intern s :: rest) = [s] ++ asked rest := rfl
      rw [ih (habsorbs.frozen.trans hgrowing), habsorbs.strings, hsplit, unseen_append,
        List.append_assoc]
    | find s => exact ih hgrowing
    | read i => exact ih hgrowing
    | freeze =>
      have hfrozen : (d.perform .freeze).1.frozen = true := rfl
      rw [after_eq_self hfrozen, asked, unseen_nil, List.append_nil]
      rfl

theorem frozen_after (d : Lexicon) (requests : List Request) :
    (d.after requests).frozen = true ↔ d.frozen = true ∨ .freeze ∈ requests := by
  induction requests generalizing d with
  | nil => simp
  | cons request rest ih =>
    rw [after_cons, ih]
    cases hfrozen : d.frozen with
    | true => simp [perform_frozen hfrozen, hfrozen]
    | false =>
      cases request with
      | intern s => simp [(absorbs_perform_intern hfrozen s).frozen, hfrozen]
      | find s => simp [perform, hfrozen]
      | read i => simp [perform, hfrozen]
      | freeze => simp [perform, freeze]

/-! ### Numbers by first occurrence -/

/-- A lexicon numbers the strings of a list densely by their first occurrence. -/
structure Numbers (d : Lexicon) (ss : List String) : Prop where
  strings_eq : d.strings = ss.eraseDups
  nodup : d.strings.Nodup
  /-- The two directions are inverse to each other. -/
  inverse : ∀ s i, d.id? s = some i ↔ d.string? i = some s
  /-- The numbers are those below the size. -/
  dense : ∀ i, (∃ s, d.string? i = some s) ↔ i < d.size
  absent : ∀ s, d.id? s = none ↔ d.contains s = false
  contained : ∀ s, d.contains s = true ↔ s ∈ ss

theorem numbers_of_strings {d : Lexicon} {ss : List String} (h : d.strings = ss.eraseDups) :
    Numbers d ss where
  strings_eq := h
  nodup := nodup_strings d
  inverse := id?_eq_some_iff d
  dense i := by
    rw [← length_strings, string?_eq, ← Option.isSome_iff_exists]
    simp
  absent s := by rw [contains, Option.isSome_eq_false_iff, Option.isNone_iff_eq_none]
  contained s := by rw [contains_iff, h, List.mem_eraseDups]

/-- At any time a lexicon numbers the strings that were put into it by their first occurrence.  What
has a number keeps it, whatever is asked later; a frozen lexicon stays as it is and refuses what is
new. -/
theorem numbers_after {origin : Origin} {d₀ : Lexicon} (horigin : origin.lexicon = .ok d₀)
    (earlier later : List Request) :
    let d := d₀.after earlier
    let d' := d.after later
    (∃ ss, origin.initial = .ok ss ∧
      Numbers d (ss ++ if d₀.frozen = true then [] else asked earlier)) ∧
    (d.frozen = true ↔ (∃ listed, origin = .numbered listed) ∨ .freeze ∈ earlier) ∧
    (∀ s i, d.id? s = some i → d'.id? s = some i ∧ d'.string? i = some s ∧
      d'.perform (.intern s) = (d', .number i)) ∧
    (d.frozen = false → ∀ s, ∃ i, (d.perform (.intern s)).2 = .number i ∧
      (d.perform (.intern s)).1.string? i = some s) ∧
    (d.frozen = true → d' = d ∧ ∀ s, d.contains s = false →
      d'.perform (.intern s) = (d', .refused ⟨.runtime, ReadOnly.message ⟨s⟩⟩)) := by
  intro d d'
  obtain ⟨ss, hinitial, hstrings, hfrozen⟩ := origin.of_lexicon horigin
  refine ⟨⟨ss, hinitial, numbers_of_strings ?_⟩, ?_, fun s i hid => ?_, fun hd s => ?_,
    fun hd => ?_⟩
  · show (d₀.after earlier).strings = _
    cases hd₀ : d₀.frozen with
    | true => rw [after_eq_self hd₀, hstrings, if_pos rfl, List.append_nil]
    | false =>
      rw [strings_after hd₀, hstrings, if_neg Bool.false_ne_true, List.eraseDups_append, unseen]
      congr 2
      exact List.filter_congr fun s _ => by simp
  · rw [← hfrozen]
    exact frozen_after d₀ earlier
  · have hlater : d'.string? i = some s := by
      have hstring := (id?_eq_some_iff d s i).1 hid
      rw [string?_eq] at hstring ⊢
      obtain ⟨added, hadded⟩ := prefix_after d later
      rw [← hadded, List.getElem?_append_left (List.getElem?_eq_some_iff.1 hstring).1, hstring]
    have hid' := (id?_eq_some_iff d' s i).2 hlater
    exact ⟨hid', hlater, perform_intern_known hid'⟩
  · obtain ⟨next, i, hintern, -, hstring⟩ := intern_growing hd s
    refine ⟨i, ?_, ?_⟩
    · simp only [perform, hintern]
    · simpa only [perform, hintern] using hstring
  · have hsame : d' = d := after_eq_self hd later
    refine ⟨hsame, fun s hs => ?_⟩
    rw [hsame]
    refine perform_intern_unknown hd ?_
    rwa [contains, Option.isSome_eq_false_iff, Option.isNone_iff_eq_none] at hs

/-- A repeated string is numbered once, and one that comes too late is refused. -/
theorem numbers_after_freeze :
    (Origin.strings ["a", "b", "a"]).lexicon = .ok (ofStrings ["a", "b", "a"]) ∧
    let d := (ofStrings ["a", "b", "a"]).after [.intern "c", .freeze, .intern "d"]
    d.strings = ["a", "b", "c"] ∧ d.id? "c" = some 2 ∧
      (d.after [.intern "a"]).perform (.intern "d") =
        (d, .refused ⟨.runtime, "Cannot insert 'd': dictionary is read-only"⟩) := by
  have horigin : (Origin.strings ["a", "b", "a"]).lexicon = .ok (ofStrings ["a", "b", "a"]) := rfl
  refine ⟨horigin, ?_⟩
  intro d
  obtain ⟨⟨ss, hss, hnumbers⟩, hfrozen, -, -, hrefused⟩ :=
    numbers_after horigin [.intern "c", .freeze, .intern "d"] [.intern "a"]
  obtain rfl : ["a", "b", "a"] = ss := Except.ok.inj hss
  have hgrowing : (ofStrings ["a", "b", "a"]).frozen = false := (absorbs_ofStrings _).frozen
  have hstrings : d.strings = ["a", "b", "c"] := by
    refine hnumbers.strings_eq.trans ?_
    rw [hgrowing]
    decide
  obtain ⟨hsame, hmessage⟩ := hrefused (hfrozen.2 (.inr (by decide)))
  have hmessage := hmessage "d" <| by
    rw [← Bool.not_eq_true, hnumbers.contained, hgrowing]
    decide
  refine ⟨hstrings, ?_, ?_⟩
  · refine (hnumbers.inverse "c" 2).2 ?_
    rw [string?_eq]
    exact congrArg (·[2]?) hstrings
  · rw [hsame] at hmessage
    refine (congrArg (fun e : Lexicon => e.perform (.intern "d")) hsame).trans (hmessage.trans ?_)
    congr 3

end NameTagger.Lexicon
