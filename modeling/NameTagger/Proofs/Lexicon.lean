import NameTagger.Lexicon

/-!
# Lexicons that grow

* `contains_iff`: the strings of a lexicon are those that have a number;
* `intern_cases`: what a request for the number of a string can do;
* `Extends`: a lexicon that keeps all numbers of another one;
* `extends_intern`: a request keeps all numbers;
* `unseen`, `Absorbs`: the strings that are new to a lexicon, and a lexicon to which they were
  added;
* `intern_eq_ok`: what there is behind a request that is answered;
* `intern_growing`, `absorbs_internAll`: a lexicon that is not frozen takes in what it is asked for;
* `IsClosedTo`, `Refuses`, `AbsorbsSome`: why a request fails, and what became of a lexicon that was
  asked for strings, whether or not one of them was refused.
-/

namespace NameTagger.Lexicon

theorem contains_iff (d : Lexicon) (s : String) : d.contains s = true ↔ s ∈ d.strings := by
  rw [contains, Option.isSome_iff_exists, List.mem_iff_getElem?]
  exact exists_congr fun i => by rw [id?_eq_some_iff, string?_eq]

@[simp] theorem frozen_push (d : Lexicon) (s : String) (h : d.index[s]? = none) :
    (d.push s h).frozen = d.frozen := by
  cases d
  rfl

/-- A new string is numbered with how many there were before. -/
@[simp] theorem string?_push_size (d : Lexicon) (s : String) (h : d.index[s]? = none) :
    (d.push s h).string? d.size = some s := by
  rw [string?_eq, strings_push, ← length_strings, List.getElem?_concat_length]

theorem lt_size_of_string? {d : Lexicon} {i : Nat} {s : String} (h : d.string? i = some s) :
    i < d.size := by
  rw [string?_eq] at h
  rw [← length_strings]
  exact (List.getElem?_eq_some_iff.1 h).1

theorem nodup_strings (d : Lexicon) : d.strings.Nodup := by
  refine List.pairwise_iff_getElem.2 fun i j hi hj hij heq => ?_
  have hfirst : d.string? i = some d.strings[i] := by rw [string?_eq, List.getElem?_eq_getElem hi]
  have hsecond : d.string? j = some d.strings[j] := by rw [string?_eq, List.getElem?_eq_getElem hj]
  rw [← id?_eq_some_iff] at hfirst hsecond
  rw [heq, hsecond, Option.some.injEq] at hfirst
  omega

/-- A string has a number already, or is refused, or is added at the end. -/
theorem intern_cases (d : Lexicon) (s : String) :
    (∃ i, d.id? s = some i ∧ d.intern s = (d, .ok i)) ∨
      (d.id? s = none ∧ d.frozen = true ∧ d.intern s = (d, .error ⟨s⟩)) ∨
      ∃ h : d.index[s]? = none, d.frozen = false ∧ d.intern s = (d.push s h, .ok d.size) := by
  rw [intern]
  split
  · next i hi => exact .inl ⟨i, hi, rfl⟩
  · next hnone =>
    cases hfrozen : d.frozen with
    | true => exact .inr (.inl ⟨hnone, rfl, rfl⟩)
    | false => exact .inr (.inr ⟨hnone, rfl, rfl⟩)

/-! ### Keeping numbers -/

/-- A lexicon keeps the strings of another one in their places, and is as open as that. -/
structure Extends (d d' : Lexicon) : Prop where
  frozen : d'.frozen = d.frozen
  strings : d.strings <+: d'.strings

namespace Extends

variable {d d' d'' : Lexicon}

theorem refl (d : Lexicon) : Extends d d := ⟨rfl, List.prefix_rfl⟩

theorem trans (h : Extends d d') (h' : Extends d' d'') : Extends d d'' :=
  ⟨h'.frozen.trans h.frozen, h.strings.trans h'.strings⟩

/-- What a number stands for does not change. -/
theorem string? (h : Extends d d') {i : Nat} {s : String} (hs : d.string? i = some s) :
    d'.string? i = some s := by
  obtain ⟨added, hadded⟩ := h.strings
  rw [string?_eq] at hs ⊢
  obtain ⟨hi, -⟩ := List.getElem?_eq_some_iff.1 hs
  rw [← hadded, List.getElem?_append_left hi]
  exact hs

theorem id? (h : Extends d d') {s : String} {i : Nat} (hs : d.id? s = some i) :
    d'.id? s = some i := by
  rw [id?_eq_some_iff] at hs ⊢
  exact h.string? hs

end Extends

theorem extends_intern (d : Lexicon) (s : String) : Extends d (d.intern s).1 := by
  rcases intern_cases d s with ⟨i, -, h⟩ | ⟨-, -, h⟩ | ⟨hnew, -, h⟩
  · rw [h]
    exact .refl d
  · rw [h]
    exact .refl d
  · rw [h]
    exact ⟨frozen_push d s hnew, by rw [strings_push]; exact List.prefix_append d.strings [s]⟩

/-! ### New strings -/

/-- The strings of a list that are not known, in the order of their first occurrence. -/
def unseen (known ss : List String) : List String := (ss.removeAll known).eraseDups

@[simp] theorem unseen_nil (known : List String) : unseen known [] = [] := rfl

theorem unseen_append (known ss ts : List String) :
    unseen known (ss ++ ts) = unseen known ss ++ unseen (known ++ unseen known ss) ts := by
  have hboth : (ss ++ ts).removeAll known = ss.removeAll known ++ ts.removeAll known :=
    List.filter_append ..
  rw [unseen, hboth, List.eraseDups_append, unseen, unseen]
  congr 2
  simp only [List.removeAll, List.filter_filter]
  refine List.filter_congr fun t _ => ?_
  by_cases ht : t ∈ known <;> simp [ht]

/-- A lexicon is another one to which strings were added, each at its first occurrence. -/
structure Absorbs (d : Lexicon) (ss : List String) (d' : Lexicon) : Prop where
  frozen : d'.frozen = d.frozen
  strings : d'.strings = d.strings ++ unseen d.strings ss

namespace Absorbs

variable {d d' d'' : Lexicon} {ss ts : List String}

theorem nil (d : Lexicon) : Absorbs d [] d := ⟨rfl, (List.append_nil d.strings).symm⟩

theorem append (h : Absorbs d ss d') (h' : Absorbs d' ts d'') : Absorbs d (ss ++ ts) d'' where
  frozen := h'.frozen.trans h.frozen
  strings := by rw [h'.strings, h.strings, unseen_append, List.append_assoc]

theorem extend (h : Absorbs d ss d') : Extends d d' :=
  ⟨h.frozen, h.strings ▸ List.prefix_append d.strings _⟩

theorem subset (h : Absorbs d ss d') : ss ⊆ d'.strings := fun s hs => by
  rw [h.strings, List.mem_append, unseen, List.mem_eraseDups]
  by_cases hold : s ∈ d.strings
  · exact .inl hold
  · exact .inr (List.mem_filter.2 ⟨hs, by simpa using hold⟩)

end Absorbs

/-- A string that has a number is not added. -/
theorem absorbs_self {d : Lexicon} {s : String} {i : Nat} (h : d.id? s = some i) :
    Absorbs d [s] d := by
  have hmem : s ∈ d.strings := by rw [← contains_iff, contains, h, Option.isSome_some]
  refine ⟨rfl, ?_⟩
  simp [unseen, List.removeAll, hmem]

theorem absorbs_push {d : Lexicon} {s : String} (h : d.index[s]? = none) :
    Absorbs d [s] (d.push s h) := by
  have hmem : s ∉ d.strings := by
    rw [← contains_iff, contains, id?, h]
    exact Bool.false_ne_true
  refine ⟨frozen_push d s h, ?_⟩
  rw [strings_push]
  simp [unseen, List.removeAll, hmem, List.eraseDups_cons]

/-- A string that is given a number is taken in, and the number stands for it. -/
theorem intern_eq_ok {d d' : Lexicon} {s : String} {i : Nat} (h : d.intern s = (d', .ok i)) :
    Absorbs d [s] d' ∧ d'.string? i = some s := by
  rcases intern_cases d s with ⟨j, hj, hintern⟩ | ⟨-, -, hintern⟩ | ⟨hnew, -, hintern⟩
  · obtain ⟨rfl, hid⟩ := Prod.mk.inj (hintern.symm.trans h)
    obtain rfl := Except.ok.inj hid
    exact ⟨absorbs_self hj, (id?_eq_some_iff d s j).1 hj⟩
  · cases (Prod.mk.inj (hintern.symm.trans h)).2
  · obtain ⟨rfl, hid⟩ := Prod.mk.inj (hintern.symm.trans h)
    obtain rfl := Except.ok.inj hid
    exact ⟨absorbs_push hnew, string?_push_size d s hnew⟩

/-- A lexicon that is not frozen has a number for every string, which it takes in. -/
theorem intern_growing {d : Lexicon} (hgrowing : d.frozen = false) (s : String) :
    ∃ d' i, d.intern s = (d', .ok i) ∧ Absorbs d [s] d' ∧ d'.string? i = some s := by
  rcases intern_cases d s with ⟨i, -, h⟩ | ⟨-, hfrozen, -⟩ | ⟨hnew, -, h⟩
  · exact ⟨d, i, h, intern_eq_ok h⟩
  · rw [hgrowing] at hfrozen
    cases hfrozen
  · exact ⟨_, _, h, intern_eq_ok h⟩

theorem absorbs_internAll {d : Lexicon} (hgrowing : d.frozen = false) (ss : List String) :
    Absorbs d ss (d.internAll ss).1 := by
  induction ss generalizing d with
  | nil => exact .nil d
  | cons s ss ih =>
    obtain ⟨d', i, hintern, hfirst, -⟩ := intern_growing hgrowing s
    rw [internAll, hintern]
    exact hfirst.append (ih (hfirst.frozen.trans hgrowing))

theorem absorbs_ofStrings (ss : List String) : Absorbs empty ss (ofStrings ss) :=
  absorbs_internAll rfl ss

theorem Absorbs.strings_of_empty {ss : List String} {d : Lexicon} (h : Absorbs empty ss d) :
    d.strings = ss.eraseDups := by
  rw [h.strings, strings_empty, List.nil_append, unseen]
  congr 1
  exact List.filter_eq_self.2 fun _ _ => rfl

theorem strings_ofStrings (ss : List String) : (ofStrings ss).strings = ss.eraseDups :=
  (absorbs_ofStrings ss).strings_of_empty

/-- Strings that differ keep the places that they have in the list. -/
theorem strings_ofStrings_of_nodup {ss : List String} (h : ss.Nodup) :
    (ofStrings ss).strings = ss := by
  rw [strings_ofStrings]
  induction ss with
  | nil => rfl
  | cons s ss ih =>
    obtain ⟨hnew, hrest⟩ := List.nodup_cons.1 h
    have hkeep : ss.filter (fun t => !t == s) = ss := List.filter_eq_self.2 fun t ht => by
      simpa using ne_of_mem_of_not_mem ht hnew
    rw [List.eraseDups_cons, hkeep, ih hrest]

/-- Lexicons of the same strings answer alike. -/
theorem answers_eq_of_strings {d d' : Lexicon} (h : d'.strings = d.strings) :
    (∀ s, d'.id? s = d.id? s) ∧ ∀ i, d'.string? i = d.string? i := by
  have hstring : ∀ i, d'.string? i = d.string? i := fun i => by rw [string?_eq, string?_eq, h]
  refine ⟨fun s => Option.ext fun i => ?_, hstring⟩
  rw [id?_eq_some_iff, id?_eq_some_iff, hstring]

/-! ### Refusals -/

/-- A lexicon is frozen and does not know some of the strings that it is asked for. -/
def IsClosedTo (d : Lexicon) (ss : List String) : Prop :=
  d.frozen = true ∧ ∃ s ∈ ss, s ∉ d.strings

/-- The refusal of one of those strings. -/
structure Refuses (d : Lexicon) (ss : List String) (refusal : ReadOnly) : Prop where
  frozen : d.frozen = true
  mem : refusal.entry ∈ ss
  notMem : refusal.entry ∉ d.strings

namespace Refuses

variable {d d' : Lexicon} {ss ts : List String} {refusal : ReadOnly}

theorem mono (h : Refuses d ss refusal) (hsub : ss ⊆ ts) : Refuses d ts refusal :=
  ⟨h.frozen, hsub h.mem, h.notMem⟩

/-- What is refused after some growth would have been refused before. -/
theorem of_extends (h : Refuses d' ss refusal) (hd : Extends d d') : Refuses d ss refusal :=
  ⟨hd.frozen.symm.trans h.frozen, h.mem, fun hmem => h.notMem (hd.strings.subset hmem)⟩

end Refuses

theorem isClosedTo_iff {d : Lexicon} {ss : List String} :
    d.IsClosedTo ss ↔ ∃ refusal, d.Refuses ss refusal := by
  constructor
  · rintro ⟨hfrozen, s, hmem, hnotMem⟩
    exact ⟨⟨s⟩, hfrozen, hmem, hnotMem⟩
  · rintro ⟨refusal, hfrozen, hmem, hnotMem⟩
    exact ⟨hfrozen, refusal.entry, hmem, hnotMem⟩

theorem intern_eq_error {d d' : Lexicon} {s : String} {refusal : ReadOnly}
    (h : d.intern s = (d', .error refusal)) : d' = d ∧ Refuses d [s] refusal := by
  rcases intern_cases d s with ⟨i, -, hintern⟩ | ⟨hnone, hfrozen, hintern⟩ | ⟨hnew, -, hintern⟩
  · cases (Prod.mk.inj (hintern.symm.trans h)).2
  · obtain ⟨rfl, hrefusal⟩ := Prod.mk.inj (hintern.symm.trans h)
    obtain rfl := Except.error.inj hrefusal
    refine ⟨rfl, hfrozen, List.mem_singleton_self s, fun hmem => ?_⟩
    rw [← contains_iff, contains, hnone] at hmem
    cases hmem
  · cases (Prod.mk.inj (hintern.symm.trans h)).2

theorem intern_frozen {d : Lexicon} (hfrozen : d.frozen = true) (s : String) :
    (d.intern s).1 = d := by
  rcases intern_cases d s with ⟨i, -, hintern⟩ | ⟨-, -, hintern⟩ | ⟨hnew, hgrowing, -⟩
  · rw [hintern]
  · rw [hintern]
  · rw [hfrozen] at hgrowing
    cases hgrowing

/-- A lexicon is another one to which the first of the strings that were new to it were added, maybe
all of them; a frozen one stayed as it was. -/
structure AbsorbsSome (d : Lexicon) (ss : List String) (d' : Lexicon) : Prop where
  frozen : d'.frozen = d.frozen
  strings : ∃ added, added <+: unseen d.strings ss ∧ d'.strings = d.strings ++ added
  eq_of_frozen : d.frozen = true → d' = d

namespace AbsorbsSome

variable {d d' d'' : Lexicon} {ss ts : List String}

theorem refl (d : Lexicon) (ss : List String) : AbsorbsSome d ss d :=
  ⟨rfl, ⟨[], List.nil_prefix, (List.append_nil d.strings).symm⟩, fun _ => rfl⟩

/-- Strings that come later may still be missing. -/
theorem append_right (h : AbsorbsSome d ss d') (ts : List String) :
    AbsorbsSome d (ss ++ ts) d' := by
  obtain ⟨added, hadded, hstrings⟩ := h.strings
  refine ⟨h.frozen, ⟨added, ?_, hstrings⟩, h.eq_of_frozen⟩
  rw [unseen_append]
  exact hadded.trans (List.prefix_append _ _)

/-- What is added behind all strings of a list is added behind the list. -/
theorem append (h : AbsorbsSome d ss d') (hall : Absorbs d ss d') (h' : AbsorbsSome d' ts d'') :
    AbsorbsSome d (ss ++ ts) d'' := by
  obtain ⟨added, hadded, hstrings⟩ := h'.strings
  refine ⟨h'.frozen.trans h.frozen, ⟨unseen d.strings ss ++ added, ?_, ?_⟩, fun hfrozen => ?_⟩
  · rw [unseen_append, ← hall.strings]
    exact (List.prefix_append_right_inj _).2 hadded
  · rw [hstrings, hall.strings, List.append_assoc]
  · rw [h'.eq_of_frozen (h.frozen.trans hfrozen), h.eq_of_frozen hfrozen]

/-- All numbers are kept. -/
theorem extend (h : AbsorbsSome d ss d') : Extends d d' := by
  obtain ⟨added, -, hstrings⟩ := h.strings
  exact ⟨h.frozen, hstrings ▸ List.prefix_append d.strings added⟩

/-- Where nothing is missing, nothing was to be refused. -/
theorem not_refuses (h : AbsorbsSome d ss d') (hall : Absorbs d ss d') (refusal : ReadOnly) :
    ¬Refuses d ss refusal := fun hrefuses =>
  hrefuses.notMem (h.eq_of_frozen hrefuses.frozen ▸ hall.subset hrefuses.mem)

end AbsorbsSome

theorem absorbsSome_intern (d : Lexicon) (s : String) : AbsorbsSome d [s] (d.intern s).1 := by
  rcases hintern : d.intern s with ⟨d', result⟩
  cases result with
  | error refusal =>
    obtain ⟨rfl, -⟩ := intern_eq_error hintern
    exact .refl _ _
  | ok i =>
    obtain ⟨habsorbs, -⟩ := intern_eq_ok hintern
    have hfrozen (h : d.frozen = true) : d' = d :=
      (congrArg Prod.fst hintern).symm.trans (intern_frozen h s)
    exact ⟨habsorbs.frozen, ⟨_, List.prefix_rfl, habsorbs.strings⟩, hfrozen⟩

end NameTagger.Lexicon
