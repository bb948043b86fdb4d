import NameTagger.Lexicon.Numbering
import NameTagger.Proofs.Decimal.Integer
import NameTagger.Proofs.Lexicon
import NameTagger.Proofs.Order.Stable

/-!
# Lexicons that are put together again

The strings of a lexicon may be listed in any order, each with a number: an integer or a text that
spells one.  Only the order of the integers counts, so a lexicon comes out as it was if they ascend
with its own numbers, whatever gaps there are between them.

* `SourceId.Denotes`, `SourceId.IsShort`: a number as it is written, which may be too long to be
  read;
* `SourceId.integer`, `IsNumbered`: numbers that are read;
* `exists_ofNumbered`: the lexicon of a list whose numbers are read holds what is listed, sorted;
* `Precedes`, `pairwise_precedes`: the order that a list gives its strings;
* `Lists`, `Lists.map_mergeSort`: a list of all strings of a lexicon, and how it is sorted;
* `ofNumbered_rebuilds`: a lexicon that is listed comes out as it was.
-/

namespace NameTagger

namespace SourceId

/-- A number is an integer or a text that spells one. -/
inductive Denotes : SourceId → Int → Prop
  | int (n : Int) : Denotes (.int n) n
  | text {s : String} {digits : List Char} {n : Int} (h : Decimal.Spells s digits n) :
      Denotes (.text s) n

/-- What spells an integer has not more digits than are read. -/
def IsShort (id : SourceId) : Prop :=
  ∀ s digits n, id = .text s → Decimal.Spells s digits n → digits.length ≤ Decimal.longestInteger

theorem isShort_text {s : String} (h : s.toList.length ≤ Decimal.longestInteger) :
    IsShort (.text s) := by
  intro t digits n heq hspells
  obtain rfl := SourceId.text.inj heq
  have hle : digits.length ≤ s.toList.length := by
    rcases hspells.toList_eq with ⟨hs | hs, -⟩ | ⟨hs, -⟩ <;> simp [hs]
  exact hle.trans h

theorem Denotes.value_eq {id : SourceId} {n : Int} (h : id.Denotes n) (hshort : id.IsShort) :
    id.value = .ok n := by
  cases h with
  | int => rfl
  | text hspells =>
    have hlength := hshort _ _ _ rfl hspells
    rw [value, ofText, Decimal.readInteger_of_spells hspells, if_neg (Nat.not_lt.2 hlength)]

/-- The integer of a number, zero if there is none. -/
def integer (id : SourceId) : Int :=
  match id.value with
  | .ok n => n
  | .error _ => 0

theorem integer_eq {id : SourceId} {n : Int} (h : id.value = .ok n) : id.integer = n := by
  rw [integer, h]

theorem value_eq_integer {id : SourceId} (h : ∃ n, id.value = .ok n) :
    id.value = .ok id.integer := by
  obtain ⟨n, hn⟩ := h
  rw [integer_eq hn, hn]

end SourceId

namespace Lexicon

variable {d : Lexicon} {listed : List (String × SourceId)}

/-! ### Sorting what is listed -/

/-- All numbers of a list are read. -/
def IsNumbered (listed : List (String × SourceId)) : Prop :=
  ∀ entry ∈ listed, ∃ n, entry.2.value = .ok n

theorem values_eq_ok (h : IsNumbered listed) :
    values listed = .ok (listed.map fun entry => (entry.1, entry.2.integer)) := by
  induction listed with
  | nil => rfl
  | cons entry listed ih =>
    obtain ⟨hentry, hlisted⟩ := List.forall_mem_cons.1 h
    rw [values, SourceId.value_eq_integer hentry, ih hlisted]
    rfl

/-- The order by integers. -/
def below (a b : String × SourceId) : Bool := a.2.integer ≤ b.2.integer

theorem below_trans (a b c : String × SourceId) : below a b → below b c → below a c := by
  simp only [below, decide_eq_true_eq]
  exact le_trans

theorem below_total (a b : String × SourceId) : below a b || below b a := by
  simp only [below, Bool.or_eq_true, decide_eq_true_eq]
  exact le_total _ _

theorem ofNumbered_eq_ok (h : IsNumbered listed) :
    ofNumbered listed = .ok (ofStrings ((listed.mergeSort below).map (·.1))).freeze := by
  have hsort := List.map_mergeSort (r := below) (s := fun a b => decide (a.2 ≤ b.2))
    (f := fun entry => (entry.1, entry.2.integer)) (l := listed) fun _ _ _ _ => rfl
  rw [ofNumbered, values_eq_ok h]
  show Except.ok _ = _
  rw [← hsort, List.map_map]
  rfl

/-- A list in which no string is repeated makes a frozen lexicon of its strings, sorted. -/
theorem exists_ofNumbered (h : IsNumbered listed) (hkeys : (listed.map (·.1)).Nodup) :
    ∃ d', ofNumbered listed = .ok d' ∧ d'.frozen = true ∧
      d'.strings = (listed.mergeSort below).map (·.1) := by
  refine ⟨_, ofNumbered_eq_ok h, rfl, ?_⟩
  rw [strings_freeze, strings_ofStrings_of_nodup]
  exact ((List.mergeSort_perm listed below).map _).nodup_iff.2 hkeys

/-! ### The order of a list -/

/-- A listed string has a smaller integer than another one, or the same and comes first. -/
def Precedes (listed : List (String × SourceId)) (s t : String) : Prop :=
  ∃ a m b n, (s, a) ∈ listed ∧ (t, b) ∈ listed ∧ a.value = .ok m ∧ b.value = .ok n ∧
    (m < n ∨ m = n ∧ [(s, a), (t, b)].Sublist listed)

theorem pairwise_precedes (h : IsNumbered listed) :
    ((listed.mergeSort below).map (·.1)).Pairwise (Precedes listed) := by
  have hsorted := Order.pairwise_mergeSort_tie below_trans below_total
    (List.pairwise_iff_forall_sublist.2 fun {a b} (h : [a, b].Sublist listed) => h)
  refine List.pairwise_map.2 (hsorted.imp_of_mem fun {a b} ha hb hab => ?_)
  rw [List.mem_mergeSort] at ha hb
  obtain ⟨hbelow, htie⟩ := hab
  simp only [below, decide_eq_true_eq] at hbelow htie
  refine ⟨a.2, a.2.integer, b.2, b.2.integer, ha, hb, SourceId.value_eq_integer (h a ha),
    SourceId.value_eq_integer (h b hb), ?_⟩
  rcases lt_or_eq_of_le hbelow with hlt | heq
  · exact .inl hlt
  · exact .inr ⟨heq, htie heq.ge⟩

/-! ### A lexicon that is listed -/

/-- All strings of a lexicon are listed in some order with numbers, whose integers by `R` ascend
with those of the lexicon. -/
def Lists (R : SourceId → Int → Prop) (d : Lexicon) (listed : List (String × SourceId)) : Prop :=
  ∃ ids ns, ids.length = d.size ∧ listed.Perm (d.strings.zip ids) ∧ List.Forall₂ R ids ns ∧
    ns.Pairwise (· < ·)

theorem lists_ofStrings {R : SourceId → Int → Prop} {ss : List String} {ids : List SourceId}
    {ns : List Int} (hss : ss.Nodup) (hlength : ids.length = ss.length)
    (hperm : listed.Perm (ss.zip ids)) (hids : List.Forall₂ R ids ns)
    (hascending : ns.Pairwise (· < ·)) : Lists R (ofStrings ss) listed := by
  have hstrings := strings_ofStrings_of_nodup hss
  refine ⟨ids, ns, ?_, ?_, hids, hascending⟩
  · rw [← length_strings, hstrings, hlength]
  · rw [hstrings]
    exact hperm

/-- A number is read as an integer. -/
def IsRead (id : SourceId) (n : Int) : Prop := id.value = .ok n

variable {ids : List SourceId} {ns : List Int}

theorem map_integer_eq (h : List.Forall₂ IsRead ids ns) : ids.map (·.integer) = ns := by
  have heq := h.imp fun _ _ => SourceId.integer_eq
  rwa [← List.forall₂_map_left_iff (f := SourceId.integer), List.forall₂_eq_eq_eq] at heq

theorem exists_of_forall₂ (h : List.Forall₂ IsRead ids ns) : ∀ id ∈ ids, ∃ n, id.value = .ok n := by
  induction h with
  | nil => exact List.forall_mem_nil _
  | cons hid _ ih => exact List.forall_mem_cons.2 ⟨⟨_, hid⟩, ih⟩

/-- Strings that are listed with ascending numbers are sorted back into their order. -/
theorem Lists.map_mergeSort (h : Lists IsRead d listed) :
    IsNumbered listed ∧ (listed.mergeSort below).map (·.1) = d.strings := by
  obtain ⟨ids, ns, hlength, hperm, hread, hascending⟩ := h
  rw [← length_strings] at hlength
  have hkeys : (d.strings.zip ids).map (·.2.integer) = ns := by
    rw [← map_integer_eq hread, ← List.map_snd_zip hlength.le, List.map_map,
      List.map_snd_zip hlength.le]
    rfl
  have hascends : (d.strings.zip ids).Pairwise fun a b => a.2.integer < b.2.integer := by
    rwa [← hkeys, List.pairwise_map] at hascending
  have hinj := List.inj_on_of_nodup_map (hkeys ▸ hascending.imp ne_of_lt)
  refine ⟨fun entry hentry => ?_, ?_⟩
  · exact exists_of_forall₂ hread _ (List.of_mem_zip (hperm.mem_iff.1 hentry)).2
  · have hsorted : (listed.mergeSort below).Perm (d.strings.zip ids) :=
      (List.mergeSort_perm _ _).trans hperm
    have hbelow := List.pairwise_mergeSort below_trans below_total listed
    simp only [below, decide_eq_true_eq] at hbelow
    rw [hsorted.eq_of_pairwise (fun a b ha hb hab hba => hinj (hsorted.mem_iff.1 ha) hb
      (le_antisymm hab hba)) hbelow (hascends.imp le_of_lt), List.map_fst_zip hlength.ge]

/-- The strings of a lexicon that are listed in any order, with numbers that ascend with its own,
make a frozen lexicon with the same answers.  Any other list of numbered strings makes one of these
strings in the order of their integers, and of the list where these are equal. -/
theorem ofNumbered_rebuilds :
    (∀ id n, SourceId.Denotes id n → id.IsShort → id.value = .ok n) ∧
    (∀ d listed, Lists IsRead d listed →
      ∃ d', ofNumbered listed = .ok d' ∧ d'.frozen = true ∧ d'.strings = d.strings ∧
        (∀ s, d'.id? s = d.id? s) ∧ ∀ i, d'.string? i = d.string? i) ∧
    ∀ listed, (listed.map (·.1)).Nodup → IsNumbered listed →
      ∃ d', ofNumbered listed = .ok d' ∧ d'.frozen = true ∧
        d'.strings.Perm (listed.map (·.1)) ∧ d'.strings.Pairwise (Precedes listed) := by
  refine ⟨fun id n => SourceId.Denotes.value_eq, fun d listed hlists => ?_,
    fun listed hkeys hnumbered => ?_⟩
  · obtain ⟨hnumbered, hsorted⟩ := hlists.map_mergeSort
    have hkeys : (listed.map (·.1)).Nodup := by
      rw [← ((List.mergeSort_perm listed below).map _).nodup_iff, hsorted]
      exact nodup_strings d
    obtain ⟨d', hok, hfrozen, hstrings⟩ := exists_ofNumbered hnumbered hkeys
    rw [hsorted] at hstrings
    exact ⟨d', hok, hfrozen, hstrings, answers_eq_of_strings hstrings⟩
  · obtain ⟨d', hok, hfrozen, hstrings⟩ := exists_ofNumbered hnumbered hkeys
    refine ⟨d', hok, hfrozen, ?_, ?_⟩
    · rw [hstrings]
      exact (List.mergeSort_perm listed below).map _
    · rw [hstrings]
      exact pairwise_precedes hnumbered

/-- Nine comes before ten, though not as a text, and a number may be repeated. -/
theorem ofNumbered_rebuilds_ten :
    (∃ d', ofNumbered [("a", .text "10"), ("b", .text "9")] = .ok d' ∧ d'.frozen = true ∧
      d'.strings = ["b", "a"] ∧ d'.id? "a" = some 1) ∧
    ∃ d', ofNumbered [("a", .text "+7"), ("b", .int (-1)), ("c", .int 7)] = .ok d' ∧
      d'.frozen = true ∧ d'.strings.Perm ["a", "b", "c"] ∧
      d'.strings.Pairwise (Precedes [("a", .text "+7"), ("b", .int (-1)), ("c", .int 7)]) := by
  obtain ⟨hvalue, hrebuild, hordered⟩ := ofNumbered_rebuilds
  have hread {s : String} {digits : List Char} {n : Int} (h : Decimal.Spells s digits n)
      (hlength : s.toList.length ≤ Decimal.longestInteger) : IsRead (.text s) n :=
    hvalue _ _ (.text h) (SourceId.isShort_text hlength)
  have hnine : IsRead (.text "9") 9 :=
    hread ⟨List.cons_ne_nil '9' [], by decide, by decide⟩ (by decide)
  have hten : IsRead (.text "10") 10 :=
    hread ⟨List.cons_ne_nil '1' ['0'], by decide, by decide⟩ (by decide)
  have hseven : IsRead (.text "+7") 7 :=
    hread ⟨List.cons_ne_nil '7' [], by decide, by decide⟩ (by decide)
  constructor
  · have hlists : Lists IsRead (ofStrings ["b", "a"]) [("a", .text "10"), ("b", .text "9")] :=
      lists_ofStrings (by decide) rfl (.swap _ _ _) (.cons hnine (.cons hten .nil)) (by decide)
    obtain ⟨d', hok, hfrozen, hstrings, -⟩ := hrebuild _ _ hlists
    rw [strings_ofStrings_of_nodup (by decide)] at hstrings
    refine ⟨d', hok, hfrozen, hstrings, ?_⟩
    rw [id?_eq_some_iff, string?_eq, hstrings]
    rfl
  · refine hordered _ (by decide) fun entry hentry => ?_
    simp only [List.mem_cons, List.not_mem_nil, or_false] at hentry
    rcases hentry with rfl | rfl | rfl
    · exact ⟨7, hseven⟩
    · exact ⟨-1, rfl⟩
    · exact ⟨7, rfl⟩

/-- A text that spells a number is refused if it is too long. -/
theorem not_ofNumbered_overlong :
    let ones := String.ofList (List.replicate 4301 '1')
    Lists SourceId.Denotes (ofStrings ["a"]) [("a", .text ones)] ∧
      ofNumbered [("a", .text ones)] =
        .error ⟨.value, SourceId.problemText ones (.overlong 4301)⟩ := by
  intro ones
  have hdigits : Decimal.IsDigits (List.replicate 4301 '1') := fun c hc => by
    rw [List.eq_of_mem_replicate hc]
    decide
  have hspells : Decimal.Spells ones (List.replicate 4301 '1')
      (Decimal.valueOf (List.replicate 4301 '1')) :=
    ⟨List.cons_ne_nil '1' _, hdigits, .inl ⟨.inl String.toList_ofList, rfl⟩⟩
  refine ⟨lists_ofStrings (by decide) rfl (.refl _) (.cons (.text hspells) .nil)
    (List.pairwise_singleton _ _), ?_⟩
  have hread := Decimal.readInteger_of_spells hspells
  rw [List.length_replicate, if_pos (by decide)] at hread
  rw [ofNumbered, values, SourceId.value, SourceId.ofText, hread]
  rfl

end Lexicon

end NameTagger
