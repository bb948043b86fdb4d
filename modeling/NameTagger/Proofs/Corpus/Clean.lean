import NameTagger.Proofs.Corpus.Reading
import NameTagger.Proofs.Markup.TagName

/-!
# The tokens that a corpus can hold

* `IsLabelName`, `LabeledToken.IsClean`, `Corpus.IsClean`: labels, tokens and names as reading makes
  them;
* `Reader.IsClean`: a reader that has made no others, which every step preserves;
* `isClean_of_parse`: the corpus of a text is clean.
-/

namespace NameTagger

open Text

/-- A label that a token of a corpus can have. -/
structure Corpus.IsLabelName (label : String) : Prop where
  isWord : IsWord label.toList
  unbracketed : ∀ c ∈ label.toList, c ≠ '<' ∧ c ≠ '>'
  ne_name : label ≠ nameElement

/-- A token whose text is not empty and is the same once its words are joined by single spaces. -/
structure LabeledToken.IsClean (token : LabeledToken) : Prop where
  text : token.text ≠ ""
  squeezed : squeeze token.text.toList = token.text.toList
  label : Corpus.IsLabelName token.label

namespace LabeledToken.IsClean

variable {token : LabeledToken}

theorem isOneLine_text (h : token.IsClean) : IsOneLine token.text.toList :=
  h.squeezed ▸ isOneLine_squeeze token.text.toList

end LabeledToken.IsClean

namespace Corpus

open Markup

/-- No name of a corpus is empty, and all tokens are clean. -/
def IsClean (corpus : Corpus) : Prop :=
  ∀ sequence ∈ corpus, sequence ≠ [] ∧ ∀ token ∈ sequence, LabeledToken.IsClean token

/-- The tokens of an open name are clean, and so will be that of an open label. -/
inductive State.IsClean : State → Prop
  | outside : IsClean .outside
  | inName (start : Nat) {tokens : Array LabeledToken}
      (htokens : ∀ token ∈ tokens.toList, token.IsClean) : IsClean (.inName start tokens)
  | inLabel (start : Nat) {tokens : Array LabeledToken} {label : String} (labelStart : Nat)
      (raw : List Char) (htokens : ∀ token ∈ tokens.toList, token.IsClean)
      (hlabel : IsLabelName label) : IsClean (.inLabel start tokens label labelStart raw)

namespace Reader

/-- A reader all of whose tokens are clean. -/
structure IsClean (reader : Reader) : Prop where
  done : Corpus.IsClean reader.done.toList
  state : reader.state.IsClean

theorem isClean_close {done : Array Sequence} {tokens : Array LabeledToken}
    (hdone : Corpus.IsClean done.toList) (htokens : ∀ token ∈ tokens.toList, token.IsClean) :
    Corpus.IsClean (close done tokens).toList := by
  rw [toList_close]
  refine List.forall_mem_append.2 ⟨hdone, fun sequence hsequence => ?_⟩
  obtain ⟨hmem, hne⟩ := List.mem_filter.1 hsequence
  obtain rfl := List.mem_singleton.1 hmem
  exact ⟨of_decide_eq_true hne, htokens⟩

/-- The token of a label element has a text, as it is left out otherwise. -/
theorem isClean_label {tokens : Array LabeledToken} {name : String}
    (htokens : ∀ token ∈ tokens.toList, token.IsClean) (hname : IsLabelName name)
    (raw : List Char) : ∀ token ∈ (label tokens name (normalize raw)).toList, token.IsClean := by
  cases htext : normalize raw with
  | nil => exact htokens
  | cons c text =>
    show ∀ token ∈ (tokens.push ⟨String.ofList (c :: text), name⟩).toList, token.IsClean
    rw [Array.toList_push]
    refine List.forall_mem_append.2 ⟨htokens, List.forall_mem_singleton.2 ⟨?_, ?_, hname⟩⟩
    · exact fun hnil => List.cons_ne_nil c text (String.ofList_eq_empty_iff.1 hnil)
    · rw [String.toList_ofList, ← htext, normalize, squeeze_squeeze]

/-- What one step preserves. -/
theorem IsClean.move {reader reader' : Reader} {event : Event} (h : reader.IsClean)
    (hmove : Move reader event reader')
    (hnamed : ∀ tag, event.item = .tag tag → tag.IsNamed) : reader'.IsClean := by
  obtain ⟨hdone, hstate⟩ := h
  cases hmove with
  | skip => exact ⟨hdone, hstate⟩
  | openName => exact ⟨hdone, .inName _ fun _ htoken => absurd htoken List.not_mem_nil⟩
  | passText => exact ⟨hdone, hstate⟩
  | passSingle => exact ⟨hdone, hstate⟩
  | openLabel _ _ _ _ label hlabel =>
    cases hstate with
    | inName _ htokens =>
      obtain ⟨hword, hinner⟩ := hnamed ⟨.opening, label⟩ rfl
      exact ⟨hdone, .inLabel _ _ _ htokens ⟨hword, hinner, hlabel⟩⟩
  | closeName =>
    cases hstate with
    | inName _ htokens => exact ⟨isClean_close hdone htokens, .outside⟩
  | keepText =>
    cases hstate with
    | inLabel _ _ _ htokens hlabel => exact ⟨hdone, .inLabel _ _ _ htokens hlabel⟩
  | closeLabel =>
    cases hstate with
    | inLabel _ _ _ htokens hlabel => exact ⟨hdone, .inName _ (isClean_label htokens hlabel _)⟩

/-- What all steps preserve. -/
theorem IsClean.foldlM {reader reader' : Reader} {events : List Event} (h : reader.IsClean)
    (hnamed : ∀ event ∈ events, ∀ tag, event.item = .tag tag → tag.IsNamed)
    (hrun : events.foldlM Reader.step reader = .ok reader') : reader'.IsClean := by
  induction events generalizing reader with
  | nil =>
    cases hrun
    exact h
  | cons event events ih =>
    obtain ⟨hevent, hevents⟩ := List.forall_mem_cons.1 hnamed
    rw [List.foldlM_cons] at hrun
    cases hstep : reader.step event with
    | error v =>
      rw [hstep] at hrun
      cases hrun
    | ok middle =>
      rw [hstep] at hrun
      exact ih (h.move (.of_step hstep) hevent) hevents hrun

end Reader

/-- Whatever a text holds, the corpus that it describes has clean tokens only. -/
theorem isClean_of_parse {text : String} {corpus : Corpus} (h : parse text = .ok corpus) :
    corpus.IsClean := by
  have hread := parse_eq_ok_iff.1 h
  rw [Reader.read, Reader.readScan] at hread
  cases hrun : (scanFrom 0 text.toList).events.foldlM Reader.step .start with
  | error v =>
    rw [hrun] at hread
    cases hread
  | ok reader =>
    have hclean : reader.IsClean := by
      have hstart : Reader.start.IsClean :=
        ⟨fun _ hsequence => absurd hsequence List.not_mem_nil, .outside⟩
      exact hstart.foldlM (fun _ hevent _ => isNamed_of_mem_events hevent) hrun
    rw [hrun] at hread
    obtain ⟨done, state⟩ := reader
    cases hhalt : (scanFrom 0 text.toList).halt? with
    | some halt =>
      rw [hhalt] at hread
      cases hread
    | none =>
      rw [hhalt] at hread
      cases state <;> cases hread
      exact hclean.done

end Corpus

end NameTagger
