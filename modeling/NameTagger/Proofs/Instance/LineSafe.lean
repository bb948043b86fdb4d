import NameTagger.Proofs.Corpus.Clean
import NameTagger.Proofs.Feature.OneLine
import NameTagger.Proofs.Instance.Learn

/-!
# Vocabularies that can be written line by line

Each string of a stored vocabulary takes up a line.  A corpus that was read from a text brings in no
string that would take up another number of lines.

* `Lexicon.mem_of_absorbs`: where the strings of a lexicon come from;
* `isOneLine_of_mem_cells`: the texts of a clean name are on one line;
* `isLineSafe_of_mem_featureNames`, `isLabelName_of_mem_labels`: the strings of a clean corpus;
* `learnCorpus_lineSafe`: what a vocabulary learns from a text.
-/

namespace NameTagger

open Text

theorem Lexicon.mem_of_absorbs {d d' : Lexicon} {ss : List String} (h : d.Absorbs ss d')
    {s : String} (hs : s ∈ d'.strings) : s ∈ d.strings ∨ s ∈ ss := by
  rw [h.strings, List.mem_append] at hs
  refine hs.imp_right fun hnew => ?_
  exact (List.mem_filter.1 (List.mem_eraseDups.1 hnew)).1

namespace Vocabulary

/-- A name of a feature that can be stored: it is not empty, not too long and on one line. -/
structure IsLineSafe (name : String) : Prop where
  pos : 1 ≤ name.length
  short : name.length ≤ 128
  oneLine : IsOneLine name.toList

theorem text_mem_of_mem_cells {sequence : Sequence} {cell : Feature.Cell}
    (h : cell ∈ cells sequence) : ∃ token ∈ sequence, cell.text = some token.text := by
  obtain ⟨token, htoken, rfl⟩ := List.mem_map.1 h
  have htext : token.text ∈ (Token.ofTexts sequence.texts).map Token.text :=
    List.mem_map_of_mem htoken
  rw [Token.map_text_ofTexts] at htext
  obtain ⟨labeled, hlabeled, heq⟩ := List.mem_map.1 htext
  exact ⟨labeled, hlabeled, congrArg some heq.symm⟩

theorem isOneLine_of_mem_cells {sequence : Sequence} (h : ∀ token ∈ sequence, token.IsClean) :
    ∀ cell ∈ cells sequence, cell.IsOneLine := by
  intro cell hcell
  obtain ⟨token, htoken, htext⟩ := text_mem_of_mem_cells hcell
  exact ⟨token.text, htext, (h token htoken).isOneLine_text⟩

variable {W : Type} [OfScientific W]

theorem isLineSafe_of_mem_featureNames {corpus : Corpus} (h : corpus.IsClean)
    {groups : List String} {name : String} (hname : name ∈ featureNames W groups corpus) :
    IsLineSafe name := by
  obtain ⟨sequence, hsequence, hname⟩ := List.mem_flatMap.1 hname
  obtain ⟨features, hfeatures, hname⟩ := List.mem_flatMap.1 hname
  obtain ⟨feature, hfeature, rfl⟩ := List.mem_map.1 hname
  obtain ⟨hshort, hline⟩ := Feature.oneLine_of_mem_extractAll
    (isOneLine_of_mem_cells (h sequence hsequence).2) hfeatures feature hfeature
  have hne := Feature.name_ne_empty_of_mem_extractAll hfeatures feature hfeature
  refine ⟨?_, ?_, hline⟩
  · rw [← String.length_toList]
    exact List.length_pos_of_ne_nil fun hnil => hne (String.toList_eq_nil_iff.1 hnil)
  · rw [← String.length_toList]
    exact hshort

theorem isLabelName_of_mem_labels {corpus : Corpus} (h : corpus.IsClean) {label : String}
    (hlabel : label ∈ corpus.labels) : Corpus.IsLabelName label := by
  obtain ⟨sequence, hsequence, hlabel⟩ := List.mem_flatMap.1 hlabel
  obtain ⟨token, htoken, rfl⟩ := List.mem_map.1 hlabel
  exact ((h sequence hsequence).2 token htoken).label

variable (W) in
/-- Whatever a text holds in its label elements, the corpus that it describes is clean, and a
vocabulary that grows learns it.  All names of features that come in are safe, and so are all
labels: no string that was not there before has white space other than spaces. -/
theorem learnCorpus_lineSafe {text : String} {corpus : Corpus}
    (h : Corpus.parse text = .ok corpus) {v : Vocabulary} (hv : v.IsGrowing)
    (groups : List String) :
    corpus.IsClean ∧ ∃ (v' : Vocabulary) (instances : List (Instance W)),
      v.learnCorpus corpus groups = (v', .ok instances) ∧
      (∀ name ∈ v'.attrs.strings, name ∈ v.attrs.strings ∨ IsLineSafe name) ∧
      ∀ label ∈ v'.labels.strings, label ∈ v.labels.strings ∨
        Corpus.IsLabelName label ∧ IsOneLine label.toList := by
  have hclean := Corpus.isClean_of_parse h
  obtain ⟨v', instances, hlearn, habsorbs, -⟩ := learnFrom_growing (W := W) hv groups #[] corpus
  refine ⟨hclean, v', instances, by rw [learnCorpus, hlearn, List.nil_append], ?_, ?_⟩
  · intro name hname
    exact (Lexicon.mem_of_absorbs habsorbs.attrs hname).imp_right
      (isLineSafe_of_mem_featureNames hclean)
  · intro label hlabel
    refine (Lexicon.mem_of_absorbs habsorbs.labels hlabel).imp_right fun hnew => ?_
    have hname := isLabelName_of_mem_labels hclean hnew
    exact ⟨hname, hname.isWord.isOneLine⟩

/-- A text with line breaks and separators as references, beside a comment and as such. -/
theorem learnCorpus_lineSafe_references :
    let text := "<Name>\n<GivenName>O&#10;Hara<!-- \n -->&#x2028;\r\nJr.&nbsp;</GivenName></Name>"
    Corpus.parse text = .ok [[⟨"O Hara Jr.", "GivenName"⟩]] ∧ empty.IsGrowing ∧
      ∃ (v' : Vocabulary) (instances : List (Instance Float)),
        empty.learnCorpus [[⟨"O Hara Jr.", "GivenName"⟩]] ["identity", "shape"] =
          (v', .ok instances) ∧
        (∀ name ∈ v'.attrs.strings, IsLineSafe name) ∧
        ∀ label ∈ v'.labels.strings, IsOneLine label.toList := by
  intro text
  have hparse : Corpus.parse text = .ok [[⟨"O Hara Jr.", "GivenName"⟩]] := by decide +kernel
  obtain ⟨-, v', instances, hlearn, hattrs, hlabels⟩ :=
    learnCorpus_lineSafe Float hparse isGrowing_empty ["identity", "shape"]
  refine ⟨hparse, isGrowing_empty, v', instances, hlearn, fun name hname => ?_,
    fun label hlabel => ?_⟩
  · exact (hattrs name hname).resolve_left List.not_mem_nil
  · exact ((hlabels label hlabel).resolve_left List.not_mem_nil).2

end Vocabulary

end NameTagger
