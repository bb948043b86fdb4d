import NameTagger.Proofs.Instance.Learn

/-!
# The instances of a corpus

While a corpus is learned, numbers are given out by a vocabulary that still grows.  At the end each
instance is what the whole vocabulary recognizes of its name, and the vocabulary has grown by just
what was new in the corpus.

* `Instance.IsSettled`: an instance of a labeled name by the vocabulary at the end;
* `Instance.Renders.isSettled`: an instance that stands for its name is such an instance;
* `Vocabulary.learnCorpus_growing`: the instances of a corpus, and the vocabulary behind them.
-/

namespace NameTagger

variable {W : Type} [OfScientific W]

namespace Instance

/-- An instance of a labeled name is what a vocabulary recognizes of it, with the numbers of its
labels. -/
structure IsSettled (v : Vocabulary) (groups : List String) (sequence : Sequence)
    (inst : Instance W) : Prop where
  items_eq : inst.items = (recognize v.attrs (Vocabulary.cells sequence) groups).items
  labels_eq : inst.labels.map v.labels.string? = sequence.labels.map some
  attr_lt : ∀ item ∈ inst.items, ∀ entry ∈ item, entry.1 < v.attrs.size
  label_lt : ∀ id ∈ inst.labels, id < v.labels.size
  training : inst.training = true

/-- Items that stand for the features of several tokens are those that are recognized. -/
theorem items_eq_map_known {W : Type} {attrs : Lexicon} {items : List (Item W)}
    {tokens : List (List (Feature W))} (h : List.Forall₂ (Denotes attrs) items tokens) :
    items = tokens.map (known attrs) := by
  induction h with
  | nil => rfl
  | cons hitem _ ih => rw [List.map_cons, ← hitem.eq_known, ← ih]

theorem Renders.isSettled {v : Vocabulary} {groups : List String} {sequence : Sequence}
    {inst : Instance W}
    (h : Renders v inst (Feature.extractAll (Vocabulary.cells sequence) groups) sequence.labels) :
    IsSettled v groups sequence inst where
  items_eq := items_eq_map_known h.items
  labels_eq := by
    have hlabels := h.labels
    rw [← List.forall₂_eq_eq_eq, List.forall₂_map_left_iff, List.forall₂_map_right_iff]
    exact hlabels
  attr_lt := forall_mem_left h.items fun _ _ hitem => hitem.lt_size
  label_lt := forall_mem_left h.labels fun _ _ hlabel => Lexicon.lt_size_of_string? hlabel
  training := h.training

end Instance

namespace Vocabulary

/-- A vocabulary that grows learns every corpus: there is an instance for each name, in order, which
is as the vocabulary at the end recognizes it.  The names of features and the labels that were new
have come behind the old ones, in the order of their first occurrence. -/
theorem learnCorpus_growing {v : Vocabulary} (hv : v.IsGrowing) (corpus : Corpus)
    (groups : List String) :
    ∃ (v' : Vocabulary) (instances : List (Instance W)),
      v.learnCorpus corpus groups = (v', .ok instances) ∧
      List.Forall₂ (fun inst sequence => Instance.IsSettled v' groups sequence inst)
        instances corpus ∧
      v'.attrs.strings =
        v.attrs.strings ++ Lexicon.unseen v.attrs.strings (featureNames W groups corpus) ∧
      v'.labels.strings =
        v.labels.strings ++ Lexicon.unseen v.labels.strings corpus.labels := by
  obtain ⟨v', instances, hlearn, habsorbs, hinstances⟩ :=
    learnFrom_growing (W := W) hv groups #[] corpus
  refine ⟨v', instances, ?_, ?_, habsorbs.attrs.strings, habsorbs.labels.strings⟩
  · rw [learnCorpus, hlearn, List.nil_append]
  · exact hinstances.imp fun _ _ hinst => hinst.isSettled

/-- Of two names that share a token and a label that is known, only what is new is added. -/
theorem learnCorpus_growing_shared :
    let v : Vocabulary := ⟨.ofStrings ["bias"], .ofStrings ["Surname"]⟩
    let corpus : Corpus :=
      [[⟨"Mr.", "Title"⟩, ⟨"Smith", "Surname"⟩], [⟨"Smith", "Surname"⟩]]
    v.IsGrowing ∧ ∃ (v' : Vocabulary) (instances : List (Instance Float)),
      v.learnCorpus corpus ["identity"] = (v', .ok instances) ∧
      List.Forall₂ (fun inst sequence => Instance.IsSettled v' ["identity"] sequence inst)
        instances corpus ∧
      v'.attrs.strings = ["bias", "token:Mr.", "lower:mr.", "nopunc:mr", "token:Smith",
        "lower:smith", "nopunc:smith"] ∧
      v'.labels.strings = ["Surname", "Title"] := by
  intro v corpus
  have hv : v.IsGrowing :=
    ⟨(Lexicon.absorbs_ofStrings ["bias"]).frozen, (Lexicon.absorbs_ofStrings ["Surname"]).frozen⟩
  obtain ⟨v', instances, hlearn, hinstances, hattrs, hlabels⟩ :=
    learnCorpus_growing (W := Float) hv corpus ["identity"]
  refine ⟨hv, v', instances, hlearn, hinstances, hattrs.trans ?_, hlabels.trans ?_⟩
  · rw [Lexicon.strings_ofStrings]
    decide
  · rw [Lexicon.strings_ofStrings]
    decide

end Vocabulary

end NameTagger
