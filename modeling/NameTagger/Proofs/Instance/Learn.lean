import NameTagger.Instance.Learn
import NameTagger.Proofs.Instance.Vector
import NameTagger.Proofs.Token

/-!
# Learning with a vocabulary that grows

A vocabulary that is not frozen numbers whatever comes, and keeps the numbers that it gave.  So each
instance stands for the features and the labels of its name, also by the vocabulary at the end.

* `Vocabulary.Extends`, `Vocabulary.IsGrowing`;
* `Vocabulary.Absorbs`: a vocabulary to which the names of features and labels were added;
* `Instance.Renders`: an instance stands for the features and the labels of its tokens;
* `Vocabulary.number_eq_ok` to `learn_eq_ok`: what is behind the items of one token, of several ones
  and of a name that have been numbered, also if no vocabulary was growing;
* `Vocabulary.number_growing` to `learnFrom_growing`: a vocabulary that grows numbers one token, the
  tokens of a name, a name and a list of names, each from the one before.
-/

namespace NameTagger

variable {W : Type}

namespace Vocabulary

/-- A vocabulary keeps all numbers of another one. -/
structure Extends (v v' : Vocabulary) : Prop where
  attrs : v.attrs.Extends v'.attrs
  labels : v.labels.Extends v'.labels

theorem Extends.refl (v : Vocabulary) : Extends v v := ⟨.refl v.attrs, .refl v.labels⟩

theorem Extends.trans {v v' v'' : Vocabulary} (h : Extends v v') (h' : Extends v' v'') :
    Extends v v'' :=
  ⟨h.attrs.trans h'.attrs, h.labels.trans h'.labels⟩

/-- Neither lexicon is frozen. -/
structure IsGrowing (v : Vocabulary) : Prop where
  attrs : v.attrs.frozen = false
  labels : v.labels.frozen = false

theorem IsGrowing.extend {v v' : Vocabulary} (h : v.IsGrowing) (hv : v.Extends v') :
    v'.IsGrowing :=
  ⟨hv.attrs.frozen.trans h.attrs, hv.labels.frozen.trans h.labels⟩

theorem isGrowing_empty : empty.IsGrowing := ⟨rfl, rfl⟩

/-- A vocabulary is another one to which the names of features and labels were added. -/
structure Absorbs (v : Vocabulary) (names gold : List String) (v' : Vocabulary) : Prop where
  attrs : v.attrs.Absorbs names v'.attrs
  labels : v.labels.Absorbs gold v'.labels

namespace Absorbs

variable {v v' v'' : Vocabulary} {names names' gold gold' : List String}

theorem nil (v : Vocabulary) : Absorbs v [] [] v := ⟨.nil v.attrs, .nil v.labels⟩

theorem append (h : Absorbs v names gold v') (h' : Absorbs v' names' gold' v'') :
    Absorbs v (names ++ names') (gold ++ gold') v'' :=
  ⟨h.attrs.append h'.attrs, h.labels.append h'.labels⟩

theorem extend (h : Absorbs v names gold v') : Extends v v' :=
  ⟨h.attrs.extend, h.labels.extend⟩

end Absorbs

end Vocabulary

/-- The names of the features of several tokens, in order. -/
def Feature.names (tokens : List (List (Feature W))) : List String :=
  tokens.flatMap fun features => features.map Feature.name

namespace Instance

/-- An instance stands for the features and the given labels of its tokens. -/
structure Renders (v : Vocabulary) (inst : Instance W) (features : List (List (Feature W)))
    (gold : List String) : Prop where
  items : List.Forall₂ (Denotes v.attrs) inst.items features
  labels : List.Forall₂ (fun id label => v.labels.string? id = some label) inst.labels gold
  training : inst.training = true

namespace Renders

variable {v v' : Vocabulary} {inst : Instance W} {features : List (List (Feature W))}
  {gold : List String}

/-- Later additions to a vocabulary do not matter. -/
theorem mono (h : Renders v inst features gold) (hv : v.Extends v') :
    Renders v' inst features gold where
  items := h.items.imp fun _ _ hitem => hitem.mono hv.attrs
  labels := h.labels.imp fun _ _ hlabel => hv.labels.string? hlabel
  training := h.training

theorem toVectors [Add W] [OfNat W 0] (h : Renders v inst features gold) :
    inst.toVectors v.attrs = features.map Feature.vector :=
  map_toVector h.items

/-- All features that an instance stands for have a number. -/
theorem contains (h : Renders v inst features gold) {token : List (Feature W)}
    (htoken : token ∈ features) {feature : Feature W} (hfeature : feature ∈ token) :
    v.attrs.contains feature.name = true :=
  forall_mem_right h.items (fun _ _ hitem => hitem.contains) token htoken feature hfeature

theorem filterMap_labels (h : Renders v inst features gold) :
    inst.labels.filterMap v.labels.string? = gold := by
  have hlabels := h.labels
  generalize inst.labels = ids at hlabels
  clear h
  induction hlabels with
  | nil => rfl
  | cons hlabel _ ih => rw [List.filterMap_cons_some hlabel, ih]

end Renders

end Instance

namespace Vocabulary

open Instance

/-! ### What is behind an instance -/

/-- Features that are numbered are taken in, and the item stands for them. -/
theorem number_eq_ok {attrs attrs' : Lexicon} {features : List (Feature W)} {item : Item W}
    (h : number attrs features = (attrs', .ok item)) :
    attrs.Absorbs (features.map Feature.name) attrs' ∧ Denotes attrs' item features := by
  induction features generalizing attrs item with
  | nil =>
    obtain ⟨rfl, hitem⟩ := Prod.mk.inj h
    obtain rfl := Except.ok.inj hitem
    exact ⟨.nil attrs, .nil⟩
  | cons feature features ih =>
    rw [number] at h
    split at h
    · cases (Prod.mk.inj h).2
    · next middle id hintern =>
      obtain ⟨hmiddle, hid⟩ := Lexicon.intern_eq_ok hintern
      cases hrest : number middle features with
      | mk last result =>
        rw [hrest] at h
        cases result with
        | error refusal => cases (Prod.mk.inj h).2
        | ok rest =>
          obtain ⟨rfl, hitem⟩ := Prod.mk.inj h
          obtain rfl := Except.ok.inj hitem
          obtain ⟨habsorbs, hdenotes⟩ := ih hrest
          -- the number of the first feature is kept while the others are numbered
          exact ⟨hmiddle.append habsorbs, .cons ⟨habsorbs.extend.string? hid, rfl⟩ hdenotes⟩

theorem learnToken_eq_ok {v v' : Vocabulary} {features : List (Feature W)} {label : String}
    {token : Item W × Nat} (h : v.learnToken features label = (v', .ok token)) :
    v.Absorbs (features.map Feature.name) [label] v' ∧
      Denotes v'.attrs token.1 features ∧ v'.labels.string? token.2 = some label := by
  obtain ⟨attrs, labels⟩ := v
  rw [learnToken] at h
  split at h
  · cases (Prod.mk.inj h).2
  · next hnumber =>
    split at h
    · cases (Prod.mk.inj h).2
    · next hintern =>
      obtain ⟨rfl, htoken⟩ := Prod.mk.inj h
      obtain rfl := Except.ok.inj htoken
      obtain ⟨hattrs, hitem⟩ := number_eq_ok hnumber
      obtain ⟨hlabels, hid⟩ := Lexicon.intern_eq_ok hintern
      exact ⟨⟨hattrs, hlabels⟩, hitem, hid⟩

theorem learnTokens_eq_ok {v v' : Vocabulary} {pairs : List (List (Feature W) × String)}
    {tokens : List (Item W × Nat)} (h : v.learnTokens pairs = (v', .ok tokens)) :
    v.Absorbs (Feature.names (pairs.map (·.1))) (pairs.map (·.2)) v' ∧
      List.Forall₂ (fun token pair => Denotes v'.attrs token.1 pair.1 ∧
        v'.labels.string? token.2 = some pair.2) tokens pairs := by
  induction pairs generalizing v tokens with
  | nil =>
    obtain ⟨rfl, htokens⟩ := Prod.mk.inj h
    obtain rfl := Except.ok.inj htokens
    exact ⟨.nil v, .nil⟩
  | cons pair pairs ih =>
    rw [learnTokens] at h
    split at h
    · cases (Prod.mk.inj h).2
    · next middle token hlearn =>
      obtain ⟨hmiddle, hitem, hid⟩ := learnToken_eq_ok hlearn
      cases hrest : middle.learnTokens pairs with
      | mk last result =>
        rw [hrest] at h
        cases result with
        | error refusal => cases (Prod.mk.inj h).2
        | ok rest =>
          obtain ⟨rfl, htokens⟩ := Prod.mk.inj h
          obtain rfl := Except.ok.inj htokens
          obtain ⟨habsorbs, hrest⟩ := ih hrest
          have hextends := habsorbs.extend
          exact ⟨hmiddle.append habsorbs,
            .cons ⟨hitem.mono hextends.attrs, hextends.labels.string? hid⟩ hrest⟩

theorem goldFor_of_length_eq {tokens : Nat} {gold : List String} (h : gold.length = tokens) :
    goldFor tokens (some gold) = .ok gold := by
  subst h
  exact if_pos (decide_eq_true rfl)

theorem goldFor_eq_ok {tokens : Nat} {gold? : Option (List String)} {gold : List String}
    (h : goldFor tokens gold? = .ok gold) : gold? = some gold ∧ gold.length = tokens := by
  rw [goldFor] at h
  split at h
  · next hgiven =>
    obtain ⟨hsome, hlength⟩ := Bool.and_eq_true_iff.1 hgiven
    obtain ⟨given, rfl⟩ := Option.isSome_iff_exists.1 hsome
    obtain rfl := Except.ok.inj h
    exact ⟨rfl, of_decide_eq_true hlength⟩
  · cases h

/-- A name with a label for each token is learned by its features. -/
theorem learn_some [OfScientific W] (v : Vocabulary) {cells : List Feature.Cell}
    {gold : List String} (hgold : gold.length = cells.length) (groups : List String) :
    v.learn (W := W) cells (some gold) groups =
      v.learnFeatures (Feature.extractAll cells groups) gold := by
  rw [learn, goldFor_of_length_eq hgold]

/-- An instance of labeled tokens stands for them, whatever the vocabulary was before. -/
theorem learnFeatures_eq_ok {v v' : Vocabulary} {features : List (List (Feature W))}
    {gold : List String} {inst : Instance W} (hlength : features.length = gold.length)
    (h : v.learnFeatures features gold = (v', .ok inst)) :
    v.Absorbs (Feature.names features) gold v' ∧ Renders v' inst features gold := by
  rw [learnFeatures] at h
  split at h
  · cases (Prod.mk.inj h).2
  · next tokens hlearn =>
    obtain ⟨rfl, hinst⟩ := Prod.mk.inj h
    obtain rfl := Except.ok.inj hinst
    obtain ⟨habsorbs, htokens⟩ := learnTokens_eq_ok hlearn
    rw [List.map_fst_zip (Nat.le_of_eq hlength), List.map_snd_zip (Nat.le_of_eq hlength.symm)]
      at habsorbs
    refine ⟨habsorbs, ?_, ?_, rfl⟩
    -- the tokens stand for pairs; each half of them is all of one list
    · show List.Forall₂ _ (tokens.map (·.1)) _
      rw [← List.map_fst_zip (Nat.le_of_eq hlength), List.forall₂_map_left_iff,
        List.forall₂_map_right_iff]
      exact htokens.imp fun _ _ h => h.1
    · show List.Forall₂ _ (tokens.map (·.2)) _
      rw [← List.map_snd_zip (Nat.le_of_eq hlength.symm), List.forall₂_map_left_iff,
        List.forall₂_map_right_iff]
      exact htokens.imp fun _ _ h => h.2

theorem learn_eq_ok [OfScientific W] {v v' : Vocabulary} {cells : List Feature.Cell}
    {gold? : Option (List String)} {groups : List String} {inst : Instance W}
    (h : v.learn cells gold? groups = (v', .ok inst)) :
    ∃ gold, gold? = some gold ∧
      v.Absorbs (Feature.names (Feature.extractAll (W := W) cells groups)) gold v' ∧
      Renders v' inst (Feature.extractAll cells groups) gold := by
  rw [learn] at h
  split at h
  · cases (Prod.mk.inj h).2
  · next gold hgold =>
    obtain ⟨rfl, hlength⟩ := goldFor_eq_ok hgold
    have hfeatures : (Feature.extractAll (W := W) cells groups).length = gold.length := by
      rw [Feature.length_extractAll, hlength]
    exact ⟨gold, rfl, learnFeatures_eq_ok hfeatures h⟩

/-! ### Vocabularies that grow -/

theorem number_growing {attrs : Lexicon} (hattrs : attrs.frozen = false)
    (features : List (Feature W)) : ∃ attrs' item, number attrs features = (attrs', .ok item) := by
  induction features generalizing attrs with
  | nil => exact ⟨attrs, [], rfl⟩
  | cons feature features ih =>
    obtain ⟨middle, id, hintern, hmiddle, -⟩ := Lexicon.intern_growing hattrs feature.name
    obtain ⟨attrs', item, hnumber⟩ := ih (hmiddle.frozen.trans hattrs)
    refine ⟨attrs', (id, feature.weight) :: item, ?_⟩
    rw [number, hintern]
    simp only [hnumber]
    rfl

theorem learnToken_growing {v : Vocabulary} (hv : v.IsGrowing) (features : List (Feature W))
    (label : String) : ∃ v' token, v.learnToken features label = (v', .ok token) := by
  obtain ⟨attrs, labels⟩ := v
  obtain ⟨attrs', item, hnumber⟩ := number_growing hv.attrs features
  obtain ⟨labels', id, hintern, -⟩ := Lexicon.intern_growing hv.labels label
  refine ⟨⟨attrs', labels'⟩, (item, id), ?_⟩
  rw [learnToken, hnumber]
  simp only [hintern]

theorem learnTokens_growing {v : Vocabulary} (hv : v.IsGrowing)
    (pairs : List (List (Feature W) × String)) :
    ∃ v' tokens, v.learnTokens pairs = (v', .ok tokens) := by
  induction pairs generalizing v with
  | nil => exact ⟨v, [], rfl⟩
  | cons pair pairs ih =>
    obtain ⟨middle, token, hlearn⟩ := learnToken_growing hv pair.1 pair.2
    obtain ⟨v', tokens, hrest⟩ := ih (hv.extend (learnToken_eq_ok hlearn).1.extend)
    refine ⟨v', token :: tokens, ?_⟩
    rw [learnTokens, hlearn]
    simp only [hrest]
    rfl

/-- A vocabulary that grows refuses nothing. -/
theorem learnFeatures_growing {v : Vocabulary} (hv : v.IsGrowing)
    (features : List (List (Feature W))) (gold : List String) :
    ∃ v' inst, v.learnFeatures features gold = (v', .ok inst) := by
  obtain ⟨v', tokens, hlearn⟩ := learnTokens_growing hv (features.zip gold)
  refine ⟨v', ⟨tokens.map (·.1), tokens.map (·.2), true⟩, ?_⟩
  rw [learnFeatures, hlearn]

section

variable [OfScientific W]

/-- A name with a label for each token has an instance. -/
theorem learn_growing {v : Vocabulary} (hv : v.IsGrowing) {cells : List Feature.Cell}
    {gold : List String} (hgold : gold.length = cells.length) (groups : List String) :
    ∃ v' inst, v.learn (W := W) cells (some gold) groups = (v', .ok inst) := by
  rw [learn_some v hgold]
  exact learnFeatures_growing hv _ gold

theorem length_cells (sequence : Sequence) : (cells sequence).length = sequence.length := by
  rw [cells, List.length_map, Token.ofTexts, Token.length_number, Token.length_spaced]
  exact List.length_map ..

variable (W) in
/-- The names of the features of a corpus, name by name and token by token. -/
def featureNames (groups : List String) (corpus : Corpus) : List String :=
  corpus.flatMap fun sequence => Feature.names (Feature.extractAll (W := W) (cells sequence) groups)

/-- A list of names has an instance for each, which stands for the name at the end. -/
theorem learnFrom_growing {v : Vocabulary} (hv : v.IsGrowing) (groups : List String)
    (done : Array (Instance W)) (corpus : Corpus) :
    ∃ v' instances, v.learnFrom groups done corpus = (v', .ok (done.toList ++ instances)) ∧
      v.Absorbs (featureNames W groups corpus) corpus.labels v' ∧
      List.Forall₂ (fun inst sequence =>
        Renders v' inst (Feature.extractAll (cells sequence) groups) sequence.labels)
        instances corpus := by
  induction corpus generalizing v done with
  | nil => exact ⟨v, [], by rw [List.append_nil]; rfl, .nil v, .nil⟩
  | cons sequence corpus ih =>
    have hgold : sequence.labels.length = (cells sequence).length := by
      rw [length_cells, Sequence.labels, List.length_map]
    obtain ⟨middle, inst, hlearn⟩ := learn_growing (W := W) hv hgold groups
    obtain ⟨gold, hsome, hmiddle, hinst⟩ := learn_eq_ok hlearn
    obtain rfl := Option.some.inj hsome
    -- an instance goes on to stand for its name while the vocabulary grows
    obtain ⟨v', instances, hrest, habsorbs, hinstances⟩ :=
      ih (hv.extend hmiddle.extend) (done.push inst)
    refine ⟨v', inst :: instances, ?_, hmiddle.append habsorbs,
      .cons (hinst.mono habsorbs.extend) hinstances⟩
    rw [learnFrom, hlearn]
    simp only [hrest]
    rw [Array.toList_push, List.append_assoc, List.singleton_append]

end

end Vocabulary

end NameTagger
