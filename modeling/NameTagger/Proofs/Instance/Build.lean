import NameTagger.Instance.Build
import NameTagger.Proofs.Feature.Place
import NameTagger.Proofs.Instance.Learn

/-!
# What building an instance leaves behind

A request for an instance may fail between any two new numbers.  Whatever comes of it, a lexicon is
then what it was before, followed by the first of the strings that were new to it.

* `Vocabulary.AbsorbsSome`: what became of a vocabulary that learned some of what it was given;
* `Vocabulary.absorbsSome_number` to `absorbsSome_learnTokens`: so it goes for the features of one
  token, for one token and for several ones;
* `Vocabulary.number_eq_error` to `learnTokens_eq_error`: only what a frozen lexicon does not know
  is refused;
* `Vocabulary.learnFeatures_outcome`: tokens are learned to the end just if nothing of them is
  refused;
* `Instance.IsRecognized`, `Instance.build_learned`: the instance of a name that is to be labeled,
  and what comes of one with labels;
* `Instance.build_defined`: what there is behind every request;
* `Instance.not_build_remote`: not every request comes to an instance.
-/

namespace NameTagger

variable {W : Type}

namespace Vocabulary

/-! ### What is learned of some tokens -/

/-- A vocabulary is another one to which the first of the new names of features and of the new
labels were added, maybe all of them. -/
structure AbsorbsSome (v : Vocabulary) (names gold : List String) (v' : Vocabulary) : Prop where
  attrs : v.attrs.AbsorbsSome names v'.attrs
  labels : v.labels.AbsorbsSome gold v'.labels

namespace AbsorbsSome

variable {v v' v'' : Vocabulary} {names names' gold gold' : List String}

theorem refl (v : Vocabulary) (names gold : List String) : AbsorbsSome v names gold v :=
  ⟨.refl v.attrs names, .refl v.labels gold⟩

theorem append_right (h : AbsorbsSome v names gold v') (names' gold' : List String) :
    AbsorbsSome v (names ++ names') (gold ++ gold') v' :=
  ⟨h.attrs.append_right names', h.labels.append_right gold'⟩

theorem append (h : AbsorbsSome v names gold v') (hall : v.Absorbs names gold v')
    (h' : AbsorbsSome v' names' gold' v'') :
    AbsorbsSome v (names ++ names') (gold ++ gold') v'' :=
  ⟨h.attrs.append hall.attrs h'.attrs, h.labels.append hall.labels h'.labels⟩

end AbsorbsSome

theorem absorbsSome_number (attrs : Lexicon) (features : List (Feature W)) :
    attrs.AbsorbsSome (features.map Feature.name) (number attrs features).1 := by
  induction features generalizing attrs with
  | nil => exact .refl attrs []
  | cons feature features ih =>
    have hfirst := Lexicon.absorbsSome_intern attrs feature.name
    rw [number]
    rcases hintern : attrs.intern feature.name with ⟨middle, refusal | id⟩
    · rw [hintern] at hfirst
      exact hfirst.append_right (features.map Feature.name)
    · rw [hintern] at hfirst
      exact hfirst.append (Lexicon.intern_eq_ok hintern).1 (ih middle)

theorem absorbsSome_learnToken (v : Vocabulary) (features : List (Feature W)) (label : String) :
    v.AbsorbsSome (features.map Feature.name) [label] (v.learnToken features label).1 := by
  obtain ⟨attrs, labels⟩ := v
  have hattrs := absorbsSome_number attrs features
  have hlabels := Lexicon.absorbsSome_intern labels label
  rw [learnToken]
  rcases hnumber : number attrs features with ⟨attrs', refusal | item⟩
  · rw [hnumber] at hattrs
    exact ⟨hattrs, .refl labels [label]⟩
  · rw [hnumber] at hattrs
    rcases hintern : labels.intern label with ⟨labels', refusal | id⟩ <;>
      rw [hintern] at hlabels <;> exact ⟨hattrs, hlabels⟩

/-- Whether or not some tokens are learned to the end, what was added on the way comes in the order
of the first occurrence. -/
theorem absorbsSome_learnTokens (v : Vocabulary) (pairs : List (List (Feature W) × String)) :
    v.AbsorbsSome (Feature.names (pairs.map (·.1))) (pairs.map (·.2)) (v.learnTokens pairs).1 := by
  induction pairs generalizing v with
  | nil => exact .refl v [] []
  | cons pair pairs ih =>
    have hfirst := absorbsSome_learnToken v pair.1 pair.2
    rw [learnTokens]
    rcases hlearn : v.learnToken pair.1 pair.2 with ⟨middle, refusal | token⟩
    · rw [hlearn] at hfirst
      exact hfirst.append_right (Feature.names (pairs.map (·.1))) (pairs.map (·.2))
    · rw [hlearn] at hfirst
      exact hfirst.append (learnToken_eq_ok hlearn).1 (ih middle)

/-! ### What is refused -/

/-- One of the lexicons refuses what it is given. -/
def Refuses (v : Vocabulary) (names gold : List String) (refusal : Lexicon.ReadOnly) : Prop :=
  v.attrs.Refuses names refusal ∨ v.labels.Refuses gold refusal

namespace Refuses

variable {v v' : Vocabulary} {names names' gold gold' : List String} {refusal : Lexicon.ReadOnly}

theorem mono (h : Refuses v names gold refusal) (hnames : names ⊆ names') (hgold : gold ⊆ gold') :
    Refuses v names' gold' refusal :=
  h.imp (·.mono hnames) (·.mono hgold)

theorem of_extends (h : Refuses v' names gold refusal) (hv : v.Extends v') :
    Refuses v names gold refusal :=
  h.imp (·.of_extends hv.attrs) (·.of_extends hv.labels)

end Refuses

/-- Something is refused just if one of the lexicons is closed to it. -/
theorem isClosedTo_or_iff (v : Vocabulary) (names gold : List String) :
    v.attrs.IsClosedTo names ∨ v.labels.IsClosedTo gold ↔
      ∃ refusal, v.Refuses names gold refusal := by
  rw [Lexicon.isClosedTo_iff, Lexicon.isClosedTo_iff, ← exists_or]
  rfl

theorem number_eq_error {attrs attrs' : Lexicon} {features : List (Feature W)}
    {refusal : Lexicon.ReadOnly} (h : number attrs features = (attrs', .error refusal)) :
    attrs.Refuses (features.map Feature.name) refusal := by
  induction features generalizing attrs with
  | nil => cases (Prod.mk.inj h).2
  | cons feature features ih =>
    have hhead : [feature.name] ⊆ (feature :: features).map Feature.name :=
      List.cons_subset.2 ⟨List.mem_cons_self, List.nil_subset _⟩
    have htail : features.map Feature.name ⊆ (feature :: features).map Feature.name :=
      List.subset_cons_self ..
    rw [number] at h
    split at h
    · next hintern =>
      obtain ⟨-, hrefusal⟩ := Prod.mk.inj h
      obtain rfl := Except.error.inj hrefusal
      exact (Lexicon.intern_eq_error hintern).2.mono hhead
    · next middle id hintern =>
      rcases hrest : number middle features with ⟨last, later | item⟩
      · rw [hrest] at h
        obtain ⟨rfl, hrefusal⟩ := Prod.mk.inj h
        obtain rfl : later = refusal := Except.error.inj hrefusal
        exact ((ih hrest).of_extends (Lexicon.intern_eq_ok hintern).1.extend).mono htail
      · rw [hrest] at h
        cases (Prod.mk.inj h).2

theorem learnToken_eq_error {v v' : Vocabulary} {features : List (Feature W)} {label : String}
    {refusal : Lexicon.ReadOnly} (h : v.learnToken features label = (v', .error refusal)) :
    v.Refuses (features.map Feature.name) [label] refusal := by
  obtain ⟨attrs, labels⟩ := v
  rw [learnToken] at h
  split at h
  · next hnumber =>
    obtain ⟨-, hrefusal⟩ := Prod.mk.inj h
    obtain rfl := Except.error.inj hrefusal
    exact .inl (number_eq_error hnumber)
  · split at h
    · next hintern =>
      obtain ⟨-, hrefusal⟩ := Prod.mk.inj h
      obtain rfl := Except.error.inj hrefusal
      exact .inr (Lexicon.intern_eq_error hintern).2
    · cases (Prod.mk.inj h).2

theorem learnTokens_eq_error {v v' : Vocabulary} {pairs : List (List (Feature W) × String)}
    {refusal : Lexicon.ReadOnly} (h : v.learnTokens pairs = (v', .error refusal)) :
    v.Refuses (Feature.names (pairs.map (·.1))) (pairs.map (·.2)) refusal := by
  induction pairs generalizing v with
  | nil => cases (Prod.mk.inj h).2
  | cons pair pairs ih =>
    rw [learnTokens] at h
    split at h
    · next hlearn =>
      obtain ⟨-, hrefusal⟩ := Prod.mk.inj h
      obtain rfl := Except.error.inj hrefusal
      exact (learnToken_eq_error hlearn).mono (List.subset_append_left ..)
        (List.cons_subset.2 ⟨List.mem_cons_self, List.nil_subset _⟩)
    · next middle token hlearn =>
      rcases hrest : middle.learnTokens pairs with ⟨last, later | tokens⟩
      · rw [hrest] at h
        obtain ⟨rfl, hrefusal⟩ := Prod.mk.inj h
        obtain rfl : later = refusal := Except.error.inj hrefusal
        exact ((ih hrest).of_extends (learnToken_eq_ok hlearn).1.extend).mono
          (List.subset_append_right ..) (List.subset_cons_self ..)
      · rw [hrest] at h
        cases (Prod.mk.inj h).2

/-- Tokens with a label for each have an instance, unless one of the lexicons is closed to them. -/
theorem learnFeatures_outcome (v : Vocabulary) {features : List (List (Feature W))}
    {gold : List String} (hlength : features.length = gold.length) :
    ∃ v' result, v.learnFeatures features gold = (v', result) ∧
      v.AbsorbsSome (Feature.names features) gold v' ∧
      ((∃ refusal, result = .error (.readOnly refusal) ∧
          v.Refuses (Feature.names features) gold refusal) ∨
        ((∀ refusal, ¬v.Refuses (Feature.names features) gold refusal) ∧
          ∃ inst, result = .ok inst ∧ inst.Renders v' features gold)) := by
  have hsome := absorbsSome_learnTokens v (features.zip gold)
  rw [List.map_fst_zip (Nat.le_of_eq hlength), List.map_snd_zip (Nat.le_of_eq hlength.symm)]
    at hsome
  rcases htokens : v.learnTokens (features.zip gold) with ⟨v', refusal | tokens⟩ <;>
    rw [htokens] at hsome
  · have hlearn : v.learnFeatures features gold = (v', .error (.readOnly refusal)) := by
      rw [learnFeatures, htokens]
    have hrefuses := learnTokens_eq_error htokens
    rw [List.map_fst_zip (Nat.le_of_eq hlength), List.map_snd_zip (Nat.le_of_eq hlength.symm)]
      at hrefuses
    exact ⟨v', _, hlearn, hsome, .inl ⟨refusal, rfl, hrefuses⟩⟩
  · have hlearn : v.learnFeatures features gold =
        (v', .ok ⟨tokens.map (·.1), tokens.map (·.2), true⟩) := by
      rw [learnFeatures, htokens]
    obtain ⟨habsorbs, hrenders⟩ := learnFeatures_eq_ok hlength hlearn
    refine ⟨v', _, hlearn, hsome, .inr ⟨fun refusal hrefuses => ?_, _, rfl, hrenders⟩⟩
    rcases hrefuses with hattrs | hlabels
    · exact hsome.attrs.not_refuses habsorbs.attrs refusal hattrs
    · exact hsome.labels.not_refuses habsorbs.labels refusal hlabels

end Vocabulary

namespace Instance

/-! ### Requests -/

/-- An instance of tokens with these features that are to be labeled: each item stands for the
features that have a number, and all labels are the placeholder. -/
structure IsRecognized (attrs : Lexicon) (features : List (List (Feature W)))
    (inst : Instance W) : Prop where
  items : List.Forall₂ (fun item token =>
    Denotes attrs item (token.filter fun feature => feature.name ∈ attrs.strings))
    inst.items features
  labels : inst.labels = List.replicate features.length placeholder
  training : inst.training = false

theorem isRecognized_ofFeatures (attrs : Lexicon) (features : List (List (Feature W))) :
    IsRecognized attrs features (ofFeatures attrs features) where
  items := by
    have hknown (name : String) : attrs.contains name = decide (name ∈ attrs.strings) := by
      rw [Bool.eq_iff_iff, decide_eq_true_iff, Lexicon.contains_iff]
    simp only [ofFeatures, List.forall₂_map_left_iff, List.forall₂_same, ← hknown]
    exact fun token _ => denotes_known attrs token
  labels := by
    rw [ofFeatures, List.map_const']
  training := rfl

variable [OfScientific W]

/-- Without labels nothing is learned. -/
theorem build_none (attrs : Lexicon) (cells : List Feature.Cell) (gold? : Option (List String))
    (groups : List String) :
    build (W := W) attrs none cells gold? groups =
      ⟨attrs, none,
        match Feature.misplaced? cells groups with
        | some misplacement => .error misplacement.fault
        | none => .ok (recognize attrs cells groups)⟩ := by
  rw [build, Feature.extractSequence_eq]
  rcases Feature.misplaced? cells groups with - | misplacement <;> rfl

/-- A wrong number of labels is found out first. -/
theorem build_of_length_ne (attrs labels : Lexicon) {cells : List Feature.Cell}
    {gold? : Option (List String)} (h : gold?.map List.length ≠ some cells.length)
    (groups : List String) :
    build (W := W) attrs (some labels) cells gold? groups =
      ⟨attrs, some labels,
        .error (Refusal.labelCount cells.length (gold?.getD []).length).fault⟩ := by
  have hgold : Vocabulary.goldFor cells.length gold? =
      .error (.labelCount cells.length (gold?.getD []).length) := by
    refine if_neg fun hgiven => ?_
    obtain ⟨hsome, hlength⟩ := Bool.and_eq_true_iff.1 hgiven
    obtain ⟨gold, rfl⟩ := Option.isSome_iff_exists.1 hsome
    exact h (congrArg some (of_decide_eq_true hlength))
  rw [build, hgold]

/-- With a label for each token, a token whose place cannot be told is found out next. -/
theorem build_some (attrs labels : Lexicon) {cells : List Feature.Cell} {gold : List String}
    (hgold : gold.length = cells.length) (groups : List String) :
    build (W := W) attrs (some labels) cells (some gold) groups =
      match Feature.misplaced? cells groups with
      | some misplacement => ⟨attrs, some labels, .error misplacement.fault⟩
      | none =>
          let learned := Vocabulary.learnFeatures (W := W) ⟨attrs, labels⟩
            (Feature.extractAll cells groups) gold
          ⟨learned.1.attrs, some learned.1.labels, learned.2.mapError Refusal.fault⟩ := by
  simp only [build, Vocabulary.goldFor_of_length_eq hgold, Feature.extractSequence_eq]
  rcases Feature.misplaced? cells groups with - | misplacement <;> rfl

/-- An instance with labels was learned. -/
theorem learn_of_build {attrs labels attrs' : Lexicon} {labels? : Option Lexicon}
    {cells : List Feature.Cell} {gold? : Option (List String)} {groups : List String}
    {inst : Instance W}
    (h : build attrs (some labels) cells gold? groups = ⟨attrs', labels?, .ok inst⟩) :
    ∃ labels', labels? = some labels' ∧
      Vocabulary.learn ⟨attrs, labels⟩ cells gold? groups = (⟨attrs', labels'⟩, .ok inst) := by
  rcases hgold : Vocabulary.goldFor cells.length gold? with refusal | gold
  · rw [build, hgold] at h
    cases congrArg Built.result h
  obtain ⟨rfl, hlength⟩ := Vocabulary.goldFor_eq_ok hgold
  rw [build_some attrs labels hlength] at h
  split at h
  · cases congrArg Built.result h
  · rw [Vocabulary.learn_some _ hlength]
    rcases hlearn : Vocabulary.learnFeatures (W := W) ⟨attrs, labels⟩
      (Feature.extractAll cells groups) gold with ⟨v, refusal | learned⟩ <;>
      simp only [hlearn] at h
    · cases congrArg Built.result h
    · cases h
      exact ⟨v.labels, rfl, rfl⟩

/-- A place that cannot be told prevents both kinds of requests. -/
theorem build_of_misplaced {cells : List Feature.Cell} {groups : List String}
    {misplacement : Feature.Misplacement}
    (h : Feature.misplaced? cells groups = some misplacement) (attrs : Lexicon)
    {labels? : Option Lexicon} {gold? : Option (List String)}
    (hgiven : labels? = none ∨ gold?.map List.length = some cells.length) :
    build (W := W) attrs labels? cells gold? groups =
      ⟨attrs, labels?, .error misplacement.fault⟩ := by
  cases labels? with
  | none => rw [build_none, h]
  | some labels =>
    obtain ⟨gold, rfl, hgold⟩ :=
      Option.map_eq_some_iff.1 (hgiven.resolve_left (Option.some_ne_none _))
    rw [build_some attrs labels hgold, h]

/-- Tokens whose places can be told are learned, unless one of the lexicons is closed to them. -/
theorem build_learned (attrs labels : Lexicon) {cells : List Feature.Cell} {gold : List String}
    (hgold : gold.length = cells.length) {groups : List String}
    (hplaced : Feature.misplaced? cells groups = none) :
    let features : List (List (Feature W)) := Feature.extractAll cells groups
    let closed := attrs.IsClosedTo (Feature.names features) ∨ labels.IsClosedTo gold
    ∃ attrs' labels' result,
      build attrs (some labels) cells (some gold) groups = ⟨attrs', some labels', result⟩ ∧
      attrs.AbsorbsSome (Feature.names features) attrs' ∧ labels.AbsorbsSome gold labels' ∧
      ((∃ message, result = .error ⟨.runtime, message⟩) ↔ closed) ∧
      ((∃ inst, result = .ok inst ∧ inst.Renders ⟨attrs', labels'⟩ features gold) ↔ ¬closed) := by
  intro features closed
  have hlength : features.length = gold.length := by rw [Feature.length_extractAll, hgold]
  obtain ⟨v', result, hlearn, hsome, hresult⟩ :=
    Vocabulary.learnFeatures_outcome ⟨attrs, labels⟩ hlength
  have hbuild : build attrs (some labels) cells (some gold) groups =
      ⟨v'.attrs, some v'.labels, result.mapError Refusal.fault⟩ := by
    rw [build_some attrs labels hgold, hplaced]
    simp only [features] at hlearn
    rw [hlearn]
  have hclosed : closed ↔
      ∃ refusal, Vocabulary.Refuses ⟨attrs, labels⟩ (Feature.names features) gold refusal :=
    Vocabulary.isClosedTo_or_iff ⟨attrs, labels⟩ (Feature.names features) gold
  refine ⟨v'.attrs, v'.labels, _, hbuild, hsome.attrs, hsome.labels, ?_⟩
  rw [hclosed]
  rcases hresult with ⟨refusal, rfl, hrefuses⟩ | ⟨hnone, inst, rfl, hrenders⟩
  · exact ⟨iff_of_true ⟨_, rfl⟩ ⟨refusal, hrefuses⟩,
      iff_of_false (fun ⟨_, h, _⟩ => nomatch h) fun h => h ⟨refusal, hrefuses⟩⟩
  · exact ⟨iff_of_false (fun ⟨_, h⟩ => nomatch h) fun ⟨refusal, h⟩ => hnone refusal h,
      iff_of_true ⟨inst, rfl, hrenders⟩ fun ⟨refusal, h⟩ => hnone refusal h⟩

/-- Every request for an instance leaves its lexicons in a defined state.  Tokens that are to be
labeled change nothing, and each item has the numbers of the features that have one.  For tokens
that are learned, a wrong number of labels is a bad value, and nothing changes.  A token whose place
cannot be told prevents both in front of any change; in a text there is one only among more tokens
than numbers that are written.  Otherwise learning fails just if a frozen lexicon does not know what
it is asked for.  Also then each lexicon is what it was, followed by the first of the strings that
were new to it, so what has a number keeps it. -/
theorem build_defined (attrs : Lexicon) (cells : List Feature.Cell) (groups : List String) :
    let features : List (List (Feature W)) := Feature.extractAll cells groups
    (∀ gold?, (build (W := W) attrs none cells gold? groups).attrs = attrs ∧
      (build (W := W) attrs none cells gold? groups).labels? = none) ∧
    (∀ labels gold?, gold?.map List.length ≠ some cells.length →
      build (W := W) attrs (some labels) cells gold? groups =
        ⟨attrs, some labels, .error ⟨.value, "Expected " ++ toString cells.length ++
          " gold labels, got " ++ toString (gold?.getD []).length⟩⟩) ∧
    (∀ misplacement, Feature.misplaced? cells groups = some misplacement →
      Feature.extractSequence (W := W) cells groups = .error misplacement.fault ∧
      ∀ labels? gold?, (labels? = none ∨ gold?.map List.length = some cells.length) →
        build (W := W) attrs labels? cells gold? groups =
          ⟨attrs, labels?, .error misplacement.fault⟩) ∧
    (∀ tokens, (∃ text, tokens = Token.ofText text) ∨ (∃ texts, tokens = Token.ofTexts texts) →
      Feature.misplaced? (tokens.map Feature.Cell.ofToken) groups =
        if groups.contains Feature.Group.position.name ∧
            Nat.pow 10 Decimal.longestInteger < tokens.length then some .overlong
        else none) ∧
    (Feature.misplaced? cells groups = none →
      Feature.extractSequence cells groups = .ok features ∧
      (∀ gold?, ∃ inst, (build attrs none cells gold? groups).result = .ok inst ∧
        inst.IsRecognized attrs features) ∧
      ∀ labels gold, gold.length = cells.length →
        ∃ attrs' labels' result,
          build attrs (some labels) cells (some gold) groups = ⟨attrs', some labels', result⟩ ∧
          attrs.AbsorbsSome (Feature.names features) attrs' ∧ labels.AbsorbsSome gold labels' ∧
          (∀ s i, attrs.id? s = some i → attrs'.id? s = some i) ∧
          (∀ s i, labels.id? s = some i → labels'.id? s = some i) ∧
          ((∃ message, result = .error ⟨.runtime, message⟩) ↔
            attrs.IsClosedTo (Feature.names features) ∨ labels.IsClosedTo gold) ∧
          ((∃ inst, result = .ok inst ∧ inst.Renders ⟨attrs', labels'⟩ features gold) ↔
            ¬(attrs.IsClosedTo (Feature.names features) ∨ labels.IsClosedTo gold))) := by
  intro features
  refine ⟨fun gold? => ⟨rfl, rfl⟩, fun labels gold? h => build_of_length_ne attrs labels h groups,
    fun misplacement h => ⟨?_, fun labels? gold? hgold => build_of_misplaced h attrs hgold⟩, ?_,
    fun hplaced => ⟨?_, fun gold? => ?_, fun labels gold hgold => ?_⟩⟩
  · rw [Feature.extractSequence_eq, h]
  · rintro tokens (⟨text, rfl⟩ | ⟨texts, rfl⟩)
    · exact Feature.misplaced?_of_numbered (fun _ _ => Token.position_of_number) groups
    · exact Feature.misplaced?_of_numbered (fun _ _ => Token.position_of_number) groups
  · rw [Feature.extractSequence_eq, hplaced]
  · refine ⟨recognize attrs cells groups, ?_, isRecognized_ofFeatures attrs features⟩
    rw [build_none, hplaced]
  · obtain ⟨attrs', labels', result, hbuild, hattrs, hlabels, hruntime, hok⟩ :=
      build_learned (W := W) attrs labels hgold hplaced
    exact ⟨attrs', labels', result, hbuild, hattrs, hlabels, fun s i => hattrs.extend.id?,
      fun s i => hlabels.extend.id?, hruntime, hok⟩

/-- The second label is new to a frozen lexicon. -/
theorem build_defined_frozen_labels :
    let cells := (Token.ofTexts ["Ann", "Lee"]).map Feature.Cell.ofToken
    let attrs := Lexicon.ofStrings ["bias"]
    let labels := (Lexicon.ofStrings ["Given"]).freeze
    Feature.misplaced? cells ["identity"] = none ∧ ["Given", "Surname"].length = cells.length ∧
      (none : Option (List String)).map List.length ≠ some cells.length ∧
      (build (W := Float) attrs (some labels) cells none ["identity"]).result =
        .error ⟨.value, "Expected 2 gold labels, got 0"⟩ ∧
      (∃ inst, (build (W := Float) attrs none cells none ["identity"]).result = .ok inst ∧
        inst.labels = [0, 0]) ∧
      ∃ attrs' labels' message,
        build (W := Float) attrs (some labels) cells (some ["Given", "Surname"]) ["identity"] =
          ⟨attrs', some labels', .error ⟨.runtime, message⟩⟩ ∧
        attrs'.id? "bias" = some 0 ∧ labels' = labels := by
  intro cells attrs labels
  have hlength : ["Given", "Surname"].length = cells.length := by decide +kernel
  have hnone : (none : Option (List String)).map List.length ≠ some cells.length := nofun
  obtain ⟨-, hvalue, -, htokens, hplaced⟩ := build_defined (W := Float) attrs cells ["identity"]
  have hplace : Feature.misplaced? cells ["identity"] = none := by
    rw [htokens _ (.inr ⟨["Ann", "Lee"], rfl⟩), if_neg]
    exact fun h => absurd h.1 (by decide)
  obtain ⟨-, hinference, htraining⟩ := hplaced hplace
  obtain ⟨inst, hinst, hrecognized⟩ := hinference none
  obtain ⟨attrs', labels', result, hbuild, -, hlabels, hattrs, -, hruntime, -⟩ :=
    htraining labels ["Given", "Surname"] hlength
  have hbias : attrs.id? "bias" = some 0 := by
    rw [Lexicon.id?_eq_some_iff, Lexicon.string?_eq, Lexicon.strings_ofStrings]
    decide
  have hunknown : "Surname" ∉ labels.strings := by
    rw [Lexicon.strings_freeze, Lexicon.strings_ofStrings]
    decide
  obtain ⟨message, rfl⟩ := hruntime.2 (.inr ⟨rfl, "Surname", by decide, hunknown⟩)
  refine ⟨hplace, hlength, hnone, ?_, ⟨inst, hinst, ?_⟩, attrs', labels', message, hbuild,
    hattrs _ _ hbias, hlabels.eq_of_frozen rfl⟩
  · rw [hvalue labels none hnone]
    decide +kernel
  · rw [hrecognized.labels, Feature.length_extractAll]
    decide +kernel

/-- A token that is too far away has no features, even where all tokens are only looked up. -/
theorem not_build_remote :
    ¬ ∀ (attrs : Lexicon) (cells : List Feature.Cell) (groups : List String),
      ∃ inst : Instance Float, (build attrs none cells none groups).result = .ok inst ∧
        inst.items.length = cells.length := by
  intro h
  let cells : List Feature.Cell :=
    [⟨some "Ann", 10 ^ 400, true, false⟩, ⟨some "Lee", 1, false, true⟩]
  obtain ⟨inst, hinst, -⟩ := h .empty cells Feature.Group.names
  have hremote : Feature.misplaced? cells Feature.Group.names = some .remote := by decide +kernel
  rw [build_of_misplaced hremote .empty (.inl rfl)] at hinst
  cases hinst

end Instance

end NameTagger
