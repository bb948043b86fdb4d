import NameTagger.Proofs.Model.Action
import NameTagger.Session

/-!
# Libraries whose taggers stand apart

A tagger holds the content that it has open and the name that it was told to choose.  What it says
about the name follows from these two alone; a call may fail at any time.  As no call changes what
another tagger has open, the tagger that a handle keeps open stays good, whatever happens.

* `Action.Preserves`, `Action.Yields`: properties of the state, also behind a failure or only if
  there is none, with a lemma for each way of making an action;
* `Library.Account`: what the taggers of a library hold, and what its calls do to that;
* `Account.verdict`, `Account.judge_yields`: the verdict of a library;
* `Account.content_examine`: taking out what a model holds does not matter to other taggers;
* `Account.Holds`: the tagger that a handle keeps open has the content of the handle;
* `Handle.perform_tagger`, `Account.tagger_yields`, `Account.holds_tagger`: finding a tagger;
* `Session.preserves_loadModel`, `Session.preserves_loadStored`: what loading a model leaves true.
-/

namespace NameTagger

variable {σ τ α β ι : Type}

/-! ### Properties of the state -/

namespace Action

/-- An action leaves a property of the state true. -/
def Preserves (P : σ → Prop) (action : Action σ α) : Prop := ∀ s, P s → P (action.perform s).2

/-- A property of the state before an action tells what the action comes to, unless it fails. -/
def Yields (P : σ → Prop) (action : Action σ α) (Q : α → σ → Prop) : Prop :=
  ∀ s, P s → ∀ a s', action.perform s = (.ok a, s') → Q a s'

theorem Keeps.mapFault {view : σ → β} {action : Action σ α} (h : Keeps view action)
    (f : Fault → Fault) : Keeps view (action.mapFault f) := by
  intro s
  rw [perform_mapFault]
  exact h s

namespace Preserves

variable {P : σ → Prop}

theorem pure (a : α) : Preserves P (pure a) := fun _ h => h

theorem ofExcept (result : Except Fault α) : Preserves P (ofExcept result) := fun _ h => h

theorem bind {action : Action σ α} {f : α → Action σ β} (h : Preserves P action)
    (hf : ∀ a, Preserves P (f a)) : Preserves P (action >>= f) := by
  intro s hs
  have hfirst := h s hs
  rw [perform_bind]
  generalize action.perform s = result at hfirst
  obtain ⟨outcome, s'⟩ := result
  cases outcome with
  | error fault => exact hfirst
  | ok a => exact hf a s' hfirst

theorem mapFault {action : Action σ α} (h : Preserves P action) (f : Fault → Fault) :
    Preserves P (action.mapFault f) := by
  intro s hs
  rw [perform_mapFault]
  exact h s hs

end Preserves

namespace Yields

variable {P : σ → Prop}

theorem pure {a : α} {Q : α → σ → Prop} (h : ∀ s, P s → Q a s) : Yields P (pure a) Q := by
  intro s hs b s' hperform
  cases hperform
  exact h s hs

theorem bind {action : Action σ α} {f : α → Action σ β} {R : α → σ → Prop} {Q : β → σ → Prop}
    (h : Yields P action R) (hf : ∀ a, Yields (R a) (f a) Q) : Yields P (action >>= f) Q := by
  intro s hs b s' hperform
  rw [perform_bind] at hperform
  cases hfirst : action.perform s with
  | mk outcome middle =>
    rw [hfirst] at hperform
    cases outcome with
    | error fault => cases hperform
    | ok a => exact hf a middle (h s hs a middle hfirst) b s' hperform

/-- The same call for each item of a list, each of which leaves the property true. -/
theorem mapM {action : ι → Action σ α} {value : ι → α}
    (h : ∀ i, Yields P (action i) fun a s => a = value i ∧ P s) (l : List ι) :
    Yields P (l.mapM action) fun as s => as = l.map value ∧ P s := by
  induction l with
  | nil =>
    rw [List.mapM_nil]
    exact pure fun s hs => ⟨rfl, hs⟩
  | cons i l ih =>
    rw [List.mapM_cons]
    refine (h i).bind fun a => ?_
    rintro s ⟨rfl, hs⟩
    refine ih.bind (Q := fun as s => as = (i :: l).map value ∧ P s) (fun as => pure ?_) s hs
    rintro s ⟨rfl, hs⟩
    exact ⟨rfl, hs⟩

theorem withLibrary {action : Action σ α} {Q : α → σ → Prop} (h : Yields P action Q) :
    Yields (fun world : World σ τ => P world.library) (World.withLibrary action)
      fun a world => Q a world.library := by
  intro world hworld a world' hperform
  rw [perform_withLibrary] at hperform
  cases hresult : action.perform world.library with
  | mk outcome s =>
    rw [hresult] at hperform
    cases hperform
    exact h world.library hworld a s hresult

end Yields

end Action

/-! ### What taggers hold -/

/-- What the taggers of a library hold, and what a library says about a name. -/
structure Library.Account (library : Library σ τ) where
  /-- The content that a tagger has open. -/
  content? : σ → τ → Option ByteArray
  /-- The name that a tagger was told to choose. -/
  chosen? : σ → τ → Option (List (Vector Float))
  /-- The best labels of a name, by the content of a model. -/
  labels : ByteArray → List (Vector Float) → List String
  /-- The probability of labels for a name. -/
  score : ByteArray → List (Vector Float) → List String → Float
  /-- The probability of a label at a place of a name. -/
  marginal : ByteArray → List (Vector Float) → String → Nat → Float
  /-- A tagger that is created is a new one, without a model. -/
  create_new : ∀ s, content? s (library.create.run s).1 = none
  create_keeps : ∀ s, content? (library.create.run s).2 = content? s
  /-- A model is open unless that failed; then the tagger may hold anything. -/
  open_yields : ∀ tagger content, Action.Yields (fun _ => True) (library.openModel tagger content)
    fun _ s => content? s tagger = some content
  open_others : ∀ tagger content other, other ≠ tagger →
    Action.Keeps (content? · other) (library.openModel tagger content)
  close_others : ∀ tagger s other, other ≠ tagger →
    content? ((library.close tagger).run s).2 other = content? s other
  labels_keeps : ∀ tagger, Action.Keeps content? (library.labels tagger)
  dump_keeps : ∀ tagger, Action.Keeps content? (library.dump tagger)
  choose_keeps : ∀ tagger tokens, Action.Keeps content? (library.choose tagger tokens)
  tag_keeps : ∀ tagger, Action.Keeps content? (library.tag tagger)
  probability_keeps : ∀ tagger gold, Action.Keeps content? (library.probability tagger gold)
  marginal_keeps : ∀ tagger label i, Action.Keeps content? (library.marginal tagger label i)
  /-- A name that is chosen takes the place of another one. -/
  choose_yields : ∀ tagger tokens, Action.Yields (fun _ => True) (library.choose tagger tokens)
    fun _ s => chosen? s tagger = some tokens
  tag_yields : ∀ tagger content tokens, Action.Yields
    (fun s => content? s tagger = some content ∧ chosen? s tagger = some tokens)
    (library.tag tagger)
    fun answer s => answer = labels content tokens ∧ chosen? s tagger = some tokens
  probability_yields : ∀ tagger gold content tokens, Action.Yields
    (fun s => content? s tagger = some content ∧ chosen? s tagger = some tokens)
    (library.probability tagger gold)
    fun answer s => answer = score content tokens gold ∧ chosen? s tagger = some tokens
  marginal_yields : ∀ tagger label i content tokens, Action.Yields
    (fun s => content? s tagger = some content ∧ chosen? s tagger = some tokens)
    (library.marginal tagger label i)
    fun answer s => answer = marginal content tokens label i ∧ chosen? s tagger = some tokens

namespace Library.Account

variable {library : Library σ τ} (account : library.Account)

/-! ### Verdicts -/

/-- What a library says about a name, by the content of a model. -/
def verdict (withMarginals : Bool) (content : ByteArray) (tokens : List (Vector Float)) : Verdict :=
  let labels := account.labels content tokens
  ⟨labels, account.score content tokens labels,
    if withMarginals then
      some (labels.zipIdx.map fun place => account.marginal content tokens place.1 place.2)
    else none⟩

/-- A tagger has a model open and was told to choose a name. -/
def IsSet (tagger : τ) (content : ByteArray) (tokens : List (Vector Float)) (s : σ) : Prop :=
  account.content? s tagger = some content ∧ account.chosen? s tagger = some tokens

/-- An answer about the chosen name leaves the name and the model as they are. -/
theorem isSet_yields {tagger : τ} {content : ByteArray} {tokens : List (Vector Float)}
    {action : Action σ α} {value : α} (hkeeps : Action.Keeps account.content? action)
    (h : Action.Yields (account.IsSet tagger content tokens) action
      fun answer s => answer = value ∧ account.chosen? s tagger = some tokens) :
    Action.Yields (account.IsSet tagger content tokens) action
      fun answer s => answer = value ∧ account.IsSet tagger content tokens s := by
  intro s hs answer s' hperform
  obtain ⟨hanswer, hchosen⟩ := h s hs answer s' hperform
  have hcontent := congrFun (hkeeps s) tagger
  rw [hperform] at hcontent
  exact ⟨hanswer, hcontent.trans hs.1, hchosen⟩

theorem choose_isSet (tagger : τ) (content : ByteArray) (tokens : List (Vector Float)) :
    Action.Yields (fun s => account.content? s tagger = some content)
      (library.choose tagger tokens) fun _ s => account.IsSet tagger content tokens s := by
  intro s hs a s' hperform
  have hcontent := congrFun (account.choose_keeps tagger tokens s) tagger
  rw [hperform] at hcontent
  exact ⟨hcontent.trans hs, account.choose_yields tagger tokens s trivial a s' hperform⟩

/-- The verdict on a name depends on nothing but the model and the name. -/
theorem judge_yields (withMarginals : Bool) (tagger : τ) (content : ByteArray)
    (tokens : List (Vector Float)) :
    Action.Yields (fun s => account.content? s tagger = some content)
      (library.judge withMarginals tokens tagger)
      fun verdict _ => verdict = account.verdict withMarginals content tokens := by
  rw [judge]
  refine (account.choose_isSet tagger content tokens).bind fun _ => ?_
  refine (account.isSet_yields (account.tag_keeps tagger)
    (account.tag_yields tagger content tokens)).bind fun labels => ?_
  rintro s ⟨rfl, hs⟩
  have hscore := account.isSet_yields (account.probability_keeps tagger _)
    (account.probability_yields tagger (account.labels content tokens) content tokens)
  refine hscore.bind (fun score => ?_) s hs
  rintro s ⟨rfl, hs⟩
  cases withMarginals with
  | false =>
    rintro _ _ ⟨⟩
    rfl
  | true =>
    have hmarginal (place : String × Nat) :=
      account.isSet_yields (account.marginal_keeps tagger place.1 place.2)
        (account.marginal_yields tagger place.1 place.2 content tokens)
    refine (Action.Yields.mapM hmarginal _).bind (fun marginals => .pure ?_) s hs
    rintro s ⟨rfl, -⟩
    rfl

/-- Whatever comes of a verdict, the taggers have the same models open. -/
theorem keeps_judge (withMarginals : Bool) (tokens : List (Vector Float)) (tagger : τ) :
    Action.Keeps account.content? (library.judge withMarginals tokens tagger) := by
  rw [judge]
  refine (account.choose_keeps tagger tokens).bind fun _ => ?_
  refine (account.tag_keeps tagger).bind fun labels => ?_
  refine (account.probability_keeps tagger labels).bind fun score => ?_
  cases withMarginals with
  | false => exact .pure _
  | true =>
    exact (Action.Keeps.mapM (fun _ => account.marginal_keeps tagger _ _) _).bind
      fun marginals => .pure _

/-! ### Models that are taken out -/

/-- A tagger is not touched while another one is used to take out what a model holds. -/
theorem keeps_inspect (content : ByteArray) {tagger other : τ} (hother : other ≠ tagger) :
    Action.Keeps (account.content? · other) (library.inspect content tagger) := by
  rw [inspect]
  refine (account.open_others tagger content other hother).bind fun _ => ?_
  refine Action.Keeps.bind (fun s => congrFun (account.labels_keeps tagger s) other)
    fun labels => ?_
  refine Action.Keeps.bind ?_ fun dump => .pure _
  refine Action.Keeps.mapFault (Action.Keeps.bind ?_ fun dump => .ofExcept _) _
  exact fun s => congrFun (account.dump_keeps tagger s) other

/-- The tagger for that is a new one, so that it is not one that has a model open. -/
theorem content_examine (content : ByteArray) {tagger : τ} {s : σ} {held : ByteArray}
    (h : account.content? s tagger = some held) :
    account.content? ((library.examine content).perform s).2 tagger = some held := by
  have hother : tagger ≠ (library.create.run s).1 := by
    rintro rfl
    rw [account.create_new] at h
    cases h
  have hperform : ((library.examine content).perform s).2 =
      ((library.close (library.create.run s).1).run
        ((library.inspect content (library.create.run s).1).perform
          (library.create.run s).2).2).2 := rfl
  have hinspect := account.keeps_inspect content hother (library.create.run s).2
  rw [hperform, account.close_others _ _ _ hother, ← h, ← congrFun (account.create_keeps s) tagger]
  exact hinspect

/-! ### The tagger of a handle -/

/-- The tagger that a handle keeps open, if there is one, has the content of the handle. -/
def Holds (handle : Handle) (world : World σ τ) : Prop :=
  ∀ tagger, world.taggers.lookup handle.serial = some tagger →
    account.content? world.library tagger = some handle.content

theorem holds_of_lookup_eq_none {handle : Handle} {world : World σ τ}
    (h : world.taggers.lookup handle.serial = none) : account.Holds handle world := by
  intro tagger htagger
  rw [h] at htagger
  cases htagger

end Library.Account

/-- A tagger is created for a handle, and kept if the content could be opened. -/
theorem Handle.perform_openTagger (library : Library σ τ) (handle : Handle) (world : World σ τ) :
    (handle.openTagger library).perform world =
      match (library.openModel (library.create.run world.library).1 handle.content).perform
          (library.create.run world.library).2 with
      | (.ok _, s) =>
          (.ok (library.create.run world.library).1,
            { world with
              library := s
              taggers := (handle.serial, (library.create.run world.library).1) :: world.taggers })
      | (.error fault, s) => (.error fault, { world with library := s }) := by
  have hcreate : (do
      let tagger ← (library.create : StateM σ τ)
      library.openModel tagger handle.content
      return tagger : Action σ τ).perform world.library =
        (library.openModel (library.create.run world.library).1 handle.content >>=
          fun _ => pure (library.create.run world.library).1 : Action σ τ).perform
            (library.create.run world.library).2 := Action.perform_bind _ _ _
  rw [openTagger, Action.perform_bind, Action.perform_withLibrary, hcreate, Action.perform_bind]
  generalize (library.openModel (library.create.run world.library).1 handle.content).perform
    (library.create.run world.library).2 = result
  obtain ⟨outcome, s⟩ := result
  cases outcome <;> rfl

/-- The tagger that is kept open is used again. -/
theorem Handle.perform_tagger (library : Library σ τ) (handle : Handle) (world : World σ τ) :
    (handle.tagger library).perform world =
      match world.taggers.lookup handle.serial with
      | some tagger => (.ok tagger, world)
      | none => (handle.openTagger library).perform world := by
  have hstate : (handle.tagger library).perform world =
      (match world.taggers.lookup handle.serial with
        | some tagger => (pure tagger : Action (World σ τ) τ)
        | none => handle.openTagger library).perform world := rfl
  rw [hstate]
  cases world.taggers.lookup handle.serial <;> rfl

namespace Library.Account

variable {library : Library σ τ} (account : library.Account)

/-- A tagger that is found has the content of the handle, and it is kept. -/
theorem tagger_yields (handle : Handle) :
    Action.Yields (account.Holds handle) (handle.tagger library) fun tagger world =>
      account.content? world.library tagger = some handle.content ∧
        world.taggers.lookup handle.serial = some tagger := by
  intro world hworld tagger world' hperform
  rw [Handle.perform_tagger] at hperform
  cases hlookup : world.taggers.lookup handle.serial with
  | some open_ =>
    rw [hlookup] at hperform
    cases hperform
    exact ⟨hworld tagger hlookup, hlookup⟩
  | none =>
    rw [hlookup, Handle.perform_openTagger] at hperform
    have hopen := account.open_yields (library.create.run world.library).1 handle.content
      (library.create.run world.library).2 trivial
    generalize (library.openModel (library.create.run world.library).1 handle.content).perform
      (library.create.run world.library).2 = result at hperform hopen
    obtain ⟨outcome, s⟩ := result
    cases outcome with
    | error fault => cases hperform
    | ok _ =>
      cases hperform
      exact ⟨hopen () s rfl, List.lookup_cons_self⟩

/-- A tagger that could not be opened is not kept. -/
theorem holds_tagger (handle : Handle) :
    Action.Preserves (account.Holds handle) (handle.tagger library) := by
  intro world hworld
  cases hperform : (handle.tagger library).perform world with
  | mk outcome world' =>
    cases outcome with
    | ok tagger =>
      obtain ⟨hcontent, hlookup⟩ := account.tagger_yields handle world hworld tagger world' hperform
      intro other hother
      obtain rfl : tagger = other := Option.some.inj (hlookup.symm.trans hother)
      exact hcontent
    | error fault =>
      rw [Handle.perform_tagger] at hperform
      cases hlookup : world.taggers.lookup handle.serial with
      | some open_ =>
        rw [hlookup] at hperform
        cases hperform
      | none =>
        rw [hlookup, Handle.perform_openTagger] at hperform
        generalize (library.openModel (library.create.run world.library).1 handle.content).perform
          (library.create.run world.library).2 = result at hperform
        obtain ⟨outcome, s⟩ := result
        cases outcome with
        | ok _ => cases hperform
        | error fault =>
          cases hperform
          exact account.holds_of_lookup_eq_none hlookup

/-- What is taken out of another model does not matter to the tagger of a handle. -/
theorem holds_examine (handle : Handle) (content : ByteArray) :
    Action.Preserves (account.Holds handle) (World.withLibrary (library.examine content)) :=
  fun _ hworld tagger htagger =>
    account.content_examine content (hworld tagger htagger)

end Library.Account

/-! ### Loading models -/

section

variable {library : Library σ τ} {P : World σ τ → Prop}
  (hexamine : ∀ content, Action.Preserves P (World.withLibrary (library.examine content)))
  (hissue : Action.Preserves P World.issue)
include hexamine hissue

/-- Loading a model takes out what it holds and issues a number. -/
theorem Source.preserves_load (files : Files) (source : Source) :
    Action.Preserves P (source.load library files) := by
  rw [Source.load]
  refine Action.Preserves.bind (.mapFault (.bind (.ofExcept _) fun content =>
    .bind (hexamine content) fun _ => .pure _) _) fun taken => ?_
  exact .bind (.ofExcept _) fun labels => .bind (.ofExcept _) fun attrs =>
    .bind hissue fun serial => .pure _

theorem Registry.preserves_load (files : Files) (registry : Registry) (name : String)
    (source : Source) (version? : Option String) :
    Action.Preserves P (registry.load library files name source version?) :=
  .bind (.bind (Source.preserves_load hexamine hissue files source) fun _ => .pure _)
    fun _ => .pure _

theorem Registry.preserves_loadRow (files : Files) (registry : Registry) (name? : Option String)
    (row? : Option StoredModel) :
    Action.Preserves P (registry.loadRow library files name? row?) := by
  cases row? with
  | none => exact fun _ hworld => hworld
  | some row => exact preserves_load hexamine hissue files registry _ _ _

theorem Session.preserves_loadModel (name : String) (source : Source) (version? : Option String) :
    Action.Preserves (fun session => P session.world)
      (loadModel library name source version?) := by
  refine Action.Preserves.bind (fun _ hsession => hsession) fun session => ?_
  refine Action.Preserves.bind (fun session' hsession => ?_) fun loaded => ?_
  · exact Registry.preserves_load hexamine hissue session.files session.registry name source
      version? session'.world hsession
  · exact .bind (fun _ hsession => hsession) fun _ => .pure _

theorem Session.preserves_loadStored (name? : Option String) (row? : Option StoredModel) :
    Action.Preserves (fun session => P session.world) (loadStored library name? row?) := by
  refine Action.Preserves.bind (fun _ hsession => hsession) fun session => ?_
  refine Action.Preserves.bind (fun session' hsession => ?_) fun loaded => ?_
  · exact Registry.preserves_loadRow hexamine hissue session.files session.registry name? row?
      session'.world hsession
  · exact .bind (fun _ hsession => hsession) fun _ => .pure _

end

end NameTagger
