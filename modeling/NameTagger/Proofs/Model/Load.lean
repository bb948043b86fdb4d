import NameTagger.Proofs.Lexicon.History
import NameTagger.Proofs.Model.Examine
import NameTagger.Proofs.Parse.Outcome

/-!
# What comes of loading a model

A model is loaded or there is one of three failures, which can be told from the storage and from the
calls to the library.

* `Storage`, `Files.storage`: where contents are read, which may go wrong in more ways than with
  files alone;
* `Source.loadFrom`, `Source.load_eq_loadFrom`: a model is loaded from a storage;
* `Source.Opened.Shows`, `Source.exists_lexicons`: what is in a model that was loaded;
* `Source.Loading`, `Source.exists_loading`: the ways in which a model can be loaded;
* `Source.LoadOutcome`, `Source.Loading.outcome`: what comes of each of them;
* `load_outcome`: what comes of loading a model.
-/

namespace NameTagger

variable {σ τ W : Type}

open Library (Visit Inspection)

/-! ### Storages -/

/-- Where contents are read. -/
structure Storage where
  /-- Whether a path name leads to something. -/
  contains : String → Bool
  /-- What comes of reading the file with a path name. -/
  read : String → Except Fault ByteArray
  /-- What comes of taking over a content that is at hand. -/
  copy : ByteArray → Except Fault ByteArray

/-- Files as a storage. -/
def Files.storage (files : Files) : Storage := ⟨files.contains, files.read, .ok⟩

/-- Contents are read with faults that are expected, if with any. -/
structure Storage.ReadsExpectedly (storage : Storage) : Prop where
  read (name : String) (fault : Fault) : storage.read name = .error fault → fault.IsExpected
  copy (content : ByteArray) (fault : Fault) :
    storage.copy content = .error fault → fault.IsExpected

/-- Every refusal of the operating system is expected. -/
theorem Files.storage_readsExpectedly (files : Files) : files.storage.ReadsExpectedly where
  read name fault h := by
    have hrefusal (refusal : Refusal) : (refusal.fault name).IsExpected := by
      cases refusal <;> exact Eq.refl true
    change files.read name = _ at h
    rw [Files.read] at h
    split at h
    · cases h
    · obtain rfl := Except.error.inj h
      exact hrefusal _
    · obtain rfl := Except.error.inj h
      exact hrefusal _
  copy content fault h := by cases h

namespace Source

/-- The content of a model in a storage. -/
def readFrom (storage : Storage) : Source → Except Fault ByteArray
  | .bytes content => storage.copy content
  | .path name =>
      if storage.contains name then storage.read name
      else .error ⟨.modelNotFound, "Model file not found: " ++ name⟩

/-- The content of a model in a storage, which must not be empty. -/
def contentFrom (storage : Storage) (source : Source) : Except Fault ByteArray := do
  let content ← source.readFrom storage
  if content.isEmpty then .error ⟨.modelLoadFailed, "Model data is empty"⟩ else .ok content

/-- Take out what a model holds whose content was read. -/
def takeOut (library : Library σ τ W) (content : Except Fault ByteArray) :
    Action (World σ τ) (ByteArray × List String × Dump W) :=
  Action.mapFault (do
    let content ← Action.ofExcept content
    let (listed, dump) ← World.withLibrary (library.examine content)
    return (content, listed, dump)) loadFault

/-- Make the lexicons of a model and take a number for its handle. -/
def openTaken (content : ByteArray) (listed : List String) (dump : Dump W) :
    Action (World σ τ) (Opened W) := do
  let labels ← Action.ofExcept (labelLexicon listed dump)
  let attrs ← Action.ofExcept (Lexicon.ofNumbered dump.attributes)
  let serial ← World.issue
  return ⟨⟨serial, content, dump.states, dump.transitions, labels.strings⟩, labels, attrs⟩

/-- Open a model from a storage and take out its lexicons. -/
def loadFrom (library : Library σ τ W) (storage : Storage) (source : Source) :
    Action (World σ τ) (Opened W) := do
  let (content, listed, dump) ← takeOut library (source.contentFrom storage)
  openTaken content listed dump

/-- Loading a model from files is loading it from a storage. -/
theorem load_eq_loadFrom (library : Library σ τ W) (files : Files) (source : Source) :
    source.load library files = source.loadFrom library files.storage := by
  have hread : source.read files = source.readFrom files.storage := by
    cases source <;> rfl
  rw [load, content, hread]
  rfl

/-! ### Faults while a model is loaded -/

/-- The kind of failure that a fault becomes. -/
def failureKind (fault : Fault) : FaultKind :=
  if fault.kind.isA .memory then .outOfMemory else .modelLoadFailed

theorem kind_loadFault {fault : Fault} (h : fault.IsExpected) :
    (loadFault fault).kind = failureKind fault := by
  unfold loadFault failureKind
  split
  · rfl
  · next hmemory =>
    rw [if_pos]
    unfold Fault.IsExpected at h
    simpa [hmemory] using h

/-- A dump that cannot be read fails in the same way, whatever kept it from being read. -/
theorem kind_loadFault_unreadableDump (fault : Fault) :
    (loadFault (unreadableDump fault)).kind = failureKind fault := by
  unfold unreadableDump failureKind
  split
  · next hmemory => rw [loadFault, if_pos hmemory]
  · rfl

/-! ### What is in a model that was loaded -/

/-- A model is what was read and written out of it. -/
structure Opened.Shows (content : ByteArray) (listed : List String) (dump : Dump W)
    (opened : Opened W) : Prop where
  content_eq : opened.handle.content = content
  states_eq : opened.handle.states = dump.states
  transitions_eq : opened.handle.transitions = dump.transitions
  labels_frozen : opened.labels.frozen = true
  attrs_frozen : opened.attrs.frozen = true
  /-- The features are those of the dump, whatever their numbers. -/
  mem_attrs : ∀ s, s ∈ opened.attrs.strings ↔ s ∈ dump.attributes.map (·.1)
  /-- The labels are those of the dump, or the list if there are none. -/
  mem_labels : ∀ s, s ∈ opened.labels.strings ↔
    s ∈ if dump.labels = [] then listed else dump.labels.map (·.1)
  /-- The handle and the lexicon number the labels in the same way. -/
  label_eq : ∀ i, opened.handle.labels[i]? = opened.labels.string? i
  number_iff : ∀ label i,
    opened.labels.id? label = some i ↔ opened.handle.labels[i]? = some label

/-- Strings with integers make up a frozen lexicon. -/
theorem exists_ofNumbered {listed : List (String × SourceId)}
    (h : ∀ entry ∈ listed, ∃ n, entry.2.value = .ok n) :
    ∃ d, Lexicon.ofNumbered listed = .ok d ∧ d.frozen = true ∧
      ∀ s, s ∈ d.strings ↔ s ∈ listed.map (·.1) := by
  rcases Lexicon.values_cases listed with ⟨numbered, hvalues, hstrings, -⟩ |
    ⟨fault, -, entry, hmem, hvalue⟩
  · refine ⟨_, by rw [Lexicon.ofNumbered, hvalues]; rfl, rfl, fun s => ?_⟩
    rw [Lexicon.strings_freeze, Lexicon.strings_ofStrings, List.mem_eraseDups, ← hstrings]
    exact ((List.mergeSort_perm numbered _).map _).mem_iff
  · obtain ⟨n, hn⟩ := h entry hmem
    rw [hn] at hvalue
    cases hvalue

/-- A dump all of whose numbers are integers gives a model. -/
theorem exists_lexicons (content : ByteArray) (listed : List String) {dump : Dump W}
    (h : dump.IsNumbered) (serial : Nat) :
    ∃ labels attrs, labelLexicon listed dump = .ok labels ∧
      Lexicon.ofNumbered dump.attributes = .ok attrs ∧
      Opened.Shows content listed dump
        ⟨⟨serial, content, dump.states, dump.transitions, labels.strings⟩, labels, attrs⟩ := by
  obtain ⟨attrs, hattrs, hfrozen, hmem⟩ :=
    exists_ofNumbered fun entry hentry => h entry (List.mem_append_right _ hentry)
  obtain ⟨labels, hlabels, hfrozen', hmem'⟩ : ∃ labels, labelLexicon listed dump = .ok labels ∧
      labels.frozen = true ∧ ∀ s, s ∈ labels.strings ↔
        s ∈ if dump.labels = [] then listed else dump.labels.map (·.1) := by
    unfold labelLexicon
    by_cases hnone : dump.labels = []
    · refine ⟨(Lexicon.ofStrings listed).freeze, by rw [hnone]; rfl, rfl, fun s => ?_⟩
      rw [if_pos hnone, Lexicon.strings_freeze, Lexicon.strings_ofStrings, List.mem_eraseDups]
    · rw [if_neg (by simpa using hnone), if_neg hnone]
      exact exists_ofNumbered fun entry hentry => h entry (List.mem_append_left _ hentry)
  refine ⟨labels, attrs, hlabels, hattrs, ?_⟩
  exact {
    content_eq := rfl
    states_eq := rfl
    transitions_eq := rfl
    labels_frozen := hfrozen'
    attrs_frozen := hfrozen
    mem_attrs := hmem
    mem_labels := hmem'
    label_eq := fun i => (labels.string?_eq i).symm
    number_iff := fun label i => by rw [labels.id?_eq_some_iff, labels.string?_eq] }

/-! ### The ways in which a model can be loaded -/

/-- A path name that leads to nothing. -/
def IsMissing (storage : Storage) (source : Source) : Prop :=
  ∃ name, source = .path name ∧ storage.contains name = false

/-- The calls to a library when a model is loaded, and what they come to. -/
inductive Loading (storage : Storage) (source : Source) :
    List (Visit τ W) → Except Fault (Opened W) → Prop
  | missing {name : String} (hsource : source = .path name)
      (habsent : storage.contains name = false) :
      Loading storage source [] (.error ⟨.modelNotFound, "Model file not found: " ++ name⟩)
  | refused {fault : Fault} (hpresent : ¬source.IsMissing storage)
      (hread : source.readFrom storage = .error fault) (hexpected : fault.IsExpected) :
      Loading storage source [] (.error (loadFault fault))
  | empty {content : ByteArray} (hread : source.readFrom storage = .ok content)
      (hempty : content.isEmpty = true) :
      Loading storage source [] (.error ⟨.modelLoadFailed, "Model data is empty"⟩)
  | failed {content : ByteArray} (hread : source.readFrom storage = .ok content)
      (hempty : content.isEmpty = false) {tagger : τ} {calls : List (Visit τ W)} {fault : Fault}
      (hinspection : Inspection tagger content calls (.error fault)) :
      Loading storage source (.created tagger :: calls ++ [.closed tagger])
        (.error (loadFault fault))
  | loaded {content : ByteArray} (hread : source.readFrom storage = .ok content)
      (hempty : content.isEmpty = false) {tagger : τ} {calls : List (Visit τ W)}
      {listed : List String} {dump : Dump W}
      (hinspection : Inspection tagger content calls (.ok (listed, dump))) {opened : Opened W}
      (hshows : opened.Shows content listed dump) :
      Loading storage source (.created tagger :: calls ++ [.closed tagger]) (.ok opened)

end Source

/-- A world whose library is watched while it examines models. -/
def World.visited (world : World σ τ) (log : List (Visit τ W)) :
    World (σ × List (Visit τ W)) τ :=
  { world with library := (world.library, log) }

namespace Source

theorem perform_takeOut_ok (library : Library σ τ W) (content : ByteArray)
    (world : World σ τ) :
    (takeOut library (.ok content)).perform world =
      ((((library.examine content).perform world.library).1.map (Prod.mk content)).mapError
          loadFault,
        { world with library := ((library.examine content).perform world.library).2 }) := by
  have hcontent : (do
      let content ← Action.ofExcept (.ok content)
      let (listed, dump) ← World.withLibrary (library.examine content)
      return (content, listed, dump) : Action (World σ τ) (ByteArray × List String × Dump W)) =
      World.withLibrary (library.examine content) >>= fun taken =>
        Action.ofExcept (.ok (content, taken)) := rfl
  rw [takeOut, hcontent, Action.perform_mapFault, Action.perform_bind_ofExcept,
    Action.perform_withLibrary]
  cases ((library.examine content).perform world.library).1 <;> rfl

/-- The lexicons of a dump all of whose numbers are integers can be made. -/
theorem exists_openTaken (content : ByteArray) (listed : List String) {dump : Dump W}
    (h : dump.IsNumbered) (issued : Nat) :
    ∃ opened : Opened W, opened.Shows content listed dump ∧
      ∀ {σ : Type} (s : σ) (taggers : List (Nat × τ)),
        (openTaken content listed dump).perform (⟨s, issued, taggers⟩ : World σ τ) =
          (.ok opened, ⟨s, issued + 1, taggers⟩) := by
  obtain ⟨labels, attrs, hlabels, hattrs, hshows⟩ := exists_lexicons content listed h issued
  refine ⟨_, hshows, fun s taggers => ?_⟩
  rw [openTaken, hlabels, hattrs]
  rfl

/-- There is nothing to read, or it is refused or empty, or there is a content. -/
theorem contentFrom_cases {storage : Storage} (hstorage : storage.ReadsExpectedly)
    (source : Source) :
    (∃ name, source = .path name ∧ storage.contains name = false ∧
      source.contentFrom storage =
        .error ⟨.modelNotFound, "Model file not found: " ++ name⟩) ∨
    (∃ fault, ¬source.IsMissing storage ∧ source.readFrom storage = .error fault ∧
      fault.IsExpected ∧ source.contentFrom storage = .error fault) ∨
    (∃ content, source.readFrom storage = .ok content ∧ content.isEmpty = true ∧
      source.contentFrom storage = .error ⟨.modelLoadFailed, "Model data is empty"⟩) ∨
    ∃ content, source.readFrom storage = .ok content ∧ content.isEmpty = false ∧
      source.contentFrom storage = .ok content := by
  by_cases hmissing : source.IsMissing storage
  · obtain ⟨name, rfl, habsent⟩ := hmissing
    refine .inl ⟨name, rfl, habsent, ?_⟩
    rw [contentFrom, readFrom, if_neg (Bool.eq_false_iff.1 habsent)]
    rfl
  · have hexpected (fault : Fault) (h : source.readFrom storage = .error fault) :
        fault.IsExpected := by
      cases source with
      | bytes content => exact hstorage.copy content fault h
      | path name =>
        have hpresent : storage.contains name = true :=
          Bool.of_not_eq_false fun habsent => hmissing ⟨name, rfl, habsent⟩
        rw [readFrom, if_pos hpresent] at h
        exact hstorage.read name fault h
    right
    rw [contentFrom]
    cases hread : source.readFrom storage with
    | error fault => exact .inl ⟨fault, hmissing, rfl, hexpected fault hread, rfl⟩
    | ok content =>
      cases hempty : content.isEmpty with
      | true => exact .inr (.inl ⟨content, rfl, hempty, if_pos hempty⟩)
      | false =>
        exact .inr (.inr ⟨content, rfl, hempty, if_neg (Bool.eq_false_iff.1 hempty)⟩)

/-- A model is loaded in one of these ways, and in the same way if the library is watched. -/
theorem exists_loading {library : Library σ τ W} (hlibrary : library.OpensExpectedly)
    {storage : Storage} (hstorage : storage.ReadsExpectedly) (source : Source)
    (world : World σ τ) :
    ∃ visits result world',
      (source.loadFrom library storage).perform world = (result, world') ∧
      (source.loadFrom library.visited storage).perform (world.visited []) =
        (result, world'.visited visits) ∧
      Loading storage source visits result := by
  have hfailed {fault : Fault} (hcontent : source.contentFrom storage = .error fault) :
      (source.loadFrom library storage).perform world = (.error (loadFault fault), world) ∧
      (source.loadFrom library.visited storage).perform (world.visited []) =
        (.error (loadFault fault), world.visited []) := by
    rw [loadFrom, loadFrom, hcontent]
    exact ⟨rfl, rfl⟩
  rcases contentFrom_cases hstorage source with ⟨name, hsource, habsent, hcontent⟩ |
    ⟨fault, hpresent, hread, hexpected, hcontent⟩ | ⟨content, hread, hempty, hcontent⟩ |
    ⟨content, hread, hempty, hcontent⟩
  · exact ⟨[], _, world, (hfailed hcontent).1, (hfailed hcontent).2, .missing hsource habsent⟩
  · exact ⟨[], _, world, (hfailed hcontent).1, (hfailed hcontent).2,
      .refused hpresent hread hexpected⟩
  · exact ⟨[], _, world, (hfailed hcontent).1, (hfailed hcontent).2, .empty hread hempty⟩
  · obtain ⟨tagger, calls, outcome, s, hperform, hvisited, hinspection⟩ :=
      Library.exists_examination hlibrary content world.library []
    have hvisited' : (library.visited.examine content).perform (world.visited []).library =
        (outcome, s, .created tagger :: calls ++ [.closed tagger]) := hvisited
    rw [loadFrom, loadFrom, hcontent, Action.perform_bind, Action.perform_bind,
      perform_takeOut_ok, perform_takeOut_ok, hperform, hvisited']
    cases outcome with
    | error fault => exact ⟨_, _, _, rfl, rfl, .failed hread hempty hinspection⟩
    | ok taken =>
      obtain ⟨listed, dump⟩ := taken
      obtain ⟨opened, hshows, hopen⟩ :=
        exists_openTaken (τ := τ) content listed hinspection.isNumbered world.issued
      exact ⟨_, _, _, hopen s world.taggers, hopen _ world.taggers,
        .loaded hread hempty hinspection hshows⟩

/-! ### What comes of loading a model -/

/-- A fault that came up when a model was read, or in a call to a library. -/
def Raises (storage : Storage) (source : Source) (visits : List (Visit τ W)) (fault : Fault) :
    Prop :=
  (¬source.IsMissing storage ∧ source.readFrom storage = .error fault) ∨
    ∃ visit ∈ visits, visit.fault? = some fault

/-- What comes of loading a model, told by the storage and the calls to the library. -/
structure LoadOutcome (storage : Storage) (source : Source) (visits : List (Visit τ W))
    (result : Except Fault (Opened W)) : Prop where
  modelNotFound : FailsAs .modelNotFound result ↔ source.IsMissing storage
  outOfMemory : FailsAs .outOfMemory result ↔
    ∃ fault, source.Raises storage visits fault ∧ fault.kind.isA .memory = true
  modelLoadFailed : FailsAs .modelLoadFailed result ↔
    (∃ content, source.readFrom storage = .ok content ∧ content.isEmpty = true) ∨
    (∃ fault, source.Raises storage visits fault ∧ fault.kind.isA .memory = false) ∨
    ∃ tagger dump, .dumped tagger (.ok dump) ∈ visits ∧ ¬dump.IsNumbered
  /-- There are no other failures. -/
  kind : ∀ fault, result = .error fault →
    fault.kind = .modelNotFound ∨ fault.kind = .outOfMemory ∨ fault.kind = .modelLoadFailed
  /-- No tagger stays open. -/
  tidy : Library.IsTidy visits
  /-- In all other cases the model is loaded. -/
  loaded : ∀ opened, result = .ok opened → ∃ content tagger listed dump,
    source.readFrom storage = .ok content ∧ opened.Shows content listed dump ∧
      visits = [.created tagger, .opened tagger content (.ok ()), .listed tagger (.ok listed),
        .dumped tagger (.ok dump), .closed tagger]

namespace LoadOutcome

variable {storage : Storage} {source : Source} {visits : List (Visit τ W)}

/-- One fault came up, and what it becomes is what comes of loading. -/
theorem of_raises {raised fault : Fault} (hkind : fault.kind = failureKind raised)
    (hraises : ∀ other, source.Raises storage visits other ↔ other = raised)
    (hmissing : ¬source.IsMissing storage)
    (hcontent : ∀ content, source.readFrom storage = .ok content → content.isEmpty = false)
    (hdump : ∀ tagger dump, .dumped tagger (.ok dump) ∉ visits)
    (htidy : Library.IsTidy visits) :
    LoadOutcome storage source visits (.error fault : Except Fault (Opened W)) := by
  have hempty : ¬∃ content, source.readFrom storage = .ok content ∧ content.isEmpty = true :=
    fun ⟨content, hread, hempty⟩ =>
      Bool.false_ne_true ((hcontent content hread).symm.trans hempty)
  have hnumbered : ¬∃ tagger dump, .dumped tagger (.ok dump) ∈ visits ∧ ¬dump.IsNumbered :=
    fun ⟨tagger, dump, hmem, _⟩ => hdump tagger dump hmem
  rw [failureKind] at hkind
  refine ⟨?_, ?_, ?_, ?_, htidy, nofun⟩
  · rw [failsAs_error_iff, hkind]
    exact iff_of_false (by split <;> decide) hmissing
  · rw [failsAs_error_iff, hkind]
    cases hmemory : raised.kind.isA .memory <;> simp [hraises, hmemory]
  · rw [failsAs_error_iff, hkind, or_iff_right hempty, or_iff_left hnumbered]
    cases hmemory : raised.kind.isA .memory <;> simp [hraises, hmemory]
  · rintro _ ⟨⟩
    rw [hkind]
    split <;> simp

/-- No fault came up, but the content is empty or a number is no integer. -/
theorem of_refusal {fault : Fault} (hkind : fault.kind = .modelLoadFailed)
    (hraises : ∀ other, ¬source.Raises storage visits other)
    (hmissing : ¬source.IsMissing storage)
    (hrefusal : (∃ content, source.readFrom storage = .ok content ∧ content.isEmpty = true) ∨
      ∃ tagger dump, .dumped tagger (.ok dump) ∈ visits ∧ ¬dump.IsNumbered)
    (htidy : Library.IsTidy visits) :
    LoadOutcome storage source visits (.error fault : Except Fault (Opened W)) := by
  refine ⟨?_, ?_, ?_, ?_, htidy, nofun⟩
  · rw [failsAs_error_iff, hkind]
    exact iff_of_false (by decide) hmissing
  · rw [failsAs_error_iff, hkind]
    exact iff_of_false (by decide) fun ⟨other, hother, _⟩ => hraises other hother
  · rw [failsAs_error_iff, hkind]
    exact iff_of_true rfl (hrefusal.imp id .inr)
  · rintro _ ⟨⟩
    exact .inr (.inr hkind)

end LoadOutcome

theorem IsMissing.readFrom_ne_ok {storage : Storage} {source : Source}
    (h : source.IsMissing storage) (content : ByteArray) :
    source.readFrom storage ≠ .ok content := by
  obtain ⟨name, rfl, habsent⟩ := h
  rw [readFrom, if_neg (Bool.eq_false_iff.1 habsent)]
  exact nofun

/-- Each of the ways in which a model can be loaded tells what comes of it. -/
theorem Loading.outcome {storage : Storage} {source : Source} {visits : List (Visit τ W)}
    {result : Except Fault (Opened W)} (h : Loading storage source visits result) :
    LoadOutcome storage source visits result := by
  cases h with
  | @missing name hsource habsent =>
    have hmissing : source.IsMissing storage := ⟨name, hsource, habsent⟩
    have hread := hmissing.readFrom_ne_ok
    have hraises (fault : Fault) : ¬source.Raises storage ([] : List (Visit τ W)) fault := by
      simp [Raises, hmissing]
    refine ⟨?_, ?_, ?_, ?_, .inl rfl, nofun⟩
    · exact iff_of_true ⟨_, rfl⟩ hmissing
    · simp [failsAs_error_iff, hraises]
    · simp [failsAs_error_iff, hraises, hread]
    · rintro _ ⟨⟩
      exact .inl rfl
  | refused hpresent hread hexpected =>
    refine .of_raises (kind_loadFault hexpected) (fun other => ?_) hpresent
      (fun content hcontent => ?_) (fun _ _ => List.not_mem_nil) (.inl rfl)
    · simp [Raises, hpresent, hread, eq_comm]
    · rw [hread] at hcontent
      cases hcontent
  | @empty content hread hempty =>
    have hpresent : ¬source.IsMissing storage := fun h => h.readFrom_ne_ok content hread
    refine .of_refusal rfl (fun other => ?_) hpresent (.inl ⟨content, hread, hempty⟩) (.inl rfl)
    simp [Raises, hread]
  | @failed content hread hempty tagger calls fault hinspection =>
    have hpresent : ¬source.IsMissing storage := fun h => h.readFrom_ne_ok content hread
    have hcontent (content' : ByteArray) (h : source.readFrom storage = .ok content') :
        content'.isEmpty = false := by
      rw [hread] at h
      exact Except.ok.inj h ▸ hempty
    have htidy : Library.IsTidy (.created tagger :: calls ++ [.closed tagger]) :=
      .inr ⟨tagger, calls, rfl, hinspection.isUse⟩
    cases hinspection with
    | rejected hexpected =>
      refine .of_raises (kind_loadFault hexpected) (fun other => ?_) hpresent hcontent ?_ htidy
      · simp [Raises, hread, Visit.fault?, eq_comm]
      · simp
    | unlisted hexpected =>
      refine .of_raises (kind_loadFault hexpected) (fun other => ?_) hpresent hcontent ?_ htidy
      · simp [Raises, hread, Visit.fault?, eq_comm]
      · simp
    | undumped listed fault =>
      refine .of_raises (kind_loadFault_unreadableDump fault) (fun other => ?_) hpresent hcontent ?_
        htidy
      · simp [Raises, hread, Visit.fault?, eq_comm]
      · simp
    | @unnumbered listed dump fault hmemory hdump =>
      refine .of_refusal ?_ (fun other => ?_) hpresent (.inr ⟨tagger, dump, ?_, hdump⟩) htidy
      · rw [kind_loadFault_unreadableDump, failureKind, hmemory]
        rfl
      · simp [Raises, hread, Visit.fault?]
      · simp
  | @loaded content hread hempty tagger calls listed dump hinspection opened hshows =>
    have hpresent : ¬source.IsMissing storage := fun h => h.readFrom_ne_ok content hread
    have htidy : Library.IsTidy (.created tagger :: calls ++ [.closed tagger]) :=
      .inr ⟨tagger, calls, rfl, hinspection.isUse⟩
    cases hinspection with
    | whole _ hdump =>
      have hraises (fault : Fault) : ¬source.Raises storage
          [.created tagger, .opened tagger content (.ok ()), .listed tagger (.ok listed),
            .dumped tagger (.ok dump), .closed tagger] fault := by
        simp [Raises, hread, Visit.fault?]
      refine ⟨?_, ?_, ?_, nofun, htidy, ?_⟩
      · exact iff_of_false not_failsAs_ok hpresent
      · simp [not_failsAs_ok, hraises]
      · simp [not_failsAs_ok, hraises, hread, hempty, hdump]
      · rintro _ ⟨⟩
        exact ⟨content, tagger, listed, dump, hread, hshows, rfl⟩

end Source

/-- If contents are read and models are opened and their labels are listed with faults of values, of
the operating system and of the memory, then loading a model comes to what the storage and the calls
to the library tell, whatever its dump comes to.  It does so also for files alone. -/
theorem load_outcome {library : Library σ τ W} (hlibrary : library.OpensExpectedly)
    {storage : Storage} (hstorage : storage.ReadsExpectedly) (source : Source)
    (world : World σ τ) :
    ∃ result world' visits,
      (source.loadFrom library storage).perform world = (result, world') ∧
      (source.loadFrom library.visited storage).perform (world.visited []) =
        (result, world'.visited visits) ∧
      source.LoadOutcome storage visits result ∧
      ∀ files : Files, storage = files.storage →
        (source.load library files).perform world = (result, world') := by
  obtain ⟨visits, result, world', hperform, hvisited, hloading⟩ :=
    Source.exists_loading hlibrary hstorage source world
  refine ⟨result, world', visits, hperform, hvisited, hloading.outcome, ?_⟩
  rintro files rfl
  rw [Source.load_eq_loadFrom]
  exact hperform

/-- A library that opens every model but cannot write any out. -/
def Library.undumpable : Library Unit Unit :=
  { Library.idle with
    labels := fun _ => pure ["SURNAME"]
    dump := fun _ => throw ⟨.indexRange, "list index out of range"⟩ }

theorem Library.undumpable_opensExpectedly : undumpable.OpensExpectedly where
  openModel _ _ _ _ h := nomatch h
  labels _ _ _ h := nomatch h

/-- A model that is opened and cannot be written out; its tagger is closed. -/
theorem load_outcome_unreadable_dump :
    Library.undumpable.OpensExpectedly ∧ (Files.empty []).storage.ReadsExpectedly ∧
    ∃ result world' visits,
      ((Source.bytes ⟨#[1]⟩).loadFrom Library.undumpable (Files.empty []).storage).perform
        (World.initial ()) = (result, world') ∧
      ((Source.bytes ⟨#[1]⟩).loadFrom Library.undumpable.visited
        (Files.empty []).storage).perform ((World.initial ()).visited []) =
          (result, world'.visited visits) ∧
      FailsAs .modelLoadFailed result ∧
      (Source.bytes ⟨#[1]⟩).LoadOutcome (Files.empty []).storage visits result ∧
      ∀ files : Files, (Files.empty []).storage = files.storage →
        ((Source.bytes ⟨#[1]⟩).load Library.undumpable files).perform (World.initial ()) =
          (result, world') := by
  have hstorage := (Files.empty []).storage_readsExpectedly
  obtain ⟨result, world', visits, hperform, hvisited, houtcome, hfiles⟩ :=
    load_outcome Library.undumpable_opensExpectedly hstorage (.bytes ⟨#[1]⟩) (World.initial ())
  have hfailed : FailsAs .modelLoadFailed result := by
    obtain rfl := congrArg Prod.fst hperform
    exact ⟨_, rfl⟩
  exact ⟨Library.undumpable_opensExpectedly, hstorage, result, world', visits, hperform, hvisited,
    hfailed, houtcome, hfiles⟩

end NameTagger
