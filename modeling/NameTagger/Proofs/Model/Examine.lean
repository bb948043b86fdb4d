import NameTagger.Proofs.Parse.Recording

/-!
# The calls of an examination

A library can be watched while it examines a model: beside its own state it notes each call that it
gets for that, with the tagger that the call is about and what came of it.  Watching changes nothing
else.  A tagger that is made is closed behind the last other call, whatever that came to.

* `Library.Visit`, `Visit.fault?`, `Visit.IsUse`: a call with its outcome, and what it tells;
* `Library.IsTidy`: calls that leave no tagger open;
* `Library.visited`: a library with a log of such calls;
* `Fault.IsExpected`, `Library.OpensExpectedly`: the faults that a loader reckons with;
* `Dump.IsNumbered`, `Dump.checked_cases`: what the check of a dump tells;
* `Library.Inspection`: the ways in which a model can be inspected;
* `Library.exists_inspection`, `Library.exists_examination`: there are no other ways.
-/

namespace NameTagger

variable {σ τ α ι W : Type}

/-! ### Calls -/

/-- A call to a library that is asked to examine a model, with the tagger and the outcome. -/
inductive Library.Visit (τ W : Type) where
  | created (tagger : τ)
  | opened (tagger : τ) (content : ByteArray) (outcome : Except Fault Unit)
  | listed (tagger : τ) (outcome : Except Fault (List String))
  | dumped (tagger : τ) (outcome : Except Fault (Dump W))
  | closed (tagger : τ)

namespace Library.Visit

/-- The fault with which a call failed. -/
def fault? : Visit τ W → Option Fault
  | .opened _ _ (.error fault) | .listed _ (.error fault) | .dumped _ (.error fault) => some fault
  | _ => none

/-- A call that uses a tagger that is there and stays there. -/
def IsUse (tagger : τ) : Visit τ W → Prop
  | .created _ | .closed _ => False
  | .opened used _ _ | .listed used _ | .dumped used _ => used = tagger

end Library.Visit

/-- If a tagger is made, it is closed once, behind all that is done with it. -/
def Library.IsTidy (visits : List (Visit τ W)) : Prop :=
  visits = [] ∨ ∃ tagger calls,
    visits = .created tagger :: calls ++ [.closed tagger] ∧ ∀ call ∈ calls, call.IsUse tagger

open Library (Visit)

/-- An action beside a log, to which it adds an entry for its outcome. -/
def Action.noting (action : Action σ α) (entry : Except Fault α → ι) : Action (σ × List ι) α :=
  ExceptT.mk fun s =>
    ((action.perform s.1).1, (action.perform s.1).2, s.2 ++ [entry (action.perform s.1).1])

theorem Action.perform_noting (action : Action σ α) (entry : Except Fault α → ι) (s : σ)
    (log : List ι) :
    (action.noting entry).perform (s, log) =
      ((action.perform s).1, (action.perform s).2, log ++ [entry (action.perform s).1]) := rfl

/-- A change of the state beside a log, to which it adds an entry for its value. -/
def StateM.noting (change : StateM σ α) (entry : α → ι) : StateM (σ × List ι) α := fun s =>
  ((change.run s.1).1, (change.run s.1).2, s.2 ++ [entry (change.run s.1).1])

/-- A library with a log of the calls that examine a model. -/
def Library.visited (library : Library σ τ W) : Library (σ × List (Visit τ W)) τ W where
  create := StateM.noting library.create .created
  openModel tagger content := (library.openModel tagger content).noting (.opened tagger content)
  close tagger := StateM.noting (library.close tagger) fun _ => .closed tagger
  labels tagger := (library.labels tagger).noting (.listed tagger)
  dump tagger := (library.dump tagger).noting (.dumped tagger)
  choose tagger tokens := (library.choose tagger tokens).beside []
  tag tagger := (library.tag tagger).beside []
  probability tagger labels := (library.probability tagger labels).beside []
  marginal tagger label i := (library.marginal tagger label i).beside []

/-! ### Faults that are expected -/

/-- A fault of a value, of the operating system or of the memory. -/
def Fault.IsExpected (fault : Fault) : Prop :=
  fault.kind.isA .value || fault.kind.isA .system || fault.kind.isA .memory

/-- Models are opened and their labels are listed with faults that are expected, if with any. -/
structure Library.OpensExpectedly (library : Library σ τ W) : Prop where
  openModel (tagger : τ) (content : ByteArray) (s : σ) (fault : Fault) :
    ((library.openModel tagger content).perform s).1 = .error fault → fault.IsExpected
  labels (tagger : τ) (s : σ) (fault : Fault) :
    ((library.labels tagger).perform s).1 = .error fault → fault.IsExpected

/-! ### Numbers of a dump -/

namespace Lexicon

/-- Listed strings have integers, or one of them has none. -/
theorem values_cases (listed : List (String × SourceId)) :
    (∃ numbered, values listed = .ok numbered ∧ numbered.map (·.1) = listed.map (·.1) ∧
      ∀ entry ∈ listed, ∃ n, entry.2.value = .ok n) ∨
    ∃ fault, values listed = .error fault ∧ ∃ entry ∈ listed, entry.2.value = .error fault := by
  induction listed with
  | nil => exact .inl ⟨[], rfl, rfl, List.forall_mem_nil _⟩
  | cons entry rest ih =>
    obtain ⟨s, id⟩ := entry
    rw [values]
    cases hvalue : id.value with
    | error fault => exact .inr ⟨fault, rfl, _, List.mem_cons_self, hvalue⟩
    | ok n =>
      rcases ih with ⟨numbered, hvalues, hstrings, hall⟩ | ⟨fault, hvalues, later, hmem, hlater⟩
      · refine .inl ⟨(s, n) :: numbered, by rw [hvalues]; rfl, ?_, ?_⟩
        · rw [List.map_cons, List.map_cons, hstrings]
        · exact List.forall_mem_cons.2 ⟨⟨n, hvalue⟩, hall⟩
      · exact .inr ⟨fault, by rw [hvalues]; rfl, later, List.mem_cons_of_mem _ hmem, hlater⟩

end Lexicon

/-- What is no integer is no lack of memory. -/
theorem SourceId.not_memory_of_value {id : SourceId} {fault : Fault}
    (h : id.value = .error fault) : fault.kind.isA .memory = false := by
  cases id with
  | int n => cases h
  | float x =>
    rw [value, ofFloat] at h
    split at h
    · cases h
      decide
    · split at h
      · cases h
        decide
      · cases h
  | text s =>
    rw [value, ofText] at h
    split at h
    · cases h
    · cases h
      rfl

namespace Dump

/-- All numbers of a dump are integers. -/
def IsNumbered (dump : Dump W) : Prop :=
  ∀ entry ∈ dump.labels ++ dump.attributes, ∃ n, entry.2.value = .ok n

/-- A dump passes its check as it is, or one of its numbers is no integer. -/
theorem checked_cases (dump : Dump W) :
    (dump.checked = .ok dump ∧ dump.IsNumbered) ∨
      ∃ fault, dump.checked = .error fault ∧ fault.kind.isA .memory = false ∧
        ¬dump.IsNumbered := by
  have hrefused {listed : List (String × SourceId)} {fault : Fault}
      (h : ∃ entry ∈ listed, entry.2.value = .error fault)
      (hsub : listed ⊆ dump.labels ++ dump.attributes) :
      fault.kind.isA .memory = false ∧ ¬dump.IsNumbered := by
    obtain ⟨entry, hmem, hvalue⟩ := h
    refine ⟨SourceId.not_memory_of_value hvalue, fun hnumbered => ?_⟩
    obtain ⟨n, hn⟩ := hnumbered entry (hsub hmem)
    rw [hn] at hvalue
    cases hvalue
  rw [checked]
  rcases Lexicon.values_cases dump.labels with ⟨_, hlabels, -, hall⟩ | ⟨fault, hlabels, hentry⟩
  · rcases Lexicon.values_cases dump.attributes with ⟨_, hattrs, -, hall'⟩ | ⟨fault, hattrs, hentry⟩
    · exact .inl ⟨by rw [hlabels, hattrs]; rfl, List.forall_mem_append.2 ⟨hall, hall'⟩⟩
    · exact .inr ⟨fault, by rw [hlabels, hattrs]; rfl,
        hrefused hentry (List.subset_append_right _ _)⟩
  · exact .inr ⟨fault, by rw [hlabels]; rfl, hrefused hentry (List.subset_append_left _ _)⟩

end Dump

/-! ### Inspections -/

namespace Library

/-- The calls that inspect a model, and what they come to.  They end with the first that fails. -/
inductive Inspection (tagger : τ) (content : ByteArray) :
    List (Visit τ W) → Except Fault (List String × Dump W) → Prop
  | rejected {fault : Fault} (h : fault.IsExpected) :
      Inspection tagger content [.opened tagger content (.error fault)] (.error fault)
  | unlisted {fault : Fault} (h : fault.IsExpected) :
      Inspection tagger content
        [.opened tagger content (.ok ()), .listed tagger (.error fault)] (.error fault)
  | undumped (listed : List String) (fault : Fault) :
      Inspection tagger content
        [.opened tagger content (.ok ()), .listed tagger (.ok listed),
          .dumped tagger (.error fault)]
        (.error (unreadableDump fault))
  | unnumbered (listed : List String) {dump : Dump W} {fault : Fault}
      (hmemory : fault.kind.isA .memory = false) (hdump : ¬dump.IsNumbered) :
      Inspection tagger content
        [.opened tagger content (.ok ()), .listed tagger (.ok listed), .dumped tagger (.ok dump)]
        (.error (unreadableDump fault))
  | whole (listed : List String) {dump : Dump W} (hdump : dump.IsNumbered) :
      Inspection tagger content
        [.opened tagger content (.ok ()), .listed tagger (.ok listed), .dumped tagger (.ok dump)]
        (.ok (listed, dump))

/-- The calls of an inspection use one tagger and do not close it. -/
theorem Inspection.isUse {tagger : τ} {content : ByteArray} {calls : List (Visit τ W)}
    {outcome : Except Fault (List String × Dump W)} (h : Inspection tagger content calls outcome) :
    ∀ call ∈ calls, call.IsUse tagger := by
  cases h <;> simp [Visit.IsUse]

/-- A dump that is taken out has integers for its numbers. -/
theorem Inspection.isNumbered {tagger : τ} {content : ByteArray} {calls : List (Visit τ W)}
    {listed : List String} {dump : Dump W}
    (h : Inspection tagger content calls (.ok (listed, dump))) : dump.IsNumbered := by
  cases h with
  | whole _ hdump => exact hdump

theorem perform_readDump (library : Library σ τ W) (tagger : τ) (s : σ) :
    (library.readDump tagger).perform s =
      match (library.dump tagger).perform s with
      | (.error fault, s) => (.error (unreadableDump fault), s)
      | (.ok dump, s) => (dump.checked.mapError unreadableDump, s) := by
  rw [readDump, Action.perform_mapFault, Action.perform_bind_ofExcept]
  obtain ⟨dumped, s⟩ := (library.dump tagger).perform s
  cases dumped <;> rfl

/-- An inspection call by call. -/
theorem perform_inspect (library : Library σ τ W) (content : ByteArray) (tagger : τ) (s : σ) :
    (library.inspect content tagger).perform s =
      match (library.openModel tagger content).perform s with
      | (.error fault, s) => (.error fault, s)
      | (.ok _, s) =>
        match (library.labels tagger).perform s with
        | (.error fault, s) => (.error fault, s)
        | (.ok listed, s) =>
          match (library.dump tagger).perform s with
          | (.error fault, s) => (.error (unreadableDump fault), s)
          | (.ok dump, s) => ((dump.checked.mapError unreadableDump).map (Prod.mk listed), s) := by
  rw [inspect, Action.perform_bind]
  obtain ⟨opened, s⟩ := (library.openModel tagger content).perform s
  cases opened with
  | error fault => rfl
  | ok _ =>
    dsimp only
    rw [Action.perform_bind]
    obtain ⟨listed, s⟩ := (library.labels tagger).perform s
    cases listed with
    | error fault => rfl
    | ok listed =>
      dsimp only
      rw [Action.perform_bind, perform_readDump]
      obtain ⟨dumped, s⟩ := (library.dump tagger).perform s
      cases dumped with
      | error fault => rfl
      | ok dump =>
        dsimp only
        cases dump.checked <;> rfl

/-- A model is inspected in one of these ways, and in the same way if the library is watched. -/
theorem exists_inspection {library : Library σ τ W} (hlibrary : library.OpensExpectedly)
    (content : ByteArray) (tagger : τ) (s : σ) (log : List (Visit τ W)) :
    ∃ calls outcome s',
      (library.inspect content tagger).perform s = (outcome, s') ∧
      (library.visited.inspect content tagger).perform (s, log) = (outcome, s', log ++ calls) ∧
      Inspection tagger content calls outcome := by
  have hopen (s : σ) (log : List (Visit τ W)) :
      (library.visited.openModel tagger content).perform (s, log) = _ :=
    Action.perform_noting ..
  have hlist (s : σ) (log : List (Visit τ W)) :
      (library.visited.labels tagger).perform (s, log) = _ := Action.perform_noting ..
  have hdump (s : σ) (log : List (Visit τ W)) :
      (library.visited.dump tagger).perform (s, log) = _ := Action.perform_noting ..
  rw [perform_inspect, perform_inspect, hopen]
  have hexpected := hlibrary.openModel tagger content s
  generalize (library.openModel tagger content).perform s = opened at hexpected ⊢
  obtain ⟨⟨fault⟩ | _, s⟩ := opened
  · exact ⟨_, _, _, rfl, rfl, .rejected (hexpected fault rfl)⟩
  dsimp only
  rw [hlist]
  have hexpected := hlibrary.labels tagger s
  generalize (library.labels tagger).perform s = listed at hexpected ⊢
  obtain ⟨⟨fault⟩ | listed, s⟩ := listed
  · exact ⟨_, _, _, rfl, by simp, .unlisted (hexpected fault rfl)⟩
  dsimp only
  rw [hdump]
  obtain ⟨⟨fault⟩ | dump, s⟩ := (library.dump tagger).perform s
  · exact ⟨_, _, _, rfl, by simp, .undumped listed fault⟩
  dsimp only
  rcases dump.checked_cases with ⟨hchecked, hnumbered⟩ | ⟨fault, hchecked, hmemory, hnumbered⟩
  · rw [hchecked]
    exact ⟨_, _, _, rfl, by simp, .whole listed hnumbered⟩
  · rw [hchecked]
    exact ⟨_, _, _, rfl, by simp, .unnumbered listed hmemory hnumbered⟩

/-- An examination is an inspection with a tagger that is made before it and closed behind it. -/
theorem perform_examine (library : Library σ τ W) (content : ByteArray) (s : σ) :
    (library.examine content).perform s =
      let (tagger, s) := library.create.run s
      let (outcome, s) := (library.inspect content tagger).perform s
      (outcome, ((library.close tagger).run s).2) := rfl

/-- A tagger is made, it is used to inspect the model, and it is closed. -/
theorem exists_examination {library : Library σ τ W} (hlibrary : library.OpensExpectedly)
    (content : ByteArray) (s : σ) (log : List (Visit τ W)) :
    ∃ tagger calls outcome s',
      (library.examine content).perform s = (outcome, s') ∧
      (library.visited.examine content).perform (s, log) =
        (outcome, s', log ++ (.created tagger :: calls ++ [.closed tagger])) ∧
      Inspection tagger content calls outcome := by
  have hcreate : library.visited.create.run (s, log) = ((library.create.run s).1,
      (library.create.run s).2, log ++ [.created (library.create.run s).1]) := rfl
  rw [perform_examine, perform_examine, hcreate]
  obtain ⟨tagger, s⟩ := library.create.run s
  obtain ⟨calls, outcome, s', hperform, hvisited, hinspection⟩ :=
    exists_inspection hlibrary content tagger s (log ++ [.created tagger])
  dsimp only
  rw [hperform, hvisited]
  refine ⟨tagger, calls, outcome, ((library.close tagger).run s').2, rfl, ?_, hinspection⟩
  have hclose : (library.visited.close tagger).run (s', log ++ [.created tagger] ++ calls) =
      ((), ((library.close tagger).run s').2,
        log ++ [.created tagger] ++ calls ++ [.closed tagger]) := rfl
  dsimp only
  rw [hclose]
  simp

end Library

end NameTagger
