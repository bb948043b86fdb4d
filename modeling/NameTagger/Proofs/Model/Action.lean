import NameTagger.Model.Basic

/-!
# Actions step by step

* `perform_bind`, `perform_bind_ofExcept`, `perform_tryCatch`, `perform_mapFault`,
  `perform_withLibrary`: what an action that is made of others comes to, and the state behind it;
* `exists_of_bind`, `exists_of_bind_eq_ok`: a success behind another step follows a success of that;
* `Keeps`: an action that leaves a part of the state as it is;
* `view_bind`: such an action behind another one does not matter to that part;
* `Library.idle`: a library that does nothing.
-/

namespace NameTagger

theorem exists_of_bind_eq_ok {ε α β : Type} {x : Except ε α} {f : α → Except ε β} {b : β}
    (h : x >>= f = .ok b) : ∃ a, x = .ok a ∧ f a = .ok b := by
  cases x with
  | error e => cases h
  | ok a => exact ⟨a, rfl, h⟩

namespace Action

variable {σ τ α β ι : Type}

/-! ### What an action comes to -/

theorem perform_bind (action : Action σ α) (f : α → Action σ β) (s : σ) :
    (action >>= f).perform s =
      match action.perform s with
      | (.ok a, s) => (f a).perform s
      | (.error fault, s) => (.error fault, s) := by
  have hrun : (action >>= f).perform s =
      (ExceptT.bindCont f (action.perform s).1).run (action.perform s).2 := rfl
  rw [hrun]
  obtain ⟨outcome, s⟩ := action.perform s
  cases outcome <;> rfl

theorem exists_of_bind {action : Action σ α} {f : α → Action σ β} {s : σ} {b : β}
    (h : ((action >>= f).perform s).1 = .ok b) :
    ∃ a s', (action.perform s).1 = .ok a ∧ ((f a).perform s').1 = .ok b := by
  rw [perform_bind] at h
  rcases hperform : action.perform s with ⟨outcome, s'⟩
  rw [hperform] at h
  cases outcome with
  | error fault => cases h
  | ok a => exact ⟨a, s', rfl, h⟩

/-- A result that is worked out of what an action comes to leaves the state alone. -/
theorem perform_bind_ofExcept (action : Action σ α) (f : α → Except Fault β) (s : σ) :
    (action >>= fun a => ofExcept (f a)).perform s =
      ((action.perform s).1.bind f, (action.perform s).2) := by
  rw [perform_bind]
  obtain ⟨outcome, s⟩ := action.perform s
  cases outcome <;> rfl

theorem perform_tryCatch (action : Action σ α) (handle : Fault → Action σ α) (s : σ) :
    (tryCatch action handle : Action σ α).perform s =
      match action.perform s with
      | (.ok a, s) => (.ok a, s)
      | (.error fault, s) => (handle fault).perform s := by
  change StateT.run (ExceptT.run (ExceptT.tryCatch action handle)) s = _
  unfold ExceptT.tryCatch
  rw [ExceptT.run_mk, StateT.run_bind]
  have hrun : StateT.run action s = action.perform s := rfl
  rw [hrun]
  obtain ⟨outcome, s⟩ := action.perform s
  cases outcome <;> rfl

theorem perform_mapFault (action : Action σ α) (f : Fault → Fault) (s : σ) :
    (action.mapFault f).perform s =
      ((action.perform s).1.mapError f, (action.perform s).2) := by
  have hrun : (action.mapFault f).perform s =
      match action.perform s with
      | (.ok a, s) => (.ok a, s)
      | (.error fault, s) => (.error (f fault), s) := rfl
  rw [hrun]
  obtain ⟨outcome, s⟩ := action.perform s
  cases outcome <;> rfl

theorem perform_withLibrary (action : Action σ α) (world : World σ τ) :
    (World.withLibrary action).perform world =
      ((action.perform world.library).1,
        { world with library := (action.perform world.library).2 }) := rfl

/-! ### A part of the state -/

/-- An action leaves a part of the state as it is. -/
def Keeps (view : σ → β) (action : Action σ α) : Prop :=
  ∀ s, view (action.perform s).2 = view s

variable {view : σ → β}

/-- What keeps a part of the state does not matter to it behind another action. -/
theorem view_bind (action : Action σ α) {f : α → Action σ ι} (hf : ∀ a, Keeps view (f a)) (s : σ) :
    view ((action >>= f).perform s).2 = view (action.perform s).2 := by
  rw [perform_bind]
  obtain ⟨outcome, s⟩ := action.perform s
  cases outcome with
  | error fault => rfl
  | ok a => exact hf a s

namespace Keeps

theorem pure (a : α) : Keeps view (pure a) := fun _ => rfl

theorem ofExcept (result : Except Fault α) : Keeps view (ofExcept result) := fun _ => rfl

theorem bind {action : Action σ α} {f : α → Action σ ι} (h : Keeps view action)
    (hf : ∀ a, Keeps view (f a)) : Keeps view (action >>= f) :=
  fun s => (view_bind action hf s).trans (h s)

theorem mapM {f : ι → Action σ α} (hf : ∀ a, Keeps view (f a)) (l : List ι) :
    Keeps view (l.mapM f) := by
  induction l with
  | nil => exact pure []
  | cons a l ih =>
    rw [List.mapM_cons]
    exact (hf a).bind fun b => ih.bind fun bs => pure (b :: bs)

theorem withLibrary {action : Action σ α} (h : Keeps view action) :
    Keeps (fun world : World σ τ => view world.library) (World.withLibrary action) := by
  intro world
  rw [perform_withLibrary]
  exact h world.library

end Keeps

end Action

/-- A library that opens every model and labels nothing. -/
def Library.idle {W : Type} : Library Unit Unit W where
  create := pure ()
  openModel _ _ := pure ()
  close _ := pure ()
  labels _ := pure []
  dump _ := pure ⟨[], [], .ofList [], .ofList []⟩
  choose _ _ := pure ()
  tag _ := pure []
  probability _ _ := pure 1.0
  marginal _ _ _ := pure 1.0

end NameTagger
