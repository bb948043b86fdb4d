import NameTagger.Proofs.Files.Walk

/-!
# Changing files

What is written, made or taken away shows at its own path name, and nothing else does.

* `write_eq_ok_iff`, `createNew_eq_ok_iff`, `remove_eq_ok_iff`: what a change does;
* `exists_refusal_of_createNew`, `exists_refusal_of_remove`: why nothing is changed;
* `read_write`, `find_createNew`, `find_remove`: what is found where something was changed;
* `IsRemovable`, `isRemovable_of_createNew`: a file that can be taken away, as one that was made;
* `exists_locate_of_append`: a longer path name leads to another place;
* `find_createNew_append`, `find_remove_append`: a file beside another one does not touch it.
-/

namespace NameTagger.Files

variable {files files' : Files} {path : String} {content : ByteArray}

/-! ### What a change does -/

/-- A file can be made where a path name leads that does not end with a slash. -/
theorem creation_eq_ok_iff {place : Place} :
    files.creation path = .ok place ↔
      path.endsWith "/" = false ∧ files.locate path = .ok place := by
  rw [creation]
  cases hslash : path.endsWith "/" with
  | true =>
    cases files.locate (String.ofList (Path.dropSlashes path.toList)) <;> simp [bind, Except.bind]
  | false =>
    rw [Path.dropSlashes_of_endsWith hslash, String.ofList_toList]
    cases files.locate path <;> simp [bind, Except.bind]

theorem write_eq_ok_iff :
    files.write path content = .ok files' ↔
      ∃ place, files.creation path = .ok place ∧ files.node? place ≠ some .directory ∧
        files.isGuarded (files.changed place) = false ∧
        files.put place (.file content) = files' := by
  rw [write]
  cases files.creation path with
  | error refusal => simp
  | ok place =>
    simp only [Except.ok.injEq, exists_eq_left']
    split
    next h => simp [h]
    next h =>
      split
      next hguarded => simp [hguarded]
      next hfree => simp [h, hfree]

theorem createNew_eq_ok_iff :
    files.createNew path content = .ok files' ↔
      ∃ place, files.creation path = .ok place ∧ files.node? place = none ∧
        files.isGuarded place.dropLast = false ∧ files.put place (.file content) = files' := by
  rw [createNew]
  cases files.creation path with
  | error refusal => simp
  | ok place =>
    simp only [Except.ok.injEq, exists_eq_left']
    cases files.node? place <;> cases files.isGuarded place.dropLast <;> simp

theorem remove_eq_ok_iff :
    files.remove path = .ok files' ↔
      ∃ place old, files.locate path = .ok place ∧ files.node? place = some (.file old) ∧
        files.isGuarded place.dropLast = false ∧ files.erase place = files' := by
  rw [remove]
  cases files.locate path with
  | error refusal => simp
  | ok place =>
    simp only [Except.ok.injEq, exists_and_left, exists_eq_left']
    rcases files.node? place with - | ⟨old⟩ | - <;> cases files.isGuarded place.dropLast <;> simp

/-! ### What is refused -/

theorem exists_refusal_of_createNew {fault : Fault}
    (h : files.createNew path content = .error fault) :
    ∃ refusal : Refusal, fault = refusal.fault path := by
  rw [createNew] at h
  split at h
  next refusal _ => exact ⟨refusal, (Except.error.inj h).symm⟩
  next =>
    split at h
    · exact ⟨.exists_, (Except.error.inj h).symm⟩
    · split at h
      · exact ⟨.denied, (Except.error.inj h).symm⟩
      · cases h

theorem exists_refusal_of_remove {fault : Fault}
    (h : files.remove path = .error fault) :
    ∃ refusal : Refusal, fault = refusal.fault path := by
  rw [remove] at h
  split at h
  next refusal _ => exact ⟨refusal, (Except.error.inj h).symm⟩
  next =>
    split at h
    · exact ⟨.missing, (Except.error.inj h).symm⟩
    · split at h
      · exact ⟨.denied, (Except.error.inj h).symm⟩
      · split at h
        · exact ⟨.isDirectory, (Except.error.inj h).symm⟩
        · cases h

theorem find_put {place : Place} (hlocate : files.locate path = .ok place)
    (h : files.node? place ≠ some .directory) :
    (files.put place (.file content)).find path = .ok (.file content) :=
  find_eq_ok_iff.2 ⟨place, (agreeOff_put h content).locate hlocate, node?_put_self h _⟩

@[simp] theorem isClosed_put_self (files : Files) (place : Place) (node : Node) :
    (files.put place node).isClosed place = false := by
  rw [isClosed, guard?_put_self]
  rfl

@[simp] theorem isGuarded_put_self (files : Files) (place : Place) (node : Node) :
    (files.put place node).isGuarded place = false := by
  rw [isGuarded, guard?_put_self]
  rfl

/-- What was put at a place can be read. -/
theorem read_put {place : Place} (hlocate : files.locate path = .ok place)
    (h : files.node? place ≠ some .directory) :
    (files.put place (.file content)).read path = .ok content :=
  read_eq_ok_iff.2 (look_eq_ok_iff.2 ⟨place, (agreeOff_put h content).locate hlocate,
    node?_put_self h _, isClosed_put_self files place _⟩)

/-- A file that was written is read with its new content. -/
theorem read_write (h : files.write path content = .ok files') :
    files'.read path = .ok content := by
  obtain ⟨place, hcreation, hnode, -, rfl⟩ := write_eq_ok_iff.1 h
  exact read_put (creation_eq_ok_iff.1 hcreation).2 hnode

/-- The file with a path name can be taken away. -/
def IsRemovable (files : Files) (path : String) : Prop := ∃ files', files.remove path = .ok files'

/-- The root is always there, so that anything else lies in a directory. -/
theorem dropLast_ne {place : Place} (h : files.node? place = none) : place.dropLast ≠ place := by
  intro heq
  have hroot : place = [] := by
    have hlength := congrArg List.length heq
    rw [List.length_dropLast] at hlength
    exact List.length_eq_zero_iff.1 (by omega)
  rw [hroot] at h
  cases h

/-- A file that was made can be taken away again. -/
theorem isRemovable_of_createNew (h : files.createNew path content = .ok files') :
    files'.IsRemovable path := by
  obtain ⟨place, hcreation, hnode, hfree, rfl⟩ := createNew_eq_ok_iff.1 h
  obtain ⟨-, hlocate⟩ := creation_eq_ok_iff.1 hcreation
  have hfile : files.node? place ≠ some .directory := by simp [hnode]
  refine ⟨_, remove_eq_ok_iff.2 ⟨place, content, (agreeOff_put hfile content).locate hlocate,
    node?_put_self hfile _, ?_, rfl⟩⟩
  rw [isGuarded, guard?_put_of_ne (dropLast_ne hnode)]
  exact hfree

/-- Where a file was taken away, nothing is found. -/
theorem find_remove (h : files.remove path = .ok files') : files'.find path = .error .missing := by
  obtain ⟨place, old, hlocate, hnode, -, rfl⟩ := remove_eq_ok_iff.1 h
  have hfile : files.node? place ≠ some .directory := by simp [hnode]
  rw [find_of_locate ((agreeOff_erase hfile).locate hlocate), node?_erase_self hfile]
  rfl

/-! ### A file beside another one -/

/-- A part with more than two characters at its end names something in the directory before it. -/
theorem advance_append {suffix : String} (h : 2 < suffix.length) (here : Place) (part : String) :
    advance here (part ++ suffix) = here ++ [part ++ suffix] := by
  have hlong (other : String) (hother : other.length ≤ 2) : part ++ suffix ≠ other := by
    intro heq
    have hlength := congrArg String.length heq
    rw [String.length_append] at hlength
    omega
  simp [advance, hlong "" (by decide), hlong "." (by decide), hlong ".." (by decide)]

/-- What the part alone leads to is something else. -/
theorem advance_append_ne {suffix : String} (h : 2 < suffix.length) (here : Place)
    (part : String) : advance here part ≠ advance here (part ++ suffix) := by
  rw [advance_append h, advance]
  intro heq
  split at heq
  · simpa using congrArg List.length heq
  · split at heq
    · have hlength := congrArg List.length heq
      rw [List.length_dropLast, List.length_append, List.length_singleton] at hlength
      omega
    · have hpart : part = part ++ suffix := by simpa using heq
      have hlength := congrArg String.length hpart
      rw [String.length_append] at hlength
      omega

/-- A path name with something added at its end leads to another place. -/
theorem exists_locate_of_append {suffix : String} {place : Place} (hslash : '/' ∉ suffix.toList)
    (hlength : 2 < suffix.length) (h : files.locate (path ++ suffix) = .ok place) :
    path = "" ∨ ∃ there, files.locate path = .ok there ∧ there ≠ place := by
  by_cases hne : path = ""
  · exact .inl hne
  · obtain ⟨-, -, -, hwalk⟩ := locate_eq_ok_iff.1 h
    have hhead : path.toList <+: (path ++ suffix).toList := by
      rw [String.toList_append]
      exact List.prefix_append _ _
    obtain ⟨init, last, hparts, hlong⟩ := Path.parts_append path hslash
    rw [hlong, walk_concat_eq_ok_iff] at hwalk
    obtain ⟨folder, hfolder, hdirectory, hbarred, hsize, rfl⟩ := hwalk
    rw [String.utf8ByteSize_append] at hsize
    have hopen : files.isClosed folder = false := by
      refine (isBarred_eq_false_iff.1 hbarred).resolve_left fun hempty => ?_
      have hzero := congrArg String.length hempty
      rw [String.length_append, String.length_empty] at hzero
      omega
    refine .inr ⟨advance folder last, locate_of_head h hhead hne ?_,
      advance_append_ne hlength folder last⟩
    rw [hparts]
    exact walk_concat_eq_ok_iff.2 ⟨folder, hfolder, hdirectory,
      isBarred_eq_false_iff.2 (.inr hopen), by omega, rfl⟩

theorem find_of_append {suffix : String} {place : Place} (hslash : '/' ∉ suffix.toList)
    (hlength : 2 < suffix.length) (hlocate : files.locate (path ++ suffix) = .ok place)
    (h : AgreeOff place files files') : files'.find path = files.find path := by
  rcases exists_locate_of_append hslash hlength hlocate with rfl | ⟨there, hthere, hne⟩
  · rw [find_empty, find_empty]
  · exact h.find hthere hne

/-- To make a file beside another one does not touch that. -/
theorem find_createNew_append {suffix : String} (hslash : '/' ∉ suffix.toList)
    (hlength : 2 < suffix.length) (h : files.createNew (path ++ suffix) content = .ok files') :
    files'.find path = files.find path := by
  obtain ⟨place, hcreation, hnode, -, rfl⟩ := createNew_eq_ok_iff.1 h
  exact find_of_append hslash hlength (creation_eq_ok_iff.1 hcreation).2
    (agreeOff_put (by simp [hnode]) content)

/-- To take away a file beside another one does not touch that. -/
theorem find_remove_append {suffix : String} (hslash : '/' ∉ suffix.toList)
    (hlength : 2 < suffix.length) (h : files.remove (path ++ suffix) = .ok files') :
    files'.find path = files.find path := by
  obtain ⟨place, old, hlocate, hnode, -, rfl⟩ := remove_eq_ok_iff.1 h
  exact find_of_append hslash hlength hlocate (agreeOff_erase (by simp [hnode]))

end NameTagger.Files
