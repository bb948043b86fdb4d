import NameTagger.Proofs.Files.Change

/-!
# Directories that are made

* `Grows`: whatever was there stays as it was;
* `grows_makeFrom`, `grows_makeDirectories`: directories are only added;
* `exists_refusal_of_makeDirectories`, `exists_refusal_of_write`: why nothing is made or written;
* `write_put`: a file that was written can be written again;
* `KeepsBeside`, `Grows.keepsBeside_put`: what is beside a file that is written.
-/

namespace NameTagger

namespace Path

/-- The characters of a part are characters of the path name. -/
theorem mem_toList_of_mem_parts {path part : String} (h : part ∈ parts path) {c : Char}
    (hc : c ∈ part.toList) : c ∈ path.toList := by
  obtain ⟨chars, hchars, rfl⟩ := List.mem_map.1 h
  obtain ⟨i, hi⟩ := List.mem_iff_getElem?.1 hchars
  have hmem : chars ∈ (path.toList.splitOn '/').intersperse ['/'] :=
    List.mem_of_getElem? (List.getElem?_intersperse_two_mul.trans hi)
  rw [String.toList_ofList] at hc
  have hjoin : ['/'].intercalate (path.toList.splitOn '/') = path.toList :=
    List.intercalate_splitOn '/'
  rw [← hjoin]
  exact List.mem_flatten.2 ⟨chars, hmem, hc⟩

/-- The characters of the directory are characters of the path name. -/
theorem mem_toList_of_mem_directory {path : String} {c : Char}
    (h : c ∈ (directory path).toList) : c ∈ path.toList := by
  rw [directory, String.toList_ofList] at h
  refine List.mem_of_mem_take (i := path.toList.length - (lastPart path.toList).length) ?_
  split at h
  · exact h
  · obtain ⟨n, hn⟩ := exists_dropSlashes_append
      (path.toList.take (path.toList.length - (lastPart path.toList).length))
    rw [← hn]
    exact List.mem_append_left _ h

end Path

namespace Files

variable {files files' files'' : Files}

/-- Whatever is there stays as it is. -/
structure Grows (files files' : Files) : Prop where
  workingDirectory : files'.workingDirectory = files.workingDirectory
  node? : ∀ place node, files.node? place = some node → files'.node? place = some node
  guard? : ∀ place node, files.node? place = some node → files'.guard? place = files.guard? place

namespace Grows

theorem refl (files : Files) : Grows files files := ⟨rfl, fun _ _ => id, fun _ _ _ => rfl⟩

theorem trans (h : Grows files files') (h' : Grows files' files'') : Grows files files'' where
  workingDirectory := h'.workingDirectory.trans h.workingDirectory
  node? place node hnode := h'.node? place node (h.node? place node hnode)
  guard? place node hnode :=
    (h'.guard? place node (h.node? place node hnode)).trans (h.guard? place node hnode)

theorem keepsDirectories (h : Grows files files') : KeepsDirectories files files' where
  workingDirectory := h.workingDirectory
  directory place := h.node? place .directory
  isClosed place hplace hopen := by
    rw [Files.isClosed, h.guard? place .directory hplace]
    exact hopen

/-- What is found stays to be found. -/
theorem find (h : Grows files files') {path : String} {node : Node}
    (hfind : files.find path = .ok node) : files'.find path = .ok node := by
  obtain ⟨place, hlocate, hnode⟩ := find_eq_ok_iff.1 hfind
  exact find_eq_ok_iff.2 ⟨place, h.keepsDirectories.locate hlocate, h.node? place node hnode⟩

end Grows

/-! ### Making directories -/

theorem grows_put {place : Place} (h : files.node? place = none) (node : Node) :
    Grows files (files.put place node) := by
  have hne {other : Place} {found : Node} (hfound : files.node? other = some found) :
      other ≠ place := by
    rintro rfl
    rw [h] at hfound
    cases hfound
  exact ⟨rfl, fun other found hfound => (node?_put_of_ne (hne hfound) node).trans hfound,
    fun other found hfound => guard?_put_of_ne (hne hfound) node⟩

theorem grows_makeAt {here : Place} {parts : List String}
    (h : files.makeAt here parts = .ok files') : Grows files files' := by
  rw [makeAt] at h
  split at h
  · obtain rfl := Except.ok.inj h
    exact .refl files
  · cases h
  next hnone =>
    split at h
    · cases h
    · obtain rfl := Except.ok.inj h
      exact grows_put hnone .directory

theorem grows_makeFrom (files : Files) (here : Place) (parts : List String) :
    Grows files (files.makeFrom here parts).1 := by
  induction parts generalizing files here with
  | nil =>
    rw [makeFrom]
    split
    · exact .refl files
    next hmade => exact grows_makeAt hmade
  | cons part rest ih =>
    rw [makeFrom]
    split
    · exact .refl files
    next hmade =>
      split
      · exact grows_makeAt hmade
      · exact (grows_makeAt hmade).trans (ih _ (advance here part))

theorem grows_makeDirectories (files : Files) (path : String) :
    Grows files (files.makeDirectories path).1 := by
  have hmake := files.grows_makeFrom (files.origin path) (Path.parts path)
  rw [makeDirectories]
  split
  · exact .refl files
  · split
    next made hmade => rwa [hmade] at hmake
    next made refusal hmade => rwa [hmade] at hmake

/-! ### Null characters -/

theorem null_of_partRefusal? {here : Place} {part : String}
    (h : files.partRefusal? here part = some .nullCharacter) : '\x00' ∈ part.toList := by
  rw [partRefusal?] at h
  split at h
  next hnull => simpa using hnull
  · split at h
    · cases h
    · split at h <;> cases h

theorem null_of_insideFile {parts : List String} (h : insideFile parts = .nullCharacter) :
    ∃ part ∈ parts, '\x00' ∈ part.toList := by
  rw [insideFile] at h
  split at h
  next part hfind =>
    split at h
    next hnull => exact ⟨part, List.mem_of_find?_eq_some hfind, by simpa using hnull⟩
    · cases h
  · cases h

theorem null_of_makeAt {here : Place} {parts : List String}
    (h : files.makeAt here parts = .error .nullCharacter) :
    ∃ part ∈ parts, '\x00' ∈ part.toList := by
  rw [makeAt] at h
  split at h
  · cases h
  · have hrefusal := Except.error.inj h
    split at hrefusal
    · cases hrefusal
    · exact null_of_insideFile hrefusal
  · split at h <;> cases h

theorem null_of_makeFrom {here : Place} {parts : List String}
    (h : (files.makeFrom here parts).2 = .error .nullCharacter) :
    ∃ part ∈ parts, '\x00' ∈ part.toList := by
  induction parts generalizing files here with
  | nil =>
    rw [makeFrom] at h
    split at h
    next refusal hmade =>
      obtain rfl := Except.error.inj h
      exact null_of_makeAt hmade
    · cases h
  | cons part rest ih =>
    rw [makeFrom] at h
    split at h
    next refusal hmade =>
      obtain rfl := Except.error.inj h
      exact null_of_makeAt hmade
    · split at h
      next refusal hpart =>
        obtain rfl := Except.error.inj h
        exact ⟨part, List.mem_cons_self, null_of_partRefusal? hpart⟩
      · obtain ⟨other, hmem, hnull⟩ := ih h
        exact ⟨other, List.mem_cons_of_mem _ hmem, hnull⟩

/-- To make directories is refused by the operating system, or because of a null character. -/
theorem exists_refusal_of_makeDirectories {path : String} {fault : Fault}
    (h : (files.makeDirectories path).2 = .error fault) :
    ∃ refusal : Refusal, fault = refusal.fault path ∧
      (refusal = .nullCharacter → '\x00' ∈ path.toList) := by
  rw [makeDirectories] at h
  split at h
  · exact ⟨.missing, (Except.error.inj h).symm, fun hnull => by cases hnull⟩
  · split at h
    · cases h
    next made refusal hmade =>
      refine ⟨refusal, (Except.error.inj h).symm, ?_⟩
      rintro rfl
      obtain ⟨part, hmem, hnull⟩ := null_of_makeFrom (congrArg Prod.snd hmade)
      exact Path.mem_toList_of_mem_parts hmem hnull

theorem walk_ne_nullCharacter (here : Place) (parts : List String) :
    files.walk here parts ≠ .error .nullCharacter := by
  intro h
  induction parts generalizing here with
  | nil => cases h
  | cons part rest ih =>
    rw [walk] at h
    split at h
    · cases h
    · cases h
    · split at h
      · cases h
      · split at h
        · cases h
        · exact ih _ h

theorem null_of_locate {path : String} (h : files.locate path = .error .nullCharacter) :
    '\x00' ∈ path.toList := by
  rw [locate] at h
  split at h
  next hnull => simpa using hnull
  · split at h
    · cases h
    · split at h
      · cases h
      · exact absurd h (walk_ne_nullCharacter _ _)

theorem null_of_creation {path : String} (h : files.creation path = .error .nullCharacter) :
    '\x00' ∈ path.toList := by
  rw [creation] at h
  cases hlocate : files.locate (String.ofList (Path.dropSlashes path.toList)) with
  | error refusal =>
    rw [hlocate] at h
    obtain rfl : refusal = .nullCharacter := Except.error.inj h
    have hnull := null_of_locate hlocate
    rw [String.toList_ofList] at hnull
    obtain ⟨n, hn⟩ := Path.exists_dropSlashes_append path.toList
    rw [← hn]
    exact List.mem_append_left _ hnull
  | ok place =>
    rw [hlocate] at h
    change (if path.endsWith "/" then Except.error Refusal.isDirectory else .ok place) = _ at h
    split at h <;> cases h

/-- To write is refused by the operating system, or because of a null character. -/
theorem exists_refusal_of_write {path : String} {content : ByteArray} {fault : Fault}
    (h : files.write path content = .error fault) :
    ∃ refusal : Refusal, fault = refusal.fault path ∧
      (refusal = .nullCharacter → '\x00' ∈ path.toList) := by
  rw [write] at h
  split at h
  next refusal hcreation =>
    refine ⟨refusal, (Except.error.inj h).symm, ?_⟩
    rintro rfl
    exact null_of_creation hcreation
  · split at h
    · exact ⟨.isDirectory, (Except.error.inj h).symm, fun hnull => by cases hnull⟩
    · split at h
      · exact ⟨.denied, (Except.error.inj h).symm, fun hnull => by cases hnull⟩
      · cases h

/-! ### A file that is written -/

theorem put_put (files : Files) (place : Place) (node node' : Node) :
    (files.put place node).put place node' = files.put place node' := by
  simp [put, List.filter_filter]

/-- A file that was written can be written again. -/
theorem write_put {place : Place} {path : String} (hcreation : files.creation path = .ok place)
    (h : files.node? place ≠ some .directory) (content content' : ByteArray) :
    (files.put place (.file content)).write path content' =
      .ok (files.put place (.file content')) := by
  obtain ⟨hslash, hlocate⟩ := creation_eq_ok_iff.1 hcreation
  have hnode := node?_put_self h (.file content)
  refine write_eq_ok_iff.2 ⟨place, creation_eq_ok_iff.2 ⟨hslash, ?_⟩, ?_, ?_, put_put ..⟩
  · exact (agreeOff_put h content).locate hlocate
  · rw [hnode]
    simp
  · rw [changed, hnode, Option.isSome_some, if_pos rfl, isGuarded_put_self]

/-- What a path name finds stays to be found, if it leads to another place than a second one. -/
def KeepsBeside (path : String) (files files' : Files) : Prop :=
  ∀ other node, files.find other = .ok node → files.locate other ≠ files'.locate path →
    files'.find other = .ok node

/-- A file that is written behind new directories does not touch what is beside it. -/
theorem Grows.keepsBeside_put (h : Grows files files') {path : String} {place : Place}
    (hlocate : files'.locate path = .ok place) (hfile : files'.node? place ≠ some .directory)
    (content : ByteArray) : KeepsBeside path files (files'.put place (.file content)) := by
  intro other node hfind hne
  obtain ⟨there, hthere, -⟩ := find_eq_ok_iff.1 hfind
  have hagree := agreeOff_put hfile content
  rw [hthere, hagree.locate hlocate] at hne
  rw [hagree.find (h.keepsDirectories.locate hthere) fun heq => hne (congrArg Except.ok heq)]
  exact h.find hfind

end Files

end NameTagger
