import NameTagger.Files.Basic
import NameTagger.Proofs.Files.Path

/-!
# Where path names lead

* `walk_append`, `walk_concat_eq_ok_iff`: a walk in two pieces, and its last step;
* `KeepsDirectories`, `KeepsDirectories.locate`: where directories stay, path names lead on as
  before;
* `AgreeOff`, `AgreeOff.locate`: files that differ at one place at most, which is no directory;
* `locate_eq_ok_iff`, `locate_of_notMem`: the place of a path name;
* `find_eq_ok_iff`, `find_of_locate`, `look_eq_ok_iff`: what is found there, and what may be looked
  into;
* `size_of_find`, `find_of_read`: what is told about it, and what is read;
* `find_directory`: a path name that leads to a place begins with a directory.
-/

namespace NameTagger

/-- The size of a file or directory. -/
def Node.size : Node → Nat
  | .file content => content.size
  | .directory => Files.directorySize

namespace Files

variable {files files' : Files}

/-! ### Walks -/

theorem walk_append (here : Place) (parts more : List String) :
    files.walk here (parts ++ more) = (files.walk here parts).bind (files.walk · more) := by
  induction parts generalizing here with
  | nil => rfl
  | cons part rest ih =>
    rw [List.cons_append, walk, walk]
    split
    · rfl
    · rfl
    · split
      · rfl
      · split
        · rfl
        · exact ih _

/-- A single step goes on from a directory, if that does not bar the way. -/
theorem walk_singleton_eq_ok_iff {here place : Place} {part : String} :
    files.walk here [part] = .ok place ↔
      files.node? here = some .directory ∧ files.isBarred here part = false ∧
        part.utf8ByteSize ≤ longestName ∧ advance here part = place := by
  rw [walk]
  split
  next h => simp [h]
  next h => simp [h]
  next h =>
    split
    next hbarred => simp [hbarred]
    next hbarred =>
      split
      next hlong => simp [Nat.not_le.2 hlong]
      next hlong => simp [walk, h, hbarred, Nat.not_lt.1 hlong]

/-- The last step of a walk goes on from a directory. -/
theorem walk_concat_eq_ok_iff {here place : Place} {init : List String} {last : String} :
    files.walk here (init ++ [last]) = .ok place ↔
      ∃ folder, files.walk here init = .ok folder ∧ files.node? folder = some .directory ∧
        files.isBarred folder last = false ∧ last.utf8ByteSize ≤ longestName ∧
          advance folder last = place := by
  rw [walk_append]
  cases files.walk here init with
  | error refusal => simp [Except.bind]
  | ok folder => simp [Except.bind, walk_singleton_eq_ok_iff]

/-- Every directory of some files is one of others as well, and none is closed in these only. -/
structure KeepsDirectories (files files' : Files) : Prop where
  workingDirectory : files'.workingDirectory = files.workingDirectory
  directory : ∀ place, files.node? place = some .directory → files'.node? place = some .directory
  isClosed : ∀ place, files.node? place = some .directory → files.isClosed place = false →
    files'.isClosed place = false

theorem isBarred_eq_false_iff {here : Place} {part : String} :
    files.isBarred here part = false ↔ part = "" ∨ files.isClosed here = false := by
  simp [isBarred, or_iff_not_imp_left]

namespace KeepsDirectories

theorem isBarred (h : KeepsDirectories files files') {here : Place} {part : String}
    (hhere : files.node? here = some .directory) (hbarred : files.isBarred here part = false) :
    files'.isBarred here part = false :=
  isBarred_eq_false_iff.2 ((isBarred_eq_false_iff.1 hbarred).imp_right (h.isClosed here hhere))

theorem walk (h : KeepsDirectories files files') {here there : Place} {parts : List String}
    (hwalk : files.walk here parts = .ok there) : files'.walk here parts = .ok there := by
  induction parts generalizing here with
  | nil => exact hwalk
  | cons part rest ih =>
    rw [Files.walk] at hwalk ⊢
    split at hwalk
    · cases hwalk
    · cases hwalk
    next hhere =>
      rw [h.directory here hhere]
      split at hwalk
      · cases hwalk
      next hbarred =>
        rw [h.isBarred hhere (Bool.eq_false_iff.2 hbarred)]
        split at hwalk
        · cases hwalk
        next hlong =>
          rw [if_neg Bool.false_ne_true, if_neg hlong]
          exact ih hwalk

theorem origin (h : KeepsDirectories files files') (path : String) :
    files'.origin path = files.origin path := by
  rw [Files.origin, Files.origin, h.workingDirectory]

theorem locate (h : KeepsDirectories files files') {path : String} {there : Place}
    (hlocate : files.locate path = .ok there) : files'.locate path = .ok there := by
  rw [Files.locate] at hlocate ⊢
  rw [h.origin]
  split at hlocate
  · cases hlocate
  next hnull =>
    rw [if_neg hnull]
    split at hlocate
    · cases hlocate
    next hempty =>
      rw [if_neg hempty]
      split at hlocate
      · cases hlocate
      next hlong =>
        rw [if_neg hlong]
        exact h.walk hlocate

end KeepsDirectories

/-! ### Files that differ at one place -/

/-- Files that differ at one place at most, where neither has a directory. -/
structure AgreeOff (place : Place) (files files' : Files) : Prop where
  workingDirectory : files'.workingDirectory = files.workingDirectory
  node?_of_ne : ∀ other, other ≠ place → files'.node? other = files.node? other
  guard?_of_ne : ∀ other, other ≠ place → files'.guard? other = files.guard? other
  ne_directory : files.node? place ≠ some .directory
  ne_directory' : files'.node? place ≠ some .directory

theorem not_isPrefixOf_of_ne_directory {place : Place} (h : files.node? place ≠ some .directory) :
    ¬place.isPrefixOf files.workingDirectory = true := by
  intro hhead
  rw [node?, if_pos hhead] at h
  exact h rfl

/-- What was put at a place is there, unless the place is always a directory. -/
theorem node?_put_self {place : Place} (h : files.node? place ≠ some .directory) (node : Node) :
    (files.put place node).node? place = some node := by
  have hhead := not_isPrefixOf_of_ne_directory h
  rw [node?, put, if_neg hhead, List.lookup_cons_self]

theorem node?_erase_self {place : Place} (h : files.node? place ≠ some .directory) :
    (files.erase place).node? place = none := by
  have hhead := not_isPrefixOf_of_ne_directory h
  rw [node?, erase, if_neg hhead, lookup_filter_self]

theorem agreeOff_put {place : Place} (h : files.node? place ≠ some .directory)
    (content : ByteArray) : AgreeOff place files (files.put place (.file content)) where
  workingDirectory := rfl
  node?_of_ne _ hne := node?_put_of_ne hne _
  guard?_of_ne _ hne := guard?_put_of_ne hne _
  ne_directory := h
  ne_directory' := by
    rw [node?_put_self h]
    simp

theorem agreeOff_erase {place : Place} (h : files.node? place ≠ some .directory) :
    AgreeOff place files (files.erase place) where
  workingDirectory := rfl
  node?_of_ne _ hne := node?_erase_of_ne hne
  guard?_of_ne _ hne := guard?_erase_of_ne hne
  ne_directory := h
  ne_directory' := by
    rw [node?_erase_self h]
    simp

namespace AgreeOff

variable {place : Place}

/-- The same places are directories. -/
theorem keepsDirectories (h : AgreeOff place files files') : KeepsDirectories files files' where
  workingDirectory := h.workingDirectory
  directory other hother := by
    have hne : other ≠ place := fun heq => h.ne_directory (heq ▸ hother)
    rw [h.node?_of_ne other hne, hother]
  isClosed other hother hopen := by
    have hne : other ≠ place := fun heq => h.ne_directory (heq ▸ hother)
    rw [Files.isClosed, h.guard?_of_ne other hne]
    exact hopen

theorem locate (h : AgreeOff place files files') {path : String} {there : Place}
    (hlocate : files.locate path = .ok there) : files'.locate path = .ok there :=
  h.keepsDirectories.locate hlocate

end AgreeOff

/-! ### Path names -/

theorem locate_eq_ok_iff {path : String} {place : Place} :
    files.locate path = .ok place ↔
      path.contains '\x00' = false ∧ path ≠ "" ∧ path.utf8ByteSize ≤ longestPath ∧
        files.walk (files.origin path) (Path.parts path) = .ok place := by
  rw [locate]
  split
  next h => simp [h]
  next h =>
    split
    next hempty => simp [hempty]
    next hempty =>
      split
      next hlong => simp [Nat.not_le.2 hlong]
      next hlong => simp [h, hempty, Nat.not_lt.1 hlong]

theorem find_of_locate {path : String} {place : Place} (h : files.locate path = .ok place) :
    files.find path = (files.node? place).elim (.error .missing) .ok := by
  rw [find, h]
  simp only [bind, Except.bind]
  cases files.node? place <;> rfl

theorem find_eq_ok_iff {path : String} {node : Node} :
    files.find path = .ok node ↔
      ∃ place, files.locate path = .ok place ∧ files.node? place = some node := by
  rw [find]
  simp only [bind, Except.bind]
  cases files.locate path with
  | error refusal => simp
  | ok place =>
    simp only [Except.ok.injEq, exists_eq_left']
    cases files.node? place <;> simp

theorem contains_eq_true_iff {path : String} :
    files.contains path = true ↔ ∃ node, files.find path = .ok node := by
  rw [contains]
  cases files.find path <;> simp [Except.toBool]

theorem size_of_find {path : String} {node : Node} (h : files.find path = .ok node) :
    files.size path = .ok node.size := by
  rw [size, h]
  cases node <;> rfl

theorem look_eq_ok_iff {path : String} {node : Node} :
    files.look path = .ok node ↔
      ∃ place, files.locate path = .ok place ∧ files.node? place = some node ∧
        files.isClosed place = false := by
  rw [look]
  simp only [bind, Except.bind]
  cases files.locate path with
  | error refusal => simp
  | ok place =>
    simp only [Except.ok.injEq, exists_eq_left']
    cases files.node? place <;> cases files.isClosed place <;> simp

/-- What may be looked into is found. -/
theorem find_of_look {path : String} {node : Node} (h : files.look path = .ok node) :
    files.find path = .ok node := by
  obtain ⟨place, hlocate, hnode, -⟩ := look_eq_ok_iff.1 h
  exact find_eq_ok_iff.2 ⟨place, hlocate, hnode⟩

theorem read_eq_ok_iff {path : String} {content : ByteArray} :
    files.read path = .ok content ↔ files.look path = .ok (.file content) := by
  rw [read]
  split <;> simp_all

theorem find_of_read {path : String} {content : ByteArray} (h : files.read path = .ok content) :
    files.find path = .ok (.file content) :=
  find_of_look (read_eq_ok_iff.1 h)

theorem contains_of_read {path : String} {content : ByteArray} (h : files.read path = .ok content) :
    files.contains path = true :=
  contains_eq_true_iff.2 ⟨_, find_of_read h⟩

/-- What is there is read, unless it is closed or a directory. -/
theorem fault_of_read {path : String} (hcontains : files.contains path = true) {fault : Fault}
    (h : files.read path = .error fault) :
    fault = Refusal.denied.fault path ∨ fault = Refusal.isDirectory.fault path := by
  obtain ⟨node, hfind⟩ := contains_eq_true_iff.1 hcontains
  obtain ⟨place, hlocate, hnode⟩ := find_eq_ok_iff.1 hfind
  cases hclosed : files.isClosed place with
  | true =>
    have hlook : files.look path = .error .denied := by
      rw [look, hlocate]
      simp only [bind, Except.bind, hnode, hclosed, if_true]
    rw [read, hlook] at h
    exact .inl (Except.error.inj h).symm
  | false =>
    have hlook : files.look path = .ok node := look_eq_ok_iff.2 ⟨place, hlocate, hnode, hclosed⟩
    rw [read, hlook] at h
    cases node with
    | file content => cases h
    | directory => exact .inr (Except.error.inj h).symm

@[simp] theorem node?_workingDirectory (files : Files) :
    files.node? files.workingDirectory = some .directory := by
  rw [node?, if_pos (List.isPrefixOf_iff_prefix.2 (List.prefix_refl _))]

@[simp] theorem find_empty (files : Files) : files.find "" = .error .missing := by
  simp [find, locate, bind, Except.bind]

theorem origin_of_notMem {path : String} (hslash : '/' ∉ path.toList) :
    files.origin path = files.workingDirectory := by
  rw [origin, if_neg]
  rw [Path.startsWith_slash_iff]
  exact fun hhead => hslash (hhead.subset List.mem_cons_self)

/-- A path name without a slash leads on from the working directory. -/
theorem locate_of_notMem {path : String} (hopen : files.isClosed files.workingDirectory = false)
    (hslash : '/' ∉ path.toList) (hnull : '\x00' ∉ path.toList) (hne : path ≠ "")
    (hlong : path.utf8ByteSize ≤ longestName) :
    files.locate path = .ok (advance files.workingDirectory path) := by
  refine locate_eq_ok_iff.2 ⟨by simpa using hnull, hne, hlong.trans (by decide), ?_⟩
  rw [origin_of_notMem hslash, Path.parts_of_notMem hslash]
  exact walk_singleton_eq_ok_iff.2 ⟨node?_workingDirectory files,
    isBarred_eq_false_iff.2 (.inr hopen), hlong, rfl⟩

/-- What is found by a path name without a slash. -/
theorem find_of_notMem {path : String} (hopen : files.isClosed files.workingDirectory = false)
    (hslash : '/' ∉ path.toList) (hnull : '\x00' ∉ path.toList) (hne : path ≠ "")
    (hlong : path.utf8ByteSize ≤ longestName) :
    files.find path =
      (files.node? (advance files.workingDirectory path)).elim (.error .missing) .ok :=
  find_of_locate (locate_of_notMem hopen hslash hnull hne hlong)

/-- What is read by a path name without a slash. -/
theorem read_of_notMem {path : String} {content : ByteArray}
    (hopen : files.isClosed files.workingDirectory = false) (hslash : '/' ∉ path.toList)
    (hnull : '\x00' ∉ path.toList) (hne : path ≠ "") (hlong : path.utf8ByteSize ≤ longestName)
    (hnode : files.node? (advance files.workingDirectory path) = some (.file content))
    (hfree : files.isClosed (advance files.workingDirectory path) = false) :
    files.read path = .ok content :=
  read_eq_ok_iff.2 (look_eq_ok_iff.2
    ⟨_, locate_of_notMem hopen hslash hnull hne hlong, hnode, hfree⟩)

/-- What is behind a path name that leads to another place stays as it is. -/
theorem AgreeOff.find {place there : Place} (h : AgreeOff place files files') {path : String}
    (hlocate : files.locate path = .ok there) (hne : there ≠ place) :
    files'.find path = files.find path := by
  rw [find_of_locate hlocate, find_of_locate (h.locate hlocate), h.node?_of_ne there hne]

/-! ### The directory of a path name -/

theorem origin_of_head {path directory : String} (hhead : directory.toList <+: path.toList)
    (hne : directory ≠ "") : files.origin directory = files.origin path := by
  have hiff : directory.startsWith "/" = true ↔ path.startsWith "/" = true := by
    rw [Path.startsWith_slash_iff, Path.startsWith_slash_iff]
    refine ⟨fun h => h.trans hhead, fun h => List.prefix_of_prefix_length_le h hhead ?_⟩
    have hlength : directory.toList ≠ [] := fun h => hne (String.toList_eq_nil_iff.1 h)
    exact List.length_pos_iff.2 hlength
  rw [origin, origin, Bool.eq_iff_iff.2 hiff]

/-- A path name that begins another one may be looked up, if the longer one may. -/
theorem locate_of_head {path directory : String} {there place : Place}
    (h : files.locate path = .ok there) (hhead : directory.toList <+: path.toList)
    (hne : directory ≠ "")
    (hwalk : files.walk (files.origin path) (Path.parts directory) = .ok place) :
    files.locate directory = .ok place := by
  obtain ⟨hnull, -, hlong, -⟩ := locate_eq_ok_iff.1 h
  obtain ⟨rest, hrest⟩ := hhead
  have happend : path = directory ++ String.ofList rest := by
    rw [← String.toList_inj, String.toList_append, String.toList_ofList, hrest]
  refine locate_eq_ok_iff.2 ⟨?_, hne, ?_, ?_⟩
  · rw [happend] at hnull
    have hboth : '\x00' ∉ directory.toList ∧ '\x00' ∉ rest := by simpa using hnull
    simpa using hboth.1
  · rw [happend, String.utf8ByteSize_append] at hlong
    omega
  · rwa [origin_of_head ⟨rest, hrest⟩ hne]

end Files

end NameTagger
