import NameTagger.Json.Value
import Mathlib.Data.List.Nodup

/-!
# Keys that lead into JSON values

* `Json.at?`: what several keys lead to, one below the other;
* `Json.inside`: all that stands in a value, with the keys that lead there;
* `Json.DistinctKeys`: no object repeats a key;
* `at?_append`, `DistinctKeys.at?`, `exists_key_of_mem_insideFields`: keys one below the other.
-/

namespace NameTagger.Json

/-- The value that keys lead to, each of which is looked up in the object before it. -/
def at? : Json → List String → Option Json
  | value, [] => some value
  | .obj fields, key :: keys => (Fields.get? fields key).bind (at? · keys)
  | _, _ :: _ => none

mutual

/-- The values in the objects of a value, with the keys that lead to them.  An object comes before
what is in it. -/
def inside : Json → List (List String × Json)
  | .obj fields => insideFields fields
  | _ => []

/-- The values of fields and in their objects, with the keys that lead to them. -/
def insideFields : List (String × Json) → List (List String × Json)
  | [] => []
  | (key, value) :: rest =>
      ([key], value) :: (inside value).map (fun entry => (key :: entry.1, entry.2)) ++
        insideFields rest

end

/-- A value in which no object repeats a key. -/
inductive DistinctKeys : Json → Prop
  | plain {value : Json} (h : value.shape ≠ .obj) : DistinctKeys value
  | obj {fields : Fields} (hkeys : (fields.map Prod.fst).Nodup)
      (hvalues : ∀ field ∈ fields, DistinctKeys field.2) : DistinctKeys (.obj fields)

namespace Fields

theorem get?_eq_none_iff {fields : Fields} {key : String} :
    get? fields key = none ↔ key ∉ fields.map Prod.fst := by
  rw [get?, List.lookup_eq_none_iff, List.mem_map]
  simp only [bne_iff_ne, ne_eq, not_exists, not_and]
  exact forall₂_congr fun _ _ => not_congr eq_comm

theorem mem_of_get? {fields : Fields} {key : String} {value : Json}
    (h : get? fields key = some value) : (key, value) ∈ fields := by
  obtain ⟨before, after, rfl, -⟩ := List.lookup_eq_some_iff.1 h
  simp

end Fields

@[simp] theorem at?_nil (value : Json) : value.at? [] = some value := by
  cases value <;> rfl

@[simp] theorem at?_obj_cons (fields : Fields) (key : String) (keys : List String) :
    (obj fields).at? (key :: keys) = (Fields.get? fields key).bind (·.at? keys) := rfl

/-- Nothing is in a value that is no object. -/
theorem at?_cons_of_shape {value : Json} (h : value.shape ≠ .obj) (key : String)
    (keys : List String) : value.at? (key :: keys) = none := by
  cases value with
  | obj fields => exact absurd rfl h
  | _ => rfl

/-- Where several keys lead somewhere, an object stands before the first. -/
theorem exists_of_at?_cons {value found : Json} {key : String} {keys : List String}
    (h : value.at? (key :: keys) = some found) :
    ∃ fields field, value = .obj fields ∧ Fields.get? fields key = some field ∧
      field.at? keys = some found := by
  cases value with
  | obj fields =>
    rw [at?_obj_cons, Option.bind_eq_some_iff] at h
    obtain ⟨field, hfield, hfound⟩ := h
    exact ⟨fields, field, rfl, hfield, hfound⟩
  | _ => cases h

theorem at?_append (value : Json) (keys more : List String) :
    value.at? (keys ++ more) = (value.at? keys).bind (·.at? more) := by
  induction keys generalizing value with
  | nil => rw [List.nil_append, at?_nil, Option.bind_some]
  | cons key keys ih =>
    cases value with
    | obj fields =>
      rw [List.cons_append, at?_obj_cons, at?_obj_cons, Option.bind_assoc]
      exact congrArg _ (funext ih)
    | _ => rfl

/-! ### What is inside -/

/-- The keys to what is inside begin with a key of the object. -/
theorem exists_key_of_mem_insideFields {fields : Fields} {entry : List String × Json}
    (h : entry ∈ insideFields fields) :
    ∃ key keys, entry.1 = key :: keys ∧ key ∈ fields.map Prod.fst := by
  induction fields with
  | nil => cases h
  | cons field rest ih =>
    obtain ⟨key, value⟩ := field
    rw [insideFields, List.cons_append, List.mem_cons, List.mem_append, List.mem_map] at h
    rcases h with rfl | ⟨inner, -, rfl⟩ | hrest
    · exact ⟨key, [], rfl, List.mem_cons_self⟩
    · exact ⟨key, inner.1, rfl, List.mem_cons_self⟩
    · obtain ⟨key', keys, hkeys, hmem⟩ := ih hrest
      exact ⟨key', keys, hkeys, List.mem_cons_of_mem _ hmem⟩

theorem ne_nil_of_mem_inside {value : Json} {entry : List String × Json}
    (h : entry ∈ value.inside) : entry.1 ≠ [] := by
  cases value with
  | obj fields =>
    obtain ⟨key, keys, hkeys, -⟩ := exists_key_of_mem_insideFields h
    rw [hkeys]
    exact List.cons_ne_nil key keys
  | _ => cases h

/-- What is inside fields, taken one by one: the first value, what is inside it, and the rest. -/
theorem filterMap_insideFields_cons {α : Type} (f : List String × Json → Option α) (key : String)
    (value : Json) (rest : Fields) :
    (insideFields ((key, value) :: rest)).filterMap f =
      (f ([key], value)).toList ++
        (value.inside.filterMap fun entry => f (key :: entry.1, entry.2)) ++
        (insideFields rest).filterMap f := by
  rw [insideFields, List.cons_append, List.filterMap_cons, List.filterMap_append,
    List.filterMap_map]
  cases f ([key], value) <;> rfl

namespace DistinctKeys

theorem nodup {fields : Fields} (h : DistinctKeys (.obj fields)) :
    (fields.map Prod.fst).Nodup := by
  cases h with
  | plain h => exact absurd rfl h
  | obj hkeys _ => exact hkeys

theorem of_mem {fields : Fields} (h : DistinctKeys (.obj fields)) {field : String × Json}
    (hmem : field ∈ fields) : DistinctKeys field.2 := by
  cases h with
  | plain h => exact absurd rfl h
  | obj _ hvalues => exact hvalues field hmem

theorem tail {field : String × Json} {fields : Fields}
    (h : DistinctKeys (.obj (field :: fields))) : DistinctKeys (.obj fields) :=
  .obj (List.nodup_cons.1 h.nodup).2 fun _ hmem => h.of_mem (List.mem_cons_of_mem _ hmem)

/-- The keys in what stands inside are distinct, too. -/
theorem at? {value found : Json} (h : DistinctKeys value) {keys : List String}
    (hfound : value.at? keys = some found) : DistinctKeys found := by
  induction keys generalizing value with
  | nil =>
    rw [at?_nil, Option.some.injEq] at hfound
    rwa [← hfound]
  | cons key keys ih =>
    obtain ⟨fields, field, rfl, hfield, hrest⟩ := exists_of_at?_cons hfound
    exact ih (h.of_mem (Fields.mem_of_get? hfield)) hrest

end DistinctKeys

end NameTagger.Json
