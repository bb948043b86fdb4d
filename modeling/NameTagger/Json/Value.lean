/-!
# JSON values

Integers and binary numbers are kept apart, and an object keeps the order of its keys.

* `Json`; `Json.Fields`, the keys and values of an object;
* `Fields.get?`, `Fields.put`: looking up and setting a key;
* `Json.shape`: which of the seven shapes a value has; `Json.isTrue`: whether it counts as a yes.
-/

namespace NameTagger

/-- A JSON value. -/
inductive Json where
  | null
  | bool (b : Bool)
  | int (n : Int)
  | float (x : Float)
  | str (s : String)
  | arr (items : List Json)
  | obj (fields : List (String × Json))
deriving Repr, Inhabited

namespace Json

/-- The keys and values of an object, in order. -/
abbrev Fields := List (String × Json)

namespace Fields

/-- The value of a key. -/
def get? (fields : Fields) (key : String) : Option Json := fields.lookup key

/-- Set the value of a key: a present key keeps its place, a new one goes to the end. -/
def put (key : String) (value : Json) : Fields → Fields
  | [] => [(key, value)]
  | (k, v) :: rest => if k = key then (k, value) :: rest else (k, v) :: put key value rest

@[simp] theorem get?_nil (key : String) : get? [] key = none := rfl

@[simp] theorem get?_put_self (key : String) (value : Json) (fields : Fields) :
    get? (put key value fields) key = some value := by
  induction fields with
  | nil => simp [put, get?]
  | cons entry rest ih =>
    obtain ⟨k, v⟩ := entry
    by_cases h : k = key
    · simp [put, get?, h]
    · simpa [put, get?, h, List.lookup_cons, beq_eq_false_iff_ne.2 (Ne.symm h)] using ih

theorem get?_cons_self (key : String) (value : Json) (fields : Fields) :
    get? ((key, value) :: fields) key = some value := by
  rw [get?, List.lookup_cons_self]

theorem get?_cons_of_ne {key other : String} (h : other ≠ key) (value : Json) (fields : Fields) :
    get? ((key, value) :: fields) other = get? fields other := by
  rw [get?, List.lookup_cons, beq_eq_false_iff_ne.2 h]
  rfl

/-- Setting a key leaves the other keys alone. -/
theorem get?_put_of_ne {key other : String} (h : other ≠ key) (value : Json) (fields : Fields) :
    get? (put key value fields) other = get? fields other := by
  induction fields with
  | nil => exact get?_cons_of_ne h value []
  | cons entry rest ih =>
    obtain ⟨k, v⟩ := entry
    by_cases hk : k = key
    · subst hk
      rw [put, if_pos rfl, get?_cons_of_ne h, get?_cons_of_ne h]
    · rw [put, if_neg hk]
      by_cases hother : other = k
      · subst hother
        rw [get?_cons_self, get?_cons_self]
      · rw [get?_cons_of_ne hother, get?_cons_of_ne hother, ih]

end Fields

/-- The shapes of values. -/
inductive Shape where
  | null
  | bool
  | int
  | float
  | str
  | arr
  | obj
deriving DecidableEq, Repr

/-- The shape of a value. -/
def shape : Json → Shape
  | .null => .null
  | .bool _ => .bool
  | .int _ => .int
  | .float _ => .float
  | .str _ => .str
  | .arr _ => .arr
  | .obj _ => .obj

/-- Whether a value counts as a yes: all do but null, false, zero and what is empty. -/
def isTrue : Json → Bool
  | .null => false
  | .bool b => b
  | .int n => n != 0
  | .float x => x != 0.0
  | .str s => s != ""
  | .arr items => !items.isEmpty
  | .obj fields => !fields.isEmpty

end Json

end NameTagger
