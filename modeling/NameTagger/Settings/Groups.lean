import NameTagger.Fault
import NameTagger.Json.Value
import NameTagger.Settings.Basic

/-!
# The choice of feature groups

Settings list the names of the groups that are switched on.  What is no name switches on nothing,
but a list with containers is no choice, and neither is one whose unknown entries have no order.

* `GroupChoice`, `GroupChoice.ofNames`, `GroupChoice.all`;
* `GroupChoice.ofJson`, `GroupChoice.ofSettings`: the choice that a value or the settings describe;
* `GroupChoice.names`: the names that are switched on.
-/

namespace NameTagger

/-- The entries of a list of groups. -/
structure GroupChoice where
  entries : List Json

namespace GroupChoice

/-- The choice of names. -/
def ofNames (names : List String) : GroupChoice := ⟨names.map .str⟩

/-- All groups. -/
def all : GroupChoice := ofNames Feature.Group.names

/-- The entries of a value: the items of a list, the keys of an object, the characters of a text. -/
def ofJson : Json → Except Fault GroupChoice
  | .arr items => .ok ⟨items⟩
  | .obj fields => .ok (ofNames (fields.map (·.1)))
  | .str s => .ok (ofNames (s.toList.map fun c => String.ofList [c]))
  | _ => .error ⟨.wrongType, "object is not iterable"⟩

/-- The choice of settings; all groups if they make none. -/
def ofSettings (settings : Settings) : Except Fault GroupChoice :=
  match Json.Fields.get? settings "feature_groups" with
  | some value => ofJson value
  | none => .ok all

/-- A value that holds no others. -/
def isScalar : Json → Bool
  | .arr _ | .obj _ => false
  | _ => true

/-- A number or a truth value; those are ordered among each other. -/
def isNumeric : Json → Bool
  | .bool _ | .int _ | .float _ => true
  | _ => false

/-- The name that an entry gives. -/
def name? : Json → Option String
  | .str s => some s
  | _ => none

/-- Whether entries can be put in order: they are all names, all numbers, or there is no more than
the null value. -/
def isOrdered (entries : List Json) : Bool :=
  entries.all (fun entry => (name? entry).isSome) || entries.all isNumeric ||
    entries.all fun entry => entry.shape = .null

/-- Whether an entry is the name of a group. -/
def isKnown (entry : Json) : Bool :=
  match name? entry with
  | some name => Feature.Group.names.contains name
  | none => false

/-- The names of a choice. -/
def names (choice : GroupChoice) : Except Fault (List String) :=
  if !choice.entries.all isScalar then .error ⟨.wrongType, "unhashable entry"⟩
  else if !isOrdered (choice.entries.filter fun entry => !isKnown entry) then
    .error ⟨.wrongType, "entries without an order"⟩
  else .ok (choice.entries.filterMap name?)

@[simp] theorem name?_str (s : String) : name? (.str s) = some s := rfl

@[simp] theorem names_ofNames (ss : List String) : (ofNames ss).names = .ok ss := by
  have scalar : (ofNames ss).entries.all isScalar = true := by
    simp [ofNames, isScalar]
  have ordered : isOrdered ((ofNames ss).entries.filter fun entry => !isKnown entry) = true := by
    simp [isOrdered, ofNames]
  have kept : (ofNames ss).entries.filterMap name? = ss := by
    simp [ofNames, List.filterMap_map, Function.comp_def]
  simp [names, scalar, ordered, kept]

end GroupChoice

end NameTagger
