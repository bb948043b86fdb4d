import NameTagger.Decimal.Binary
import NameTagger.Decimal.Read
import NameTagger.Fault
import NameTagger.Feature.Basic
import NameTagger.Feature.Form
import NameTagger.Token

/-!
# Groups of features

The features of a token fall into eight groups, which can be switched on one by one.

* `Cell`: what is looked at of a token, which is less than a token holds;
* `Group`, `Group.all`, `Group.name`: the groups, in the order in which they are written;
* `identity` to `position`: the features of each group;
* `Third`, `third?`: the part of a name in which a token stands;
* `Misplacement`, `misplacement?`: why the place of a token cannot be told; `third`, `place`: what
  is told of it, or the fault.
-/

namespace NameTagger.Feature

/-- What feature extraction sees of a token. -/
structure Cell where
  /-- A token may lack a text. -/
  text : Option String
  position : Int
  isFirst : Bool
  isLast : Bool
deriving DecidableEq, Repr

/-- What feature extraction sees of a token of a name. -/
def Cell.ofToken (token : Token) : Cell :=
  ⟨some token.text, token.position, token.isFirst, token.isLast⟩

/-- The text of the token itself. -/
def Cell.own (cell : Cell) : List Char := (cell.text.getD "").toList

/-- The text as the features of a neighbour show it. -/
def Cell.shown (cell : Cell) : List Char := (cell.text.getD "None").toList

/-- The cell at a signed index; a negative one counts from the end. -/
def Cell.at? (cells : List Cell) (i : Int) : Option Cell :=
  if 0 ≤ i then cells[i.toNat]?
  else if (-i).toNat ≤ cells.length then cells[cells.length - (-i).toNat]?
  else none

/-- The groups of features. -/
inductive Group where
  | identity
  | shape
  | affix
  | case
  | length
  | character
  | context
  | position
deriving DecidableEq, Repr

namespace Group

/-- All groups in the order in which their features are written. -/
def all : List Group :=
  [.identity, .shape, .affix, .case, .length, .character, .context, .position]

/-- The name by which a group is switched on. -/
def name : Group → String
  | .identity => "identity"
  | .shape => "shape"
  | .affix => "affix"
  | .case => "case"
  | .length => "length"
  | .character => "character"
  | .context => "context"
  | .position => "position"

/-- The names of all groups. -/
def names : List String := all.map name

end Group

variable {W : Type} [OfScientific W]

/-- A feature of weight one that is present under a condition. -/
def when (condition : Bool) (name : String) : List (Feature W) :=
  if condition then [plain name] else []

/-- The text as it is, in lower case, and without punctuation. -/
def identity (text : List Char) : List (Feature W) :=
  valued "token:" text 1.0 :: valued "lower:" (Text.lower text) 1.0 ::
    if Form.bare text = [] then [] else [valued "nopunc:" (Form.bare text) 1.0]

/-- The shape of the text. -/
def shape (text : List Char) : List (Feature W) :=
  if text = [] then [] else [valued "shape:" (Form.shape text) 1.0]

/-- The lengths of beginnings and ends. -/
def affixLengths : List Nat := [1, 2, 3, 4]

/-- The beginnings and ends of the bare text, as far as it is long enough. -/
def affix (text : List Char) : List (Feature W) :=
  let bare := Form.bare text
  let lengths := affixLengths.filter (· ≤ bare.length)
  (lengths.map fun (n : Nat) =>
    valued ("prefix_" ++ toString n ++ ":") ((Form.front? n bare).getD []) 1.0) ++
    lengths.map fun (n : Nat) =>
      valued ("suffix_" ++ toString n ++ ":") ((Form.back? n bare).getD []) 1.0

/-- The case of the text. -/
def case (text : List Char) : List (Feature W) :=
  when (Form.isCapitalized text) "is_capitalized" ++
    when (Form.isAllUpper text) "is_all_caps" ++
    when (Form.isAllLower text) "is_all_lower"

/-- The name for short and long texts; those of five to nine characters have none. -/
def lengthBucket? (n : Nat) : Option String :=
  if n = 1 then some "length:single_char"
  else if n = 2 then some "length:two_char"
  else if 0 < n && n ≤ 4 then some "length:short"
  else if 10 ≤ n then some "length:long"
  else none

/-- The length of the text, as a weight and as a name. -/
def length (text : List Char) : List (Feature W) :=
  of "length" (count text.length) :: ((lengthBucket? text.length).map plain).toList

/-- The marks and digits in the text. -/
def character (text : List Char) : List (Feature W) :=
  when (Form.hasDigit text) "has_digit" ++
    when (Form.hasPunctuation text) "has_punct" ++
    when (text.contains '-') "has_hyphen" ++
    when (text.contains '.') "has_dot" ++
    when (1 < text.length && text.getLast? = some '.') "ends_with_dot" ++
    when (Form.isNumeric text) "is_numeric"

/-- The number of neighbours on each side that are looked at. -/
def contextWindow : Nat := 2

/-- The feature for the neighbour at an index: its text if `inside`, else the mark of the end.
There is none if the index is beyond both ends of the name. -/
def neighbour? (cells : List Cell) (label endMark : String) (k : Nat) (i : Int) (inside : Bool) :
    Option (Feature W) :=
  let label := label ++ toString k ++ ":"
  if inside then (Cell.at? cells i).map fun cell => valued label cell.shown 0.8
  else some (valued label endMark.toList 0.5)

/-- The distances at which neighbours are looked at, the nearest first. -/
def distances (window : Nat) : List Nat := (List.range window).map (· + 1)

/-- The neighbours before a position, the nearest first. -/
def before? (cells : List Cell) (position : Int) (window : Nat) : Option (List (Feature W)) :=
  (distances window).mapM fun k =>
    neighbour? cells "prev_" "BOS" k (position - k) (0 ≤ position - k)

/-- The neighbours behind a position, the nearest first. -/
def behind? (cells : List Cell) (position : Int) (window : Nat) : Option (List (Feature W)) :=
  (distances window).mapM fun k =>
    neighbour? cells "next_" "EOS" k (position + k) (position + k < cells.length)

/-- The neighbours of a position: those before it, then those behind it. -/
def context? (cells : List Cell) (position : Int) (window : Nat) : Option (List (Feature W)) := do
  let before ← before? cells position window
  let behind ← behind? cells position window
  return before ++ behind

/-- The parts of a name. -/
inductive Third where
  | early
  | middle
  | late
deriving DecidableEq, Repr

/-- The name of a part. -/
def Third.name : Third → String
  | .early => "early"
  | .middle => "middle"
  | .late => "late"

/-- Where the middle part begins, as a share of the way to the last position. -/
def middleStart : Float := 0.33

/-- Where the last part begins. -/
def lateStart : Float := 0.67

/-- The part in which a position lies among `total` ones.  Its share of the way to the last position
is taken as a binary number.  A single token lies in no part. -/
def third? (position total : Int) : Option Third :=
  let isBefore (share : Float) : Bool :=
    Decimal.Magnitude.roundsBelow position (total - 1).toNat (.ofFloat share)
  if total ≤ 1 then none
  else if isBefore middleStart then some .early
  else if isBefore lateStart then some .middle
  else some .late

/-- Why the place of a token cannot be told. -/
inductive Misplacement where
  /-- The share of its position is too large for a binary number. -/
  | remote
  /-- Its position has more digits than are written. -/
  | overlong
deriving DecidableEq, Repr

/-- The misplacement as a fault. -/
def Misplacement.fault : Misplacement → Fault
  | .remote => ⟨.overflow, "integer division result too large for a float"⟩
  | .overlong => ⟨.value, Decimal.overlongText ""⟩

/-- Whether the share of a position is too large for a binary number. -/
def isRemote (position total : Int) : Bool :=
  1 < total && Decimal.exceedsAll position (total - 1).toNat

/-- Why a position among `total` ones cannot be told: its share is taken before it is written. -/
def misplacement? (position total : Int) : Option Misplacement :=
  if isRemote position total then some .remote
  else if Decimal.isOverlong position then some .overlong
  else none

/-- The part in which a position lies, or the fault if its share cannot be taken. -/
def third (position total : Int) : Except Fault (Option Third) :=
  if isRemote position total then .error Misplacement.remote.fault
  else .ok (third? position total)

/-- The name for the part of the name in which a token stands. -/
def thirdName (cell : Cell) (total : Nat) : String :=
  match third? cell.position total with
  | none => "singleton"
  | some third => "position:" ++ third.name

/-- The place of the token in the name. -/
def position (cell : Cell) (total : Nat) : List (Feature W) :=
  when cell.isFirst "is_first" ++ when cell.isLast "is_last" ++
    [plain (thirdName cell total),
      valued "position_index:" (toString cell.position).toList 0.5]

/-- The place of the token in the name, or the fault if it cannot be told. -/
def place (cell : Cell) (total : Nat) : Except Fault (List (Feature W)) :=
  match misplacement? cell.position total with
  | some misplacement => .error misplacement.fault
  | none => .ok (position cell total)

end NameTagger.Feature
