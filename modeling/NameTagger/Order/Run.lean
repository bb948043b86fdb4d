/-!
# Runs

A run is a list in order: no item is before the one in front of it.  `isBefore` says whether an item
has to come before another one.

* `rising`, `falling`, `firstRun`: the run that a list begins with;
* `seat`, `inserted`: a run with one more item;
* `leastRun`, `nextRun`: the first run of a list, made longer if it is short.
-/

namespace NameTagger.Order

section

variable {α : Type} (isBefore : α → α → Bool)

/-- The items at the beginning that are in order, behind those in `run`, the last of which comes
first; and the others. -/
def rising (run : List α) (last : α) : List α → List α × List α
  | [] => (run.reverse, [])
  | next :: rest =>
      if isBefore next last then (run.reverse, next :: rest) else rising (next :: run) next rest

/-- The items at the beginning each of which has to come before the one in front of it, turned
round, before those in `run`; and the others. -/
def falling (run : List α) (last : α) : List α → List α × List α
  | [] => (run, [])
  | next :: rest =>
      if isBefore next last then falling (next :: run) next rest else (run, next :: rest)

/-- The longest beginning that is in order, or is so when turned round, and the other items. -/
def firstRun : List α → List α × List α
  | [] => ([], [])
  | [only] => ([only], [])
  | first :: second :: rest =>
      if isBefore second first then falling isBefore [second, first] second rest
      else rising isBefore [second, first] second rest

/-- The place of an item among those from `low` to `high`, found by halving. -/
def seat (item : α) (run : Array α) (low high : Nat) : Nat :=
  if low < high then
    let middle := low + (high - low) / 2
    match run[middle]? with
    | some other =>
        if isBefore item other then seat item run low middle else seat item run (middle + 1) high
    | none => low
  else low
termination_by high - low

/-- A run with one more item. -/
def inserted (run : List α) (item : α) : List α :=
  let place := seat isBefore item run.toArray 0 run.length
  run.take place ++ item :: run.drop place

/-- The least length of a run in the order of `size` items: from 32 to 64 if there are so many, such
that the number of runs is at most a power of two. -/
def leastRun (size : Nat) : Nat :=
  let unit := Nat.pow 2 (size.log2 - 5)
  (size + unit - 1) / unit

/-- The first run of a list, made longer by the items behind it until its length is `least`; and the
other items. -/
def nextRun (least : Nat) (items : List α) : List α × List α :=
  let (run, rest) := firstRun isBefore items
  let missing := least - run.length
  ((rest.take missing).foldl (inserted isBefore) run, rest.drop missing)

end

section

variable {α : Type} (isBefore : α → α → Bool)

@[simp] theorem length_inserted (run : List α) (item : α) :
    (inserted isBefore run item).length = run.length + 1 := by
  simp only [inserted, List.length_append, List.length_take, List.length_cons, List.length_drop]
  omega

theorem length_rising_le (run : List α) (last : α) (items : List α) :
    (rising isBefore run last items).2.length ≤ items.length := by
  fun_induction rising isBefore run last items <;> simp_all
  omega

theorem length_falling_le (run : List α) (last : α) (items : List α) :
    (falling isBefore run last items).2.length ≤ items.length := by
  fun_induction falling isBefore run last items <;> simp_all
  omega

/-- The first run of a list takes an item from it. -/
theorem length_firstRun_lt (item : α) (items : List α) :
    (firstRun isBefore (item :: items)).2.length < items.length + 1 := by
  cases items with
  | nil => simp [firstRun]
  | cons second rest =>
    have := length_rising_le isBefore [second, item] second rest
    have := length_falling_le isBefore [second, item] second rest
    simp only [firstRun, List.length_cons]
    split <;> omega

theorem length_nextRun_lt (least : Nat) (item : α) (items : List α) :
    (nextRun isBefore least (item :: items)).2.length < items.length + 1 := by
  have := length_firstRun_lt isBefore item items
  simp only [nextRun, List.length_drop]
  omega

end

end NameTagger.Order
