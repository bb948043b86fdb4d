import NameTagger.Proofs.Json.Number
import NameTagger.Proofs.Json.Proper
import NameTagger.Proofs.Json.String

/-!
# JSON that is written and read again

* `Reads`: what is written of a value is read as the value, whatever follows;
* `items_indented`, `fields_indented`: from values to the lines of the containers that hold them;
* `Reads.arr`, `Reads.obj`, `Proper.reads`: every proper value is read back so;
* `parse_indented`: a proper value is read back, if it is written at all.
-/

namespace NameTagger.Json

open Decimal

/-! ### Blanks -/

/-- A text that begins with a character that is no blank and closes nothing. -/
def Begins (s : List Char) : Prop :=
  ∃ c t, s = c :: t ∧ c ∉ [' ', '\t', '\n', '\r', ']', '\x7d']

theorem skip_of_begins {s : List Char} (h : Begins s) : skip s = s := by
  obtain ⟨c, s, rfl, hc⟩ := h
  simp only [List.mem_cons, not_or] at hc
  rw [skip, List.dropWhile_cons_of_neg]
  simp [hc]

theorem skip_newline (level : Nat) (s : List Char) : skip (newline level ++ s) = skip s := by
  rw [skip, newline, List.cons_append, List.dropWhile_cons_of_pos (by decide),
    List.dropWhile_append_of_pos]
  · rfl
  · intro c hc
    rw [List.eq_of_mem_replicate hc]
    decide

theorem skip_skip (s : List Char) : skip (skip s) = skip s :=
  List.dropWhile_idempotent _ s

variable (denote : Numeral → Except Error Json)

theorem value_skip (fuel depth : Nat) (s : List Char) :
    value denote fuel depth (skip s) = value denote fuel depth s := by
  cases fuel with
  | zero => rw [value, value]
  | succ fuel => rw [value, value, skip_skip]

theorem items_skip (fuel depth : Nat) (done : List Json) (s : List Char) :
    items denote fuel depth done (skip s) = items denote fuel depth done s := by
  cases fuel with
  | zero => rw [items, items]
  | succ fuel => rw [items, items, value_skip]

theorem fields_skip (fuel depth : Nat) (done : Fields) (s : List Char) :
    fields denote fuel depth done (skip s) = fields denote fuel depth done s := by
  cases fuel with
  | zero => rw [fields, fields]
  | succ fuel => rw [fields, fields, skip_skip]

/-! ### Values -/

/-- A number begins with a sign or a digit. -/
theorem exists_head_of_number {s rest : List Char} {n : Numeral} (h : number s = .ok (n, rest)) :
    ∃ c t, s = c :: t ∧ (c = '-' ∨ isPlainDigit c = true) := by
  cases s with
  | nil => cases h
  | cons c t =>
    refine ⟨c, t, rfl, or_iff_not_imp_left.2 fun hsign => ?_⟩
    by_contra hdigit
    have hhead : ¬ (c :: t).head? = some '-' := fun heq => hsign (Option.some.inj heq)
    simp only [number, if_neg hhead, List.takeWhile_cons_of_neg hdigit] at h
    rw [if_pos trivial] at h
    cases h

theorem begins_of_number {s rest : List Char} {n : Numeral} (h : number s = .ok (n, rest)) :
    Begins s := by
  obtain ⟨c, t, rfl, hc⟩ := exists_head_of_number h
  refine ⟨c, t, rfl, fun hmem => ?_⟩
  simp only [List.mem_cons, List.not_mem_nil, or_false] at hmem
  rcases hmem with rfl | rfl | rfl | rfl | rfl | rfl <;> revert hc <;> decide

/-- A number is read as the value that it denotes. -/
theorem value_number {s rest : List Char} {n : Numeral} {v : Json}
    (h : number s = .ok (n, rest)) (hdenote : denote n = .ok v) (fuel depth : Nat) :
    value denote (fuel + 1) depth s = .ok (v, rest) := by
  have hskip := skip_of_begins (begins_of_number h)
  obtain ⟨c, t, rfl, hc⟩ := exists_head_of_number h
  have hne {d : Char} (hd : ¬ (d = '-' ∨ isPlainDigit d = true)) : c ≠ d := fun heq => hd (heq ▸ hc)
  rw [value, hskip]
  simp only [if_neg (hne (d := '\x7b') (by decide)), if_neg (hne (d := '[') (by decide)),
    if_neg (hne (d := '\x22') (by decide)), if_neg (hne (d := 't') (by decide)),
    if_neg (hne (d := 'f') (by decide)), if_neg (hne (d := 'n') (by decide)), h, hdenote]
  rfl

/-- The items of an array that is not empty are read from the first line on. -/
theorem value_array {s : List Char} (h : Begins s) (fuel depth level : Nat) :
    value denote (fuel + 1) (depth + 1) ('[' :: (newline level ++ s)) =
      items denote fuel depth [] s := by
  have hskip : skip ('[' :: (newline level ++ s)) = '[' :: (newline level ++ s) :=
    skip_of_begins ⟨'[', _, rfl, by decide⟩
  rw [value, hskip]
  simp only [skip_newline, skip_of_begins h]
  obtain ⟨c, t, rfl, hc⟩ := h
  simp only [List.mem_cons, not_or] at hc
  rw [if_neg (by decide), if_pos trivial]
  split
  next heq => exact absurd (List.cons.inj heq).1 hc.2.2.2.2.1
  next => rfl

/-- So are the fields of an object. -/
theorem value_object {s : List Char} (h : Begins s) (fuel depth level : Nat) :
    value denote (fuel + 1) (depth + 1) ('\x7b' :: (newline level ++ s)) =
      fields denote fuel depth [] s := by
  have hskip : skip ('\x7b' :: (newline level ++ s)) = '\x7b' :: (newline level ++ s) :=
    skip_of_begins ⟨'\x7b', _, rfl, by decide⟩
  rw [value, hskip]
  simp only [skip_newline, skip_of_begins h]
  obtain ⟨c, t, rfl, hc⟩ := h
  simp only [List.mem_cons, not_or] at hc
  rw [if_pos trivial]
  split
  next heq => exact absurd (List.cons.inj heq).1 hc.2.2.2.2.2.1
  next => rfl

/-- What is written of a value at any level is read as the value, if there are enough levels left
and nothing follows that would prolong it. -/
def Reads (v : Json) : Prop :=
  ∀ (level written depth fuel : Nat) (rest : List Char), refusalAt? written v = none →
    written ≤ depth → (indentedChars level v).length ≤ fuel → Stops rest →
    Begins (indentedChars level v ++ rest) ∧
      value Numeral.toJson fuel depth (indentedChars level v ++ rest) = .ok (v, rest)

theorem stops_newline (level : Nat) (s : List Char) : Stops (newline level ++ s) := by
  intro c hc
  obtain rfl := Option.mem_some.1 hc
  decide

theorem stops_comma (s : List Char) : Stops (',' :: s) := by
  intro c hc
  obtain rfl := Option.mem_some.1 hc
  decide

theorem skip_closing {c : Char} (hc : c = ']' ∨ c = '\x7d') (level : Nat) (s : List Char) :
    skip (newline level ++ (c :: s)) = c :: s := by
  rw [skip_newline, skip, List.dropWhile_cons_of_neg]
  rcases hc with rfl | rfl <;> decide

theorem skip_comma (s : List Char) : skip (',' :: s) = ',' :: s := by
  rw [skip, List.dropWhile_cons_of_neg (by decide)]

/-- The items of an array are read one by one. -/
theorem items_indented (level : Nat) {written depth : Nat} (hdepth : written ≤ depth)
    (tail : List Char) {rest : List Json} {item : Json} (hreads : ∀ v ∈ item :: rest, Reads v)
    (hwritten : refusalIn? written (item :: rest) = none) (fuel : Nat)
    (hfuel : (indentedChars (level + 1) item ++ indentedItems level rest).length ≤ fuel)
    (done : List Json) :
    items Numeral.toJson fuel depth done
        (indentedChars (level + 1) item ++ (indentedItems level rest ++ tail)) =
      .ok (.arr (done.reverse ++ item :: rest), tail) := by
  induction rest generalizing item fuel done with
  | nil =>
    rw [List.length_append, indentedItems, List.length_append, List.length_singleton] at hfuel
    obtain ⟨fuel, rfl⟩ : ∃ n, fuel = n + 1 := ⟨fuel - 1, by omega⟩
    rw [refusalIn?, Option.orElse_eq_none] at hwritten
    obtain ⟨-, hvalue⟩ := hreads item List.mem_cons_self (level + 1) written depth fuel _
      hwritten.1 hdepth (by omega) (stops_newline level (']' :: tail))
    rw [items, indentedItems, List.append_assoc, List.singleton_append, hvalue]
    simp only [skip_closing (.inl rfl)]
    rw [List.reverse_cons]
  | cons next rest ih =>
    rw [List.length_append, indentedItems, List.length_cons, List.length_append] at hfuel
    obtain ⟨fuel, rfl⟩ : ∃ n, fuel = n + 1 := ⟨fuel - 1, by omega⟩
    rw [refusalIn?, Option.orElse_eq_none] at hwritten
    obtain ⟨-, hvalue⟩ := hreads item List.mem_cons_self (level + 1) written depth fuel _
      hwritten.1 hdepth (by omega) (stops_comma (newline (level + 1) ++
        (indentedChars (level + 1) next ++ (indentedItems level rest ++ tail))))
    have hrest := ih (fun v hv => hreads v (List.mem_cons_of_mem _ hv)) hwritten.2 fuel
      (by omega) (item :: done)
    rw [items, indentedItems, List.cons_append, List.append_assoc, List.append_assoc, hvalue]
    simp only [skip_comma]
    rw [← items_skip, skip_newline, items_skip, hrest, List.reverse_cons, List.append_assoc]
    rfl

/-- A new key goes to the end. -/
theorem Fields.put_of_notMem {done : Fields} {key : String} (h : key ∉ done.map Prod.fst)
    (v : Json) : put key v done = done ++ [(key, v)] := by
  induction done with
  | nil => rfl
  | cons field rest ih =>
    rw [List.map_cons, List.mem_cons, not_or] at h
    rw [put, if_neg (Ne.symm h.1), ih h.2, List.cons_append]

/-- A key is read with the colon behind it, and then its value. -/
theorem fields_heading {fuel depth : Nat} (done : Fields) (key : String) {s t u : List Char}
    {v : Json} (hvalue : value Numeral.toJson fuel depth s = .ok (v, t)) :
    (skip t = ',' :: u → fields Numeral.toJson (fuel + 1) depth done (heading key ++ s) =
        fields Numeral.toJson fuel depth (done.put key v) u) ∧
      (skip t = '\x7d' :: u → fields Numeral.toJson (fuel + 1) depth done (heading key ++ s) =
        .ok (.obj (done.put key v), u)) := by
  have htext : heading key ++ s =
      '\x22' :: (key.toList.flatMap escape ++ '\x22' :: ':' :: ' ' :: s) := by
    simp [heading, quote]
  have hskip (t : List Char) : skip ('\x22' :: t) = '\x22' :: t := by
    rw [skip, List.dropWhile_cons_of_neg (by decide)]
  have hcolon (t : List Char) : skip (':' :: t) = ':' :: t := by
    rw [skip, List.dropWhile_cons_of_neg (by decide)]
  have hblank : value Numeral.toJson fuel depth (' ' :: s) = .ok (v, t) := by
    rw [← hvalue, ← value_skip, skip, List.dropWhile_cons_of_pos (by decide)]
    exact value_skip _ _ _ _
  rw [htext, fields, hskip]
  simp only [string_quote, hcolon, hblank]
  constructor <;> intro h <;> rw [h] <;> rfl

theorem Fields.put_of_nodup {done rest : Fields} {key : String} {v : Json}
    (hkeys : ((done ++ (key, v) :: rest).map Prod.fst).Nodup) :
    put key v done = done ++ [(key, v)] := by
  rw [List.map_append, List.nodup_append] at hkeys
  exact put_of_notMem (fun hmem => hkeys.2.2 key hmem key List.mem_cons_self rfl) v

/-- The fields of an object are read one by one. -/
theorem fields_indented (level : Nat) {written depth : Nat} (hdepth : written ≤ depth)
    (tail : List Char) {rest : Fields} {key : String} {v : Json}
    (hreads : ∀ f ∈ (key, v) :: rest, Reads f.2)
    (hwritten : refusalInFields? written ((key, v) :: rest) = none) (fuel : Nat)
    (hfuel : (heading key ++ (indentedChars (level + 1) v ++
      indentedFields level rest)).length ≤ fuel)
    (done : Fields) (hkeys : ((done ++ (key, v) :: rest).map Prod.fst).Nodup) :
    fields Numeral.toJson fuel depth done (heading key ++
        (indentedChars (level + 1) v ++ (indentedFields level rest ++ tail))) =
      .ok (.obj (done ++ (key, v) :: rest), tail) := by
  induction rest generalizing key v fuel done with
  | nil =>
    rw [List.length_append, List.length_append, indentedFields, List.length_append,
      List.length_singleton] at hfuel
    obtain ⟨fuel, rfl⟩ : ∃ n, fuel = n + 1 := ⟨fuel - 1, by omega⟩
    rw [refusalInFields?, Option.orElse_eq_none] at hwritten
    have hread : Reads v := hreads (key, v) List.mem_cons_self
    obtain ⟨-, hvalue⟩ := hread (level + 1) written depth fuel _ hwritten.1 hdepth
      (by omega) (stops_newline level ('\x7d' :: tail))
    rw [indentedFields, List.append_assoc, List.singleton_append,
      (fields_heading done key hvalue).2 (skip_closing (.inr rfl) level tail),
      Fields.put_of_nodup hkeys]
  | cons next rest ih =>
    obtain ⟨nextKey, next⟩ := next
    rw [List.length_append, List.length_append, indentedFields, List.length_cons,
      List.length_append] at hfuel
    obtain ⟨fuel, rfl⟩ : ∃ n, fuel = n + 1 := ⟨fuel - 1, by omega⟩
    rw [refusalInFields?, Option.orElse_eq_none] at hwritten
    have hread : Reads v := hreads (key, v) List.mem_cons_self
    obtain ⟨-, hvalue⟩ := hread (level + 1) written depth fuel _ hwritten.1 hdepth
      (by omega) (stops_comma (newline (level + 1) ++ (heading nextKey ++
        (indentedChars (level + 1) next ++ (indentedFields level rest ++ tail)))))
    have hput : done ++ (key, v) :: (nextKey, next) :: rest =
        done.put key v ++ (nextKey, next) :: rest := by
      rw [Fields.put_of_nodup hkeys, List.append_assoc, List.singleton_append]
    rw [hput] at hkeys ⊢
    have hrest := ih (fun f hf => hreads f (List.mem_cons_of_mem _ hf)) hwritten.2 fuel
      (by omega) _ hkeys
    rw [indentedFields, List.cons_append, List.append_assoc, List.append_assoc,
      List.append_assoc, (fields_heading done key hvalue).1 (skip_comma _), ← fields_skip,
      skip_newline, fields_skip, hrest]

/-! ### Proper values -/

/-- A value that holds no others is read, if its text is. -/
theorem Reads.of_leaf {v : Json} (htext : ∀ level, indentedChars level v = leaf v)
    (h : ∀ (written depth fuel : Nat) (rest : List Char), refusalAt? written v = none →
      written ≤ depth → Stops rest → Begins (leaf v ++ rest) ∧
        value Numeral.toJson (fuel + 1) depth (leaf v ++ rest) = .ok (v, rest)) : Reads v := by
  intro level written depth fuel rest hwritten hdepth hfuel hrest
  rw [htext] at hfuel ⊢
  have hne : leaf v ≠ [] := by
    obtain ⟨⟨c, t, heq, -⟩, -⟩ := h written depth 0 [] hwritten hdepth
      (fun _ hc => nomatch hc)
    rw [List.append_nil] at heq
    rw [heq]
    exact List.cons_ne_nil c t
  obtain ⟨fuel, rfl⟩ : ∃ n, fuel = n + 1 :=
    ⟨fuel - 1, by have := List.length_pos_iff.2 hne; omega⟩
  exact h written depth fuel rest hwritten hdepth hrest

theorem exists_level_of_arr {written : Nat} {items : List Json}
    (h : refusalAt? written (.arr items) = none) :
    ∃ n, written = n + 1 ∧ refusalIn? n items = none := by
  cases written with
  | zero => cases h
  | succ n => exact ⟨n, rfl, h⟩

theorem exists_level_of_obj {written : Nat} {fields : Fields}
    (h : refusalAt? written (.obj fields) = none) :
    ∃ n, written = n + 1 ∧ refusalInFields? n fields = none := by
  cases written with
  | zero => cases h
  | succ n => exact ⟨n, rfl, h⟩

theorem stops_indentedItems (level : Nat) (items : List Json) (rest : List Char) :
    Stops (indentedItems level items ++ rest) := by
  cases items with
  | nil =>
    rw [indentedItems, List.append_assoc]
    exact stops_newline _ _
  | cons item items => exact stops_comma _

theorem begins_heading (key : String) (s : List Char) : Begins (heading key ++ s) :=
  ⟨'\x22', _, rfl, by decide⟩

/-- An array is read, if its items are. -/
theorem Reads.arr {items : List Json} (h : ∀ item ∈ items, Reads item) : Reads (.arr items) := by
  cases items with
  | nil =>
    refine .of_leaf (fun _ => rfl) fun written depth _ rest hwritten hdepth _ =>
      ⟨⟨'[', _, rfl, by decide⟩, ?_⟩
    obtain ⟨written, rfl, -⟩ := exists_level_of_arr hwritten
    obtain ⟨depth, rfl⟩ : ∃ n, depth = n + 1 := ⟨depth - 1, by omega⟩
    rfl
  | cons item items =>
    intro level written depth fuel rest hrefusal hdepth hfuel hrest
    obtain ⟨written, rfl, hwritten⟩ := exists_level_of_arr hrefusal
    obtain ⟨depth, rfl⟩ : ∃ n, depth = n + 1 := ⟨depth - 1, by omega⟩
    rw [indentedChars] at hfuel ⊢
    rw [List.length_cons, List.length_append] at hfuel
    obtain ⟨fuel, rfl⟩ : ∃ n, fuel = n + 1 := ⟨fuel - 1, by omega⟩
    have hdepth' : written ≤ depth := Nat.le_of_succ_le_succ hdepth
    have hitems := items_indented level hdepth' rest h hwritten fuel (by omega) []
    rw [refusalIn?, Option.orElse_eq_none] at hwritten
    have hbegins := (h item List.mem_cons_self (level + 1) written depth _ _ hwritten.1 hdepth'
      le_rfl (stops_indentedItems level items rest)).1
    rw [List.cons_append, List.append_assoc, List.append_assoc]
    refine ⟨⟨'[', _, rfl, by decide⟩, ?_⟩
    rw [value_array _ hbegins, hitems, List.reverse_nil, List.nil_append]

/-- An object is read, if its values are and no key is repeated. -/
theorem Reads.obj {fields : Fields} (hkeys : (fields.map Prod.fst).Nodup)
    (h : ∀ field ∈ fields, Reads field.2) : Reads (.obj fields) := by
  cases fields with
  | nil =>
    refine .of_leaf (fun _ => rfl) fun written depth _ rest hwritten hdepth _ =>
      ⟨⟨'\x7b', _, rfl, by decide⟩, ?_⟩
    obtain ⟨written, rfl, -⟩ := exists_level_of_obj hwritten
    obtain ⟨depth, rfl⟩ : ∃ n, depth = n + 1 := ⟨depth - 1, by omega⟩
    rfl
  | cons field fields =>
    obtain ⟨key, v⟩ := field
    intro level written depth fuel rest hrefusal hdepth hfuel hrest
    obtain ⟨written, rfl, hwritten⟩ := exists_level_of_obj hrefusal
    obtain ⟨depth, rfl⟩ : ∃ n, depth = n + 1 := ⟨depth - 1, by omega⟩
    rw [indentedChars] at hfuel ⊢
    rw [List.length_cons, List.length_append] at hfuel
    obtain ⟨fuel, rfl⟩ : ∃ n, fuel = n + 1 := ⟨fuel - 1, by omega⟩
    have hfields := fields_indented level (Nat.le_of_succ_le_succ hdepth) rest h hwritten fuel
      (by omega) [] hkeys
    rw [List.cons_append, List.append_assoc, List.append_assoc, List.append_assoc]
    refine ⟨⟨'\x7b', _, rfl, by decide⟩, ?_⟩
    rw [value_object _ (begins_heading key _), hfields, List.nil_append]

/-- What is written of a proper value is read as the value. -/
theorem Proper.reads {v : Json} (h : v.Proper) : Reads v := by
  induction h with
  | null =>
    exact .of_leaf (fun _ => rfl) fun _ _ _ rest _ _ _ => ⟨⟨'n', _, rfl, by decide⟩, rfl⟩
  | bool b =>
    refine .of_leaf (fun _ => rfl) fun _ _ _ rest _ _ _ => ?_
    cases b with
    | true => exact ⟨⟨'t', _, rfl, by decide⟩, rfl⟩
    | false => exact ⟨⟨'f', _, rfl, by decide⟩, rfl⟩
  | int hn =>
    refine .of_leaf (fun _ => rfl) fun _ _ _ rest _ _ hrest => ?_
    obtain ⟨numeral, hnumber, hdenote⟩ := exists_numeral_int hn hrest
    exact ⟨begins_of_number hnumber, value_number _ hnumber hdenote _ _⟩
  | float h =>
    refine .of_leaf (fun _ => rfl) fun _ _ _ rest _ _ hrest => ?_
    obtain ⟨numeral, hnumber, hdenote⟩ := exists_numeral_float h hrest
    exact ⟨begins_of_number hnumber, value_number _ hnumber hdenote _ _⟩
  | str s =>
    refine .of_leaf (fun _ => rfl) fun _ _ _ rest _ _ _ => ?_
    have htext : leaf (.str s) ++ rest =
        '\x22' :: (s.toList.flatMap escape ++ '\x22' :: rest) := by
      simp [leaf, quote]
    have hbegins : Begins (leaf (.str s) ++ rest) := ⟨'\x22', _, htext, by decide⟩
    refine ⟨hbegins, ?_⟩
    rw [value, skip_of_begins hbegins, htext]
    simp only [string_quote]
    rfl
  | arr h ih => exact .arr ih
  | obj hkeys h ih => exact .obj hkeys ih

/-- A proper value is read back, if it is written at all. -/
theorem parse_indented {v : Json} (h : v.Proper) {text : String}
    (htext : write .indented v = .ok text) : parse text = .ok v := by
  have hwritten : refusal? v = none ∧ indented v = text := by
    rw [write] at htext
    split at htext
    · cases htext
    next hnone => exact ⟨hnone, Except.ok.inj htext⟩
  obtain ⟨hnone, rfl⟩ := hwritten
  obtain ⟨-, hvalue⟩ := h.reads 0 deepestWritten deepestRead (2 * (indentedChars 0 v).length + 2) []
    hnone (by decide) (by omega) (fun _ hc => nomatch hc)
  rw [List.append_nil] at hvalue
  rw [parse, parseWith, indented, String.toList_ofList, hvalue]
  rfl

end NameTagger.Json
