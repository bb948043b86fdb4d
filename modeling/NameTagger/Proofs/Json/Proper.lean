import NameTagger.Json.Read
import NameTagger.Proofs.Decimal.Finite

/-!
# Proper JSON values

* `Proper`: integers have at most 64 bits, binary numbers are finite, and no object repeats a key;
* `proper_toJson`, `Proper.put`: numbers that are read, and fields that are set;
* `readsProper`, `proper_of_parse`: whatever is read is proper.
-/

namespace NameTagger.Json

/-- A value whose integers have at most 64 bits, whose binary numbers are finite and whose objects
do not repeat keys. -/
inductive Proper : Json → Prop
  | null : Proper .null
  | bool (b : Bool) : Proper (.bool b)
  | int {n : Int} (h : -2 ^ 63 ≤ n ∧ n < 2 ^ 64) : Proper (.int n)
  | float {x : Float} (h : x.isFinite = true) : Proper (.float x)
  | str (s : String) : Proper (.str s)
  | arr {items : List Json} (h : ∀ item ∈ items, Proper item) : Proper (.arr items)
  | obj {fields : Fields} (hkeys : (fields.map Prod.fst).Nodup)
      (h : ∀ field ∈ fields, Proper field.2) : Proper (.obj fields)

theorem Proper.of_mem {fields : Fields} (h : Proper (.obj fields)) {field : String × Json}
    (hmem : field ∈ fields) : field.2.Proper := by
  cases h with
  | obj _ hvalues => exact hvalues field hmem

theorem proper_emptyArray : Proper (.arr []) := .arr fun _ h => absurd h List.not_mem_nil

theorem proper_emptyObject : Proper (.obj []) :=
  .obj List.nodup_nil fun _ h => absurd h List.not_mem_nil

/-- A number that is read is proper. -/
theorem proper_toJson {n : Numeral} {v : Json} (h : n.toJson = .ok v) : v.Proper := by
  rw [Numeral.toJson] at h
  split at h
  next hrange =>
    rw [← Except.ok.inj h]
    rw [Bool.and_eq_true, Bool.and_eq_true] at hrange
    have hleast : -2 ^ 63 ≤ n.integer := of_decide_eq_true hrange.1.2
    have hgreatest : n.integer ≤ 2 ^ 64 - 1 := of_decide_eq_true hrange.2
    exact .int ⟨hleast, by omega⟩
  next =>
    split at h
    · cases h
    next hinf =>
      rw [← Except.ok.inj h]
      exact .float (Decimal.isFinite_iff.2 ⟨Decimal.isNaN_ofDecimal _ _ _, by simpa using hinf⟩)

theorem Fields.mem_put {key : String} {value : Json} {fields : Fields} {field : String × Json}
    (h : field ∈ put key value fields) : field = (key, value) ∨ field ∈ fields := by
  induction fields with
  | nil => exact .inl (List.mem_singleton.1 h)
  | cons entry rest ih =>
    obtain ⟨k, v⟩ := entry
    rw [put] at h
    split at h
    next hk =>
      rcases List.mem_cons.1 h with rfl | hrest
      · exact .inl (by rw [hk])
      · exact .inr (List.mem_cons_of_mem _ hrest)
    next =>
      rcases List.mem_cons.1 h with rfl | hrest
      · exact .inr List.mem_cons_self
      · exact (ih hrest).imp_right (List.mem_cons_of_mem _)

theorem Fields.mem_keys_put {key other : String} {value : Json} {fields : Fields} :
    other ∈ (put key value fields).map Prod.fst ↔ other = key ∨ other ∈ fields.map Prod.fst := by
  induction fields with
  | nil => simp [put]
  | cons entry rest ih =>
    obtain ⟨k, v⟩ := entry
    rw [put]
    split
    next hk => simp [hk]
    next => rw [List.map_cons, List.mem_cons, ih, List.map_cons, List.mem_cons, or_left_comm]

/-- Setting a key leaves the keys distinct. -/
theorem Fields.nodup_put {fields : Fields} (h : (fields.map Prod.fst).Nodup) (key : String)
    (value : Json) : ((put key value fields).map Prod.fst).Nodup := by
  induction fields with
  | nil => exact List.nodup_singleton key
  | cons entry rest ih =>
    obtain ⟨k, v⟩ := entry
    rw [List.map_cons, List.nodup_cons] at h
    rw [put]
    split
    next hk => exact List.nodup_cons.2 h
    next hk =>
      rw [List.map_cons, List.nodup_cons, mem_keys_put, not_or]
      exact ⟨⟨hk, h.1⟩, ih h.2⟩

/-- Fields stay proper when one of them is set to a proper value. -/
theorem Proper.put {fields : Fields} (h : Proper (.obj fields)) (key : String) {value : Json}
    (hvalue : value.Proper) : Proper (.obj (fields.put key value)) := by
  cases h with
  | obj hkeys hvalues =>
    refine .obj (Fields.nodup_put hkeys key value) fun field hfield => ?_
    rcases Fields.mem_put hfield with rfl | hold
    · exact hvalue
    · exact hvalues field hold

/-! ### Reading -/

theorem eq_of_word {v result : Json} {expected s rest : List Char}
    (h : word v expected s = .ok (result, rest)) : result = v := by
  induction expected generalizing s with
  | nil => exact (Prod.mk.inj (Except.ok.inj h)).1.symm
  | cons w ws ih =>
    cases s with
    | nil => cases h
    | cons c s =>
      rw [word] at h
      split at h
      · exact ih h
      · cases h

theorem Proper.of_ok {v result : Json} {s rest : List Char} (hv : v.Proper)
    (h : (Except.ok (v, s) : Except Error (Json × List Char)) = .ok (result, rest)) :
    result.Proper := by
  rw [← (Prod.mk.inj (Except.ok.inj h)).1]
  exact hv

/-- Values, arrays and objects that are read with so much fuel are proper. -/
structure ReadsProper (fuel : Nat) : Prop where
  of_value : ∀ {depth s v rest}, value Numeral.toJson fuel depth s = .ok (v, rest) → v.Proper
  of_items : ∀ {depth done s v rest}, (∀ item ∈ done, item.Proper) →
    items Numeral.toJson fuel depth done s = .ok (v, rest) → v.Proper
  of_fields : ∀ {depth done s v rest}, Proper (.obj done) →
    fields Numeral.toJson fuel depth done s = .ok (v, rest) → v.Proper

namespace ReadsProper

variable {fuel depth : Nat} {s rest : List Char} {v : Json}

theorem value_succ (ih : ReadsProper fuel)
    (h : value Numeral.toJson (fuel + 1) depth s = .ok (v, rest)) : v.Proper := by
  rw [value] at h
  split at h
  · cases h
  next c t _ =>
    -- an object, an array, a string, the three words, and what is left is a number
    split at h
    · split at h
      · cases h
      split at h
      · exact proper_emptyObject.of_ok h
      · exact ih.of_fields proper_emptyObject h
    split at h
    · split at h
      · cases h
      split at h
      · exact proper_emptyArray.of_ok h
      · exact ih.of_items (fun _ hitem => absurd hitem List.not_mem_nil) h
    split at h
    · cases hstring : string t with
      | error e => rw [hstring] at h; cases h
      | ok read =>
        rw [hstring] at h
        exact (Proper.str _).of_ok h
    split at h
    · exact eq_of_word h ▸ .bool true
    split at h
    · exact eq_of_word h ▸ .bool false
    split at h
    · exact eq_of_word h ▸ .null
    split at h
    · cases h
    next numeral t _ =>
      cases hdenote : numeral.toJson with
      | error e => rw [hdenote] at h; cases h
      | ok denoted =>
        rw [hdenote] at h
        exact (proper_toJson hdenote).of_ok h

theorem items_succ (ih : ReadsProper fuel) {done : List Json} (hdone : ∀ item ∈ done, item.Proper)
    (h : items Numeral.toJson (fuel + 1) depth done s = .ok (v, rest)) : v.Proper := by
  rw [items] at h
  split at h
  · cases h
  next item t hitem =>
    have hproper : ∀ v ∈ item :: done, v.Proper :=
      List.forall_mem_cons.2 ⟨ih.of_value hitem, hdone⟩
    split at h
    · cases h
    · exact ih.of_items hproper h
    · exact (Proper.arr fun v hv => hproper v (List.mem_reverse.1 hv)).of_ok h
    · cases h

theorem fields_succ (ih : ReadsProper fuel) {done : Fields} (hdone : Proper (.obj done))
    (h : fields Numeral.toJson (fuel + 1) depth done s = .ok (v, rest)) : v.Proper := by
  rw [fields] at h
  split at h
  · cases h
  next =>
    split at h
    · cases h
    next key t _ =>
      split at h
      · cases h
      next =>
        split at h
        · cases h
        next field t hfield =>
          have hproper := hdone.put key (ih.of_value hfield)
          split at h
          · cases h
          · exact ih.of_fields hproper h
          · exact hproper.of_ok h
          · cases h
      · cases h
  · cases h

end ReadsProper

/-- Whatever the fuel is, only proper values are read. -/
theorem readsProper (fuel : Nat) : ReadsProper fuel := by
  induction fuel with
  | zero =>
    refine ⟨fun h => ?_, fun _ h => ?_, fun _ h => ?_⟩
    · rw [value] at h; cases h
    · rw [items] at h; cases h
    · rw [fields] at h; cases h
  | succ fuel ih => exact ⟨ih.value_succ, ih.items_succ, ih.fields_succ⟩

/-- Whatever is read is proper. -/
theorem proper_of_parse {text : String} {v : Json} (h : parse text = .ok v) : v.Proper := by
  rw [parse, parseWith] at h
  split at h
  · cases h
  next w rest hvalue =>
    split at h
    · rw [← Except.ok.inj h]
      exact (readsProper _).of_value hvalue
    · cases h

theorem proper_of_ofBytes {bytes : ByteArray} {v : Json} (h : ofBytes bytes = .ok v) :
    v.Proper := by
  rw [ofBytes] at h
  split at h
  · cases h
  · exact proper_of_parse h

end NameTagger.Json
