import FrameCheck.Table
import Mathlib.Data.List.Forall2

/-!
Tables seen through their look-ups: a write changes the answer for one key, and two tables
agree when they answer every key alike, whatever the order of their entries. The order of the
entries is seen through the keys: a known one keeps its place, and a new one goes last. So the keys
of written entries stand in the order in which they first occur, and the keys in order with the
answers are the whole table.
-/

namespace FrameCheck.Table

variable {κ : Type u} {ν : Type v} [BEq κ]

/-! ## Keys -/

theorem mem_keys_insert {table : Table κ ν} {key written : κ} {value : ν}
    (member : written ∈ (table.insert key value).keys) :
    written ∈ table.keys ∨ written = key := by
  obtain ⟨entry, entryMember, rfl⟩ := List.mem_map.mp member
  rcases mem_write entryMember with ⟨found, foundMember, same⟩ | isKey
  · exact .inl (List.mem_map.mpr ⟨found, foundMember, same⟩)
  · exact .inr isKey

theorem mem_keys_insertAll {entries : List (κ × ν)} {table : Table κ ν} {written : κ}
    (member : written ∈ (table.insertAll entries).keys) :
    written ∈ table.keys ∨ ∃ entry ∈ entries, written = entry.1 := by
  induction entries generalizing table with
  | nil => exact .inl member
  | cons entry rest inRest =>
    have step : written ∈ ((table.insert entry.1 entry.2).insertAll rest).keys := member
    rcases inRest step with before | ⟨found, later, same⟩
    · rcases mem_keys_insert before with earlier | isKey
      · exact .inl earlier
      · exact .inr ⟨entry, List.mem_cons_self, isKey⟩
    · exact .inr ⟨found, List.mem_cons_of_mem _ later, same⟩

@[simp] theorem keys_empty : (empty : Table κ ν).keys = [] := rfl

@[simp] theorem keys_mapValues {ω : Type w} (transform : κ → ν → ω) (table : Table κ ν) :
    (table.mapValues transform).keys = table.keys := by
  simp [keys, mapValues]

/-! ## Look-ups -/

theorem exists_of_lookup {key : κ} {value : ν} {entries : List (κ × ν)}
    (found : lookup key entries = some value) :
    ∃ entry ∈ entries, (entry.1 == key) = true ∧ entry.2 = value := by
  induction entries with
  | nil => simp [lookup] at found
  | cons entry rest inRest =>
    rw [lookup] at found
    split at found
    next same => exact ⟨entry, List.mem_cons_self, same, Option.some.inj found⟩
    next =>
      obtain ⟨other, member, same, equal⟩ := inRest found
      exact ⟨other, List.mem_cons_of_mem _ member, same, equal⟩

theorem exists_of_get? {table : Table κ ν} {key : κ} {value : ν}
    (found : table.get? key = some value) :
    ∃ entry ∈ table.entries, (entry.1 == key) = true ∧ entry.2 = value :=
  exists_of_lookup found

theorem contains_eq (table : Table κ ν) (key : κ) :
    table.contains key = (table.get? key).isSome := by
  obtain ⟨entries, _⟩ := table
  simp only [contains, get?]
  induction entries with
  | nil => rfl
  | cons entry rest inRest =>
    have distinctRest := inRest (List.pairwise_cons.mp ‹_›).2
    rw [List.any_cons, lookup, distinctRest]
    split <;> simp_all

@[simp] theorem get?_empty (key : κ) : (empty : Table κ ν).get? key = none := rfl

theorem get?_mapValues {ω : Type w} {transform : κ → ν → ω}
    (respects : ∀ left right value, (left == right) = true →
      transform left value = transform right value)
    (table : Table κ ν) (key : κ) :
    (table.mapValues transform).get? key = (table.get? key).map (transform key) := by
  obtain ⟨entries, _⟩ := table
  simp only [get?, mapValues]
  induction entries with
  | nil => rfl
  | cons entry rest inRest =>
    rw [List.map_cons, lookup, lookup, inRest (List.pairwise_cons.mp ‹_›).2]
    split
    next same => simp [respects _ _ entry.2 same]
    next => rfl

@[simp] theorem contains_mapValues {ω : Type w} (transform : κ → ν → ω) (table : Table κ ν)
    (key : κ) : (table.mapValues transform).contains key = table.contains key := by
  simp [contains, mapValues, List.any_map, Function.comp_def]

theorem lookup_map {ω : Type w} (transform : ν → ω) (key : κ) (entries : List (κ × ν)) :
    lookup key (entries.map fun entry => (entry.1, transform entry.2)) =
      (lookup key entries).map transform := by
  induction entries with
  | nil => rfl
  | cons entry rest inRest =>
    rw [List.map_cons, lookup, lookup, inRest]
    split <;> rfl

theorem lookup_filter (keeps : κ → Bool)
    (respects : ∀ left right, (left == right) = true → keeps left = keeps right) (key : κ)
    (entries : List (κ × ν)) :
    lookup key (entries.filter fun entry => keeps entry.1) =
      if keeps key then lookup key entries else none := by
  induction entries with
  | nil => simp [lookup]
  | cons entry rest inRest =>
    rw [List.filter_cons, lookup]
    cases same : entry.1 == key with
    | true =>
      rw [respects _ _ same]
      cases kept : keeps key with
      | true => simp [lookup, same]
      | false => simp [inRest, kept]
    | false =>
      cases keeps entry.1 with
      | true => simp [lookup, same, inRest]
      | false => simp [inRest]

section Equivalence

variable [EquivBEq κ]

theorem lookup_write (key other : κ) (value : ν) (entries : List (κ × ν)) :
    lookup other (write key value entries) =
      if key == other then some value else lookup other entries := by
  induction entries with
  | nil => simp [write, lookup]
  | cons entry rest inRest =>
    rw [write]
    split
    next isKey =>
      rw [lookup, lookup, BEq.congr_left isKey]
      split <;> rfl
    next notKey =>
      rw [lookup, lookup, inRest]
      by_cases isOther : (entry.1 == other) = true
      · have keyDiffers : (key == other) = false := by
          rw [← BEq.congr_right isOther, BEq.comm]
          simpa using notKey
        simp [isOther, keyDiffers]
      · simp [isOther]

theorem get?_insert (table : Table κ ν) (key other : κ) (value : ν) :
    (table.insert key value).get? other = if key == other then some value else table.get? other :=
  lookup_write key other value table.entries

theorem get?_insertAll {entries : List (κ × ν)} {table : Table κ ν} {key : κ} {value : ν}
    (found : (table.insertAll entries).get? key = some value) :
    table.get? key = some value ∨ ∃ entry ∈ entries, entry.2 = value := by
  induction entries generalizing table with
  | nil => exact .inl found
  | cons entry rest inRest =>
    have step : ((table.insert entry.1 entry.2).insertAll rest).get? key = some value := found
    rcases inRest step with before | ⟨other, member, equal⟩
    · rw [get?_insert] at before
      split at before
      · exact .inr ⟨entry, List.mem_cons_self, Option.some.inj before⟩
      · exact .inl before
    · exact .inr ⟨other, List.mem_cons_of_mem _ member, equal⟩

/-- Of several entries with one key the last is found. -/
theorem get?_insertAll_eq (table : Table κ ν) (entries : List (κ × ν)) (key : κ) :
    (table.insertAll entries).get? key =
      (((entries.filter fun entry => entry.1 == key).getLast?).map (·.2)).or (table.get? key) := by
  induction entries generalizing table with
  | nil => rfl
  | cons entry rest inRest =>
    show ((table.insert entry.1 entry.2).insertAll rest).get? key = _
    rw [inRest, get?_insert, List.filter_cons]
    split
    next =>
      rw [List.getLast?_cons]
      cases (rest.filter fun other => other.1 == key).getLast? <;> rfl
    next => rfl

theorem lookup_congr {left right : κ} (same : (left == right) = true) (entries : List (κ × ν)) :
    lookup left entries = lookup right entries := by
  induction entries with
  | nil => rfl
  | cons entry rest inRest => rw [lookup, lookup, inRest, BEq.congr_right same]

theorem get?_congr {left right : κ} (same : (left == right) = true) (table : Table κ ν) :
    table.get? left = table.get? right :=
  lookup_congr same table.entries

theorem lookup_of_mem {entries : List (κ × ν)}
    (distinct : entries.Pairwise fun first second => (first.1 == second.1) = false)
    {entry : κ × ν} (member : entry ∈ entries) : lookup entry.1 entries = some entry.2 := by
  induction entries with
  | nil => cases member
  | cons first rest inRest =>
    rw [List.pairwise_cons] at distinct
    rcases List.mem_cons.mp member with rfl | later
    · simp [lookup]
    · rw [lookup, distinct.1 entry later]
      exact inRest distinct.2 later

theorem get?_of_mem {table : Table κ ν} {entry : κ × ν} (member : entry ∈ table.entries) :
    table.get? entry.1 = some entry.2 :=
  lookup_of_mem table.distinct member

omit [EquivBEq κ] in
theorem lookup_eq_none {entries : List (κ × ν)} {key : κ}
    (absent : ∀ entry ∈ entries, (entry.1 == key) = false) : lookup key entries = none := by
  cases found : lookup key entries with
  | none => rfl
  | some value =>
    obtain ⟨entry, member, same, _⟩ := exists_of_lookup found
    simp [absent entry member] at same

theorem get?_insertAll_of_distinct {entries : List (κ × ν)}
    (distinct : entries.Pairwise fun first second => (first.1 == second.1) = false)
    (table : Table κ ν) (key : κ) :
    (table.insertAll entries).get? key = (lookup key entries).or (table.get? key) := by
  induction entries generalizing table with
  | nil => rfl
  | cons entry rest inRest =>
    rw [List.pairwise_cons] at distinct
    show ((table.insert entry.1 entry.2).insertAll rest).get? key = _
    rw [inRest distinct.2, get?_insert, lookup]
    split
    next isKey =>
      have absent : lookup key rest = none := lookup_eq_none fun other member => by
        rw [← BEq.congr_right isKey, BEq.comm]
        exact distinct.1 other member
      simp [absent]
    next => rfl

end Equivalence

/-! ## Places -/

theorem contains_eq_false_iff {table : Table κ ν} {key : κ} :
    table.contains key = false ↔ ∀ entry ∈ table.entries, (entry.1 == key) = false := by
  simp [contains]

theorem contains_eq_any_keys (table : Table κ ν) (key : κ) :
    table.contains key = table.keys.any (· == key) := by
  simp [contains, keys, List.any_map, Function.comp_def]

theorem entries_insert_of_absent {table : Table κ ν} {key : κ}
    (absent : table.contains key = false) (value : ν) :
    (table.insert key value).entries = table.entries ++ [(key, value)] := by
  have general : ∀ entries : List (κ × ν), (∀ entry ∈ entries, (entry.1 == key) = false) →
      write key value entries = entries ++ [(key, value)] := by
    intro entries differ
    induction entries with
    | nil => rfl
    | cons entry rest inRest =>
      rw [write, if_neg (by simp [differ entry List.mem_cons_self]),
        inRest fun other later => differ other (List.mem_cons_of_mem _ later)]
      rfl
  exact general table.entries (contains_eq_false_iff.mp absent)

theorem keys_insert_of_absent {table : Table κ ν} {key : κ}
    (absent : table.contains key = false) (value : ν) :
    (table.insert key value).keys = table.keys ++ [key] := by
  simp [keys, entries_insert_of_absent absent]

theorem keys_insert_of_present {table : Table κ ν} {key : κ}
    (present : table.contains key = true) (value : ν) :
    (table.insert key value).keys = table.keys := by
  have general : ∀ entries : List (κ × ν), (entries.any fun entry => entry.1 == key) = true →
      (write key value entries).map (·.1) = entries.map (·.1) := by
    intro entries isThere
    induction entries with
    | nil => cases isThere
    | cons entry rest inRest =>
      rw [write]
      split
      next => rfl
      next differs =>
        have later : (rest.any fun other => other.1 == key) = true := by
          simpa [differs] using isThere
        rw [List.map_cons, inRest later, List.map_cons]
  exact general table.entries present

theorem keys_prefix_insert (table : Table κ ν) (key : κ) (value : ν) :
    table.keys <+: (table.insert key value).keys := by
  cases isThere : table.contains key with
  | true => exact ⟨[], by rw [List.append_nil, keys_insert_of_present isThere]⟩
  | false =>
    rw [keys_insert_of_absent isThere]
    exact List.prefix_append _ _

theorem size_insert (table : Table κ ν) (key : κ) (value : ν) :
    (table.insert key value).size = table.size + if table.contains key then 0 else 1 := by
  cases isThere : table.contains key with
  | true =>
    have sameKeys := congrArg List.length (keys_insert_of_present isThere value)
    simpa [keys, size] using sameKeys
  | false =>
    simp [size, entries_insert_of_absent isThere]

/-- What stands in a table after a write: an old entry, or the new value under the key, which
may be spelled as it was. -/
theorem mem_entries_insert {table : Table κ ν} {key : κ} {value : ν} {entry : κ × ν}
    (member : entry ∈ (table.insert key value).entries) :
    entry ∈ table.entries ∨
      entry.2 = value ∧ (entry.1 = key ∨ entry.1 ∈ table.keys ∧ (entry.1 == key) = true) := by
  have general : ∀ entries : List (κ × ν), entry ∈ write key value entries →
      entry ∈ entries ∨ entry.2 = value ∧
        (entry.1 = key ∨ entry.1 ∈ entries.map (·.1) ∧ (entry.1 == key) = true) := by
    intro entries isWritten
    induction entries with
    | nil =>
      rw [write, List.mem_singleton] at isWritten
      exact .inr ⟨by rw [isWritten], .inl (by rw [isWritten])⟩
    | cons first rest inRest =>
      rw [write] at isWritten
      split at isWritten
      next isKey =>
        rcases List.mem_cons.mp isWritten with rfl | later
        · exact .inr ⟨rfl, .inr ⟨List.mem_cons_self, isKey⟩⟩
        · exact .inl (List.mem_cons_of_mem _ later)
      next =>
        rcases List.mem_cons.mp isWritten with rfl | later
        · exact .inl List.mem_cons_self
        · rcases inRest later with old | ⟨isValue, isNew | ⟨isOld, same⟩⟩
          · exact .inl (List.mem_cons_of_mem _ old)
          · exact .inr ⟨isValue, .inl isNew⟩
          · exact .inr ⟨isValue, .inr ⟨List.mem_cons_of_mem _ isOld, same⟩⟩
  exact general table.entries member

theorem length_filter_other_keys [EquivBEq κ] {table : Table κ ν} {key : κ}
    (present : table.contains key = true) :
    (table.entries.filter fun entry => !(entry.1 == key)).length + 1 = table.size := by
  obtain ⟨entries, distinct⟩ := table
  simp only [contains] at present
  simp only [size]
  induction entries with
  | nil => cases present
  | cons entry rest inRest =>
    rw [List.pairwise_cons] at distinct
    cases isKey : entry.1 == key with
    | true =>
      have others : (rest.filter fun other => !(other.1 == key)) = rest := by
        refine List.filter_eq_self.mpr fun other later => ?_
        have differs := distinct.1 other later
        rw [BEq.congr_left isKey, BEq.comm] at differs
        simp [differs]
      simp [isKey, others]
    | false =>
      have later : (rest.any fun other => other.1 == key) = true := by
        simpa [isKey] using present
      have count := inRest distinct.2 later
      simp only [isKey, List.filter_cons, Bool.not_false, if_true, List.length_cons]
      omega

/-! ## First occurrences -/

abbrev Distinct (keys : List κ) : Prop :=
  keys.Pairwise fun first second => (first == second) = false

theorem distinct_keys (table : Table κ ν) : Distinct table.keys :=
  List.pairwise_map.mpr table.distinct

theorem length_eraseDups_le (keys : List κ) : keys.eraseDups.length ≤ keys.length := by
  match keys with
  | [] => simp
  | first :: rest =>
    have shorter := length_eraseDups_le (rest.filter fun key => !key == first)
    have bound := List.length_filter_le (fun key => !key == first) rest
    rw [List.eraseDups_cons, List.length_cons, List.length_cons]
    omega
termination_by keys.length
decreasing_by exact Nat.lt_succ_of_le (List.length_filter_le _ _)

section Equivalence

variable [EquivBEq κ]

theorem eraseDups_of_distinct {keys : List κ} (distinct : Distinct keys) :
    keys.eraseDups = keys := by
  induction keys with
  | nil => rfl
  | cons first rest inRest =>
    rw [Distinct, List.pairwise_cons] at distinct
    have others : (rest.filter fun key => !key == first) = rest := by
      refine List.filter_eq_self.mpr fun key member => ?_
      rw [BEq.comm, distinct.1 key member]
      rfl
    rw [List.eraseDups_cons, others, inRest distinct.2]

theorem distinct_of_length_eraseDups {keys : List κ}
    (length : keys.eraseDups.length = keys.length) : Distinct keys := by
  induction keys with
  | nil => exact .nil
  | cons first rest inRest =>
    have kept := length_eraseDups_le (rest.filter fun key => !key == first)
    have bound := List.length_filter_le (fun key => !key == first) rest
    rw [List.eraseDups_cons, List.length_cons, List.length_cons] at length
    have others : (rest.filter fun key => !key == first) = rest :=
      List.filter_sublist.eq_of_length (by omega)
    rw [others] at length
    refine List.pairwise_cons.mpr ⟨fun key member => ?_, inRest (by omega)⟩
    have differs := List.filter_eq_self.mp others key member
    rw [BEq.comm] at differs
    simpa using differs

omit [EquivBEq κ] in
theorem filter_eraseDups (keeps : κ → Bool)
    (respects : ∀ left right, (left == right) = true → keeps left = keeps right) (keys : List κ) :
    keys.eraseDups.filter keeps = (keys.filter keeps).eraseDups := by
  match keys with
  | [] => rfl
  | first :: rest =>
    have inRest := filter_eraseDups keeps respects (rest.filter fun key => !key == first)
    rw [List.eraseDups_cons, List.filter_cons, List.filter_cons, inRest, List.filter_filter]
    split
    next =>
      rw [List.eraseDups_cons, List.filter_filter]
      simp only [Bool.and_comm]
    next left =>
      -- what is the same as a key that is left out is left out as well
      congr 1
      refine List.filter_congr fun key _ => ?_
      cases same : key == first with
      | true => simpa [respects key first same] using left
      | false => simp
termination_by keys.length
decreasing_by exact Nat.lt_succ_of_le (List.length_filter_le _ _)

theorem contains_congr {left right : κ} (same : (left == right) = true) (table : Table κ ν) :
    table.contains left = table.contains right := by
  rw [contains_eq, contains_eq, get?_congr same]

theorem contains_insert (table : Table κ ν) (key other : κ) (value : ν) :
    (table.insert key value).contains other = (key == other || table.contains other) := by
  rw [contains_eq, contains_eq, get?_insert]
  cases key == other <;> rfl

theorem keys_insertAll (table : Table κ ν) (entries : List (κ × ν)) :
    (table.insertAll entries).keys =
      table.keys ++ ((entries.map (·.1)).filter fun key => !table.contains key).eraseDups := by
  induction entries generalizing table with
  | nil => simp [insertAll]
  | cons entry rest inRest =>
    show ((table.insert entry.1 entry.2).insertAll rest).keys = _
    simp only [inRest, contains_insert, List.map_cons, List.filter_cons]
    cases isThere : table.contains entry.1 with
    | true =>
      rw [keys_insert_of_present isThere]
      have sameTest : ∀ key, (entry.1 == key || table.contains key) = table.contains key := by
        intro key
        cases same : entry.1 == key with
        | true => rw [← contains_congr same, isThere]; rfl
        | false => rfl
      simp [sameTest]
    | false =>
      rw [keys_insert_of_absent isThere, List.append_assoc]
      simp [List.eraseDups_cons, List.filter_filter, BEq.comm]

theorem keys_ofList (entries : List (κ × ν)) :
    (ofList entries).keys = (entries.map (·.1)).eraseDups := by
  rw [ofList, keys_insertAll, keys_empty, List.nil_append]
  congr 1
  exact List.filter_eq_self.mpr fun _ _ => rfl

/-- A table is its keys in order with the answers that it gives. -/
theorem entries_eq_filterMap (table : Table κ ν) :
    table.entries =
      table.keys.filterMap fun key => (table.get? key).map fun value => (key, value) := by
  rw [keys, List.filterMap_map]
  calc
    table.entries = table.entries.filterMap some := List.filterMap_some.symm
    _ = _ := List.filterMap_congr fun entry member => by simp [get?_of_mem member]

theorem eq_of_answers {left right : Table κ ν} (sameKeys : left.keys = right.keys)
    (sameAnswers : ∀ key, left.get? key = right.get? key) : left = right := by
  have sameEntries : left.entries = right.entries := by
    rw [entries_eq_filterMap, entries_eq_filterMap right, sameKeys]
    simp only [sameAnswers]
  cases left
  cases right
  cases sameEntries
  rfl

theorem get?_insertAll_table (table written : Table κ ν) (key : κ) :
    (table.insertAll written.entries).get? key = (written.get? key).or (table.get? key) :=
  get?_insertAll_of_distinct written.distinct table key

theorem insertAll_ofList (table : Table κ ν) (entries : List (κ × ν)) :
    table.insertAll (ofList entries).entries = table.insertAll entries := by
  refine eq_of_answers ?_ fun key => ?_
  · have absent : ∀ left right, (left == right) = true →
        (!table.contains left) = !table.contains right := by
      intro left right same
      rw [contains_congr same]
    have isNew : Distinct ((ofList entries).keys.filter fun key => !table.contains key) :=
      (distinct_keys _).filter _
    rw [keys_insertAll, keys_insertAll]
    show table.keys ++ ((ofList entries).keys.filter _).eraseDups = _
    rw [eraseDups_of_distinct isNew, keys_ofList, filter_eraseDups _ absent]
  · rw [get?_insertAll_table, ofList, get?_insertAll_eq, get?_insertAll_eq, get?_empty,
      Option.or_none]

end Equivalence

/-! ## Agreement -/

def Agrees (related : ν → ν → Prop) (left right : Table κ ν) : Prop :=
  ∀ key, Option.Rel related (left.get? key) (right.get? key)

namespace Agrees

variable {related : ν → ν → Prop} {left right : Table κ ν}

theorem refl (reflexive : ∀ value, related value value) (table : Table κ ν) :
    Agrees related table table := by
  intro key
  cases table.get? key with
  | none => exact .none
  | some value => exact .some (reflexive value)

theorem symm (symmetric : ∀ first second, related first second → related second first)
    (agree : Agrees related left right) : Agrees related right left := by
  intro key
  have alike := agree key
  generalize left.get? key = first at alike
  generalize right.get? key = second at alike
  cases alike with
  | none => exact .none
  | some values => exact .some (symmetric _ _ values)

theorem trans {middle : Table κ ν}
    (transitive : ∀ first second third, related first second → related second third →
      related first third)
    (first : Agrees related left middle) (second : Agrees related middle right) :
    Agrees related left right := by
  intro key
  have firstAlike := first key
  have secondAlike := second key
  generalize left.get? key = leftValue at firstAlike
  generalize middle.get? key = middleValue at firstAlike secondAlike
  generalize right.get? key = rightValue at secondAlike
  cases firstAlike with
  | none => exact secondAlike
  | some values =>
    cases secondAlike with
    | some others => exact .some (transitive _ _ _ values others)

theorem contains (agree : Agrees related left right) (key : κ) :
    left.contains key = right.contains key := by
  rw [contains_eq, contains_eq]
  have alike := agree key
  generalize left.get? key = first at alike
  generalize right.get? key = second at alike
  cases alike <;> rfl

theorem insert [EquivBEq κ] (agree : Agrees related left right) (key : κ) {first second : ν}
    (values : related first second) :
    Agrees related (left.insert key first) (right.insert key second) := by
  intro other
  rw [get?_insert, get?_insert]
  split
  · exact .some values
  · exact agree other

theorem insertAll [EquivBEq κ] {firsts seconds : List (κ × ν)}
    (agree : Agrees related left right)
    (entries : List.Forall₂ (fun first second => first.1 = second.1 ∧ related first.2 second.2)
      firsts seconds) :
    Agrees related (left.insertAll firsts) (right.insertAll seconds) := by
  induction entries generalizing left right with
  | nil => exact agree
  | @cons first second _ _ alike _ inRest =>
    obtain ⟨sameKey, values⟩ := alike
    have step : Agrees related (left.insert first.1 first.2) (right.insert second.1 second.2) := by
      rw [sameKey]
      exact agree.insert second.1 values
    exact inRest step

end Agrees

theorem exists_of_rel_some_left {related : α → β → Prop} {value : α} {answer : Option β}
    (rel : Option.Rel related (some value) answer) :
    ∃ other, answer = some other ∧ related value other := by
  cases rel with
  | some values => exact ⟨_, rfl, values⟩

theorem exists_of_rel_some_right {related : α → β → Prop} {answer : Option α} {value : β}
    (rel : Option.Rel related answer (some value)) :
    ∃ other, answer = some other ∧ related other value := by
  cases rel with
  | some values => exact ⟨_, rfl, values⟩

theorem rel_of_answers {related : α → β → Prop} {left : Option α} {right : Option β}
    (forward : ∀ first, left = some first → ∃ second, right = some second ∧ related first second)
    (backward : ∀ second, right = some second → ∃ first, left = some first) :
    Option.Rel related left right := by
  cases left with
  | some first =>
    obtain ⟨second, rfl, holds⟩ := forward first rfl
    exact .some holds
  | none =>
    cases right with
    | none => exact .none
    | some second =>
      obtain ⟨_, impossible⟩ := backward second rfl
      cases impossible

end FrameCheck.Table
