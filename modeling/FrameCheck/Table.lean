/-!
Tables: finite maps that keep the order in which their keys were first inserted.
Keys are compared by `==`, which need not be equality: the key that came first stays.
-/

namespace FrameCheck

/-- A finite map in order of first insertion. -/
structure Table (κ : Type u) (ν : Type v) [BEq κ] where
  entries : List (κ × ν) := []
  distinct : entries.Pairwise (fun first second => (first.1 == second.1) = false) := by
    exact .nil

namespace Table

variable {κ : Type u} {ν : Type v} [BEq κ]

def empty : Table κ ν := {}

instance : Inhabited (Table κ ν) := ⟨empty⟩

def lookup (key : κ) : List (κ × ν) → Option ν
  | [] => none
  | entry :: rest => if entry.1 == key then some entry.2 else lookup key rest

def get? (table : Table κ ν) (key : κ) : Option ν :=
  lookup key table.entries

def contains (table : Table κ ν) (key : κ) : Bool :=
  table.entries.any fun entry => entry.1 == key

def keys (table : Table κ ν) : List κ :=
  table.entries.map (·.1)

def values (table : Table κ ν) : List ν :=
  table.entries.map (·.2)

def size (table : Table κ ν) : Nat :=
  table.entries.length

def isEmpty (table : Table κ ν) : Bool :=
  table.entries.isEmpty

/-- Write a value: a known key keeps its place, a new one goes last. -/
def write (key : κ) (value : ν) : List (κ × ν) → List (κ × ν)
  | [] => [(key, value)]
  | entry :: rest =>
    if entry.1 == key then (entry.1, value) :: rest else entry :: write key value rest

theorem mem_write {key : κ} {value : ν} {entries : List (κ × ν)} {written : κ × ν}
    (member : written ∈ write key value entries) :
    (∃ entry ∈ entries, entry.1 = written.1) ∨ written.1 = key := by
  induction entries with
  | nil =>
    simp only [write, List.mem_singleton] at member
    exact .inr (by rw [member])
  | cons entry rest inRest =>
    rw [write] at member
    split at member
    · rcases List.mem_cons.mp member with equal | later
      · exact .inl ⟨entry, List.mem_cons_self, by rw [equal]⟩
      · exact .inl ⟨written, List.mem_cons_of_mem _ later, rfl⟩
    · rcases List.mem_cons.mp member with equal | later
      · exact .inl ⟨entry, List.mem_cons_self, by rw [equal]⟩
      · rcases inRest later with ⟨found, foundMember, same⟩ | isKey
        · exact .inl ⟨found, List.mem_cons_of_mem _ foundMember, same⟩
        · exact .inr isKey

theorem distinct_write {key : κ} {value : ν} {entries : List (κ × ν)}
    (distinct : entries.Pairwise fun first second => (first.1 == second.1) = false) :
    (write key value entries).Pairwise fun first second => (first.1 == second.1) = false := by
  induction entries with
  | nil => simp [write]
  | cons entry rest inRest =>
    rw [List.pairwise_cons] at distinct
    rw [write]
    split
    · exact List.pairwise_cons.mpr ⟨distinct.1, distinct.2⟩
    next different =>
      refine List.pairwise_cons.mpr ⟨fun written member => ?_, inRest distinct.2⟩
      rcases mem_write member with ⟨found, foundMember, same⟩ | isKey
      · rw [← same]; exact distinct.1 found foundMember
      · rw [isKey]; simpa using different

def insert (table : Table κ ν) (key : κ) (value : ν) : Table κ ν :=
  ⟨write key value table.entries, distinct_write table.distinct⟩

def insertAll (table : Table κ ν) (entries : List (κ × ν)) : Table κ ν :=
  entries.foldl (fun table entry => table.insert entry.1 entry.2) table

def ofList (entries : List (κ × ν)) : Table κ ν :=
  empty.insertAll entries

def mapValues {ω : Type w} (transform : κ → ν → ω) (table : Table κ ν) : Table κ ω where
  entries := table.entries.map fun entry => (entry.1, transform entry.1 entry.2)
  distinct := List.pairwise_map.mpr table.distinct

def sameBy (related : ν → ν → Bool) (left right : Table κ ν) : Bool :=
  left.size == right.size &&
    left.entries.all fun entry =>
      match right.get? entry.1 with
      | some value => related entry.2 value
      | none => false

end Table

end FrameCheck
