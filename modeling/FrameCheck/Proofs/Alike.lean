import FrameCheck.Proofs.Table
import FrameCheck.Typing.Failure
import Mathlib.Data.List.Perm.Subperm

/-!
Frames that are alike: the same columns with the same types, in any order. This is what the
comparison of frames decides, seen through look-ups.
-/

namespace FrameCheck

/-! ## Results -/

inductive ResultsAlike {ε : Type u} {α : Type v} (failures : ε → ε → Prop)
    (related : α → α → Prop) : Except ε α → Except ε α → Prop
  | ok {left right : α} (values : related left right) :
      ResultsAlike failures related (.ok left) (.ok right)
  | error {first second : ε} (failed : failures first second) :
      ResultsAlike failures related (.error first) (.error second)

theorem ResultsAlike.bind {ε : Type u} {α β : Type v} {failures : ε → ε → Prop}
    {related : α → α → Prop} {outcome : β → β → Prop} {left right : Except ε α}
    {leftNext rightNext : α → Except ε β} (first : ResultsAlike failures related left right)
    (second : ∀ leftValue rightValue, related leftValue rightValue →
      ResultsAlike failures outcome (leftNext leftValue) (rightNext rightValue)) :
    ResultsAlike failures outcome (left >>= leftNext) (right >>= rightNext) := by
  cases first with
  | ok values => exact second _ _ values
  | error failed => exact .error failed

theorem ResultsAlike.mapError {ε δ : Type u} {α : Type v} {failures : ε → ε → Prop}
    {others : δ → δ → Prop} {related : α → α → Prop} {left right : Except ε α} {note : ε → δ}
    (results : ResultsAlike failures related left right)
    (implies : ∀ first second, failures first second → others (note first) (note second)) :
    ResultsAlike others related (left.mapError note) (right.mapError note) := by
  cases results with
  | ok values => exact .ok values
  | error failed => exact .error (implies _ _ failed)

namespace Typing.Failure

/-- Both failures are refusals, or neither is. -/
abbrev Alike {ε : Type} (first second : Failure ε) : Prop :=
  first.isRefusal = second.isRefusal

theorem alike_of {ε : Type} {isWritable : ε → Bool} {first second : ε}
    (same : isWritable first = isWritable second) :
    (of isWritable first).Alike (of isWritable second) := by
  rw [Alike, isRefusal_of, isRefusal_of, same]

end Typing.Failure

/-! ## Types -/

namespace ColumnType

/-- Types that differ at most in the order of struct fields. -/
def Alike (left right : ColumnType) : Prop :=
  left.canonical = right.canonical

theorem same_iff {left right : ColumnType} : left.same right = true ↔ left.Alike right :=
  decide_eq_true_iff

theorem canonical_base (type : ColumnType) : type.base.canonical = type.canonical.base := by
  cases type <;> rfl

theorem isNullable_canonical (type : ColumnType) : type.canonical.isNullable = type.isNullable := by
  cases type <;> rfl

theorem canonical_makeNullable (type : ColumnType) :
    type.makeNullable.canonical = type.canonical.makeNullable := by
  cases type <;> rfl

namespace Alike

variable {left right : ColumnType}

theorem refl (type : ColumnType) : type.Alike type := rfl

theorem symm (alike : left.Alike right) : right.Alike left := Eq.symm alike

theorem trans {middle : ColumnType} (first : left.Alike middle) (second : middle.Alike right) :
    left.Alike right := Eq.trans first second

theorem base (alike : left.Alike right) : left.base.Alike right.base := by
  unfold Alike at alike ⊢
  rw [canonical_base, canonical_base, alike]

theorem isNullable (alike : left.Alike right) : left.isNullable = right.isNullable := by
  unfold Alike at alike
  rw [← isNullable_canonical left, ← isNullable_canonical right, alike]

theorem makeNullable (alike : left.Alike right) : left.makeNullable.Alike right.makeNullable := by
  unfold Alike at alike ⊢
  rw [canonical_makeNullable, canonical_makeNullable, alike]

theorem list (alike : left.Alike right) : (ColumnType.list left).Alike (.list right) := by
  unfold Alike at alike ⊢
  simp only [canonical, alike]

theorem same {otherLeft otherRight : ColumnType} (alike : left.Alike right)
    (others : otherLeft.Alike otherRight) : left.same otherLeft = right.same otherRight := by
  unfold Alike at alike others
  unfold ColumnType.same
  rw [alike, others]

end Alike

end ColumnType

/-! ## Labels -/

namespace Literal

theorem beq_iff {left right : Literal} : (left == right) = true ↔ left.value = right.value := by
  show (left.value == right.value) = true ↔ _
  exact beq_iff_eq

theorem beq_eq_false_iff {left right : Literal} :
    (left == right) = false ↔ left.value ≠ right.value := by
  rw [← Bool.not_eq_true, beq_iff]

end Literal

/-! ## Columns -/

namespace Columns

def values (columns : Columns) : List Literal.Value :=
  columns.keys.map Literal.value

theorem nodup_values (columns : Columns) : (values columns).Nodup := by
  refine List.pairwise_map.mpr (List.pairwise_map.mpr ?_)
  exact columns.distinct.imp fun different => Literal.beq_eq_false_iff.mp different

theorem mem_values_iff {columns : Columns} {label : Literal} :
    label.value ∈ values columns ↔ ∃ type, columns.get? label = some type := by
  constructor
  · intro member
    obtain ⟨key, isKey, same⟩ := List.mem_map.mp member
    obtain ⟨entry, isEntry, rfl⟩ := List.mem_map.mp isKey
    refine ⟨entry.2, ?_⟩
    rw [← Table.get?_congr (Literal.beq_iff.mpr same)]
    exact Table.get?_of_mem isEntry
  · rintro ⟨type, found⟩
    obtain ⟨entry, isEntry, same, _⟩ := Table.exists_of_get? found
    rw [← Literal.beq_iff.mp same]
    exact List.mem_map_of_mem (List.mem_map_of_mem isEntry)

theorem length_values (columns : Columns) : (values columns).length = columns.size := by
  simp [values, Table.keys, Table.size]

end Columns

/-! ## Frames -/

namespace Frame

def Alike (left right : Frame) : Prop :=
  Table.Agrees ColumnType.Alike left.columns right.columns

namespace Alike

variable {left middle right : Frame}

theorem refl (frame : Frame) : frame.Alike frame :=
  Table.Agrees.refl .refl frame.columns

theorem symm (alike : left.Alike right) : right.Alike left :=
  Table.Agrees.symm (fun _ _ => .symm) alike

theorem trans (first : left.Alike middle) (second : middle.Alike right) : left.Alike right :=
  Table.Agrees.trans (fun _ _ _ => .trans) first second

theorem column? (alike : left.Alike right) (label : Literal) :
    Option.Rel ColumnType.Alike (left.column? label) (right.column? label) :=
  alike label

theorem hasColumn (alike : left.Alike right) (label : Literal) :
    left.hasColumn label = right.hasColumn label :=
  alike.contains label

theorem values_subset (alike : left.Alike right) :
    Columns.values left.columns ⊆ Columns.values right.columns := by
  intro value member
  obtain ⟨label, _, rfl⟩ := List.mem_map.mp member
  obtain ⟨type, found⟩ := Columns.mem_values_iff.mp member
  have related := alike label
  rw [found] at related
  obtain ⟨other, isFound⟩ : ∃ other, right.columns.get? label = some other := by
    generalize right.columns.get? label = answer at related
    cases related
    exact ⟨_, rfl⟩
  exact Columns.mem_values_iff.mpr ⟨other, isFound⟩

theorem size_le (alike : left.Alike right) : left.columns.size ≤ right.columns.size := by
  have within := (List.subperm_of_subset (Columns.nodup_values left.columns)
    alike.values_subset).length_le
  simpa only [Columns.length_values] using within

end Alike

theorem alike_of_sameColumns {left right : Frame} (same : left.sameColumns right = true) :
    left.Alike right := by
  simp only [sameColumns, Table.sameBy, Bool.and_eq_true, beq_iff_eq, List.all_eq_true] at same
  obtain ⟨sizes, entries⟩ := same
  have answered : ∀ label type, left.columns.get? label = some type →
      ∃ other, right.columns.get? label = some other ∧ type.Alike other := by
    intro label type found
    obtain ⟨entry, member, isLabel, rfl⟩ := Table.exists_of_get? found
    have isSame := entries entry member
    rw [Table.get?_congr isLabel] at isSame
    cases other : right.columns.get? label with
    | none => simp [other] at isSame
    | some type =>
      rw [other] at isSame
      exact ⟨type, rfl, ColumnType.same_iff.mp isSame⟩
  -- The labels of the left frame are among those of the right one, and as many.
  have subset : Columns.values left.columns ⊆ Columns.values right.columns := by
    intro value member
    obtain ⟨label, _, rfl⟩ := List.mem_map.mp member
    obtain ⟨type, found⟩ := Columns.mem_values_iff.mp member
    obtain ⟨other, isFound, _⟩ := answered label type found
    exact Columns.mem_values_iff.mpr ⟨other, isFound⟩
  have permuted : (Columns.values left.columns).Perm (Columns.values right.columns) := by
    refine (List.subperm_of_subset (Columns.nodup_values _) subset).perm_of_length_le ?_
    rw [Columns.length_values, Columns.length_values]
    exact Nat.le_of_eq sizes.symm
  intro label
  cases found : left.columns.get? label with
  | some type =>
    obtain ⟨other, isFound, alike⟩ := answered label type found
    rw [isFound]
    exact .some alike
  | none =>
    cases other : right.columns.get? label with
    | none => exact .none
    | some type =>
      have inLeft := permuted.mem_iff.mpr (Columns.mem_values_iff.mpr ⟨type, other⟩)
      obtain ⟨type, isFound⟩ := Columns.mem_values_iff.mp inLeft
      simp [found] at isFound

theorem sameColumns_iff {left right : Frame} :
    left.sameColumns right = true ↔ left.Alike right := by
  refine ⟨alike_of_sameColumns, fun alike => ?_⟩
  simp only [sameColumns, Table.sameBy, Bool.and_eq_true, beq_iff_eq, List.all_eq_true]
  refine ⟨Nat.le_antisymm alike.size_le alike.symm.size_le, fun entry member => ?_⟩
  have related := alike entry.1
  rw [Table.get?_of_mem member] at related
  generalize right.columns.get? entry.1 = answer at related
  cases related with
  | some types => exact ColumnType.same_iff.mpr types

end Frame

end FrameCheck
