import FrameCheck.Proofs.Alike
import Mathlib.Data.List.Perm.Basic

/-!
Canonical forms of types: they have the same fields, sorted by name, and are their own
canonical forms.
-/

namespace FrameCheck

/-! ## Induction over types -/

/-- What holds of a struct if it holds of the types of its fields, and of every other type if it
holds of the one inside, holds of all types. -/
@[elab_as_elim]
theorem ColumnType.fieldInduction {motive : ColumnType → Prop}
    (scalar : ∀ kind, motive (.scalar kind)) (datetime : ∀ zone, motive (.datetime zone))
    (decimal : ∀ precision scale, motive (.decimal precision scale))
    (nullable : ∀ inner, motive inner → motive (.nullable inner))
    (list : ∀ element, motive element → motive (.list element))
    (struct : ∀ fields : Fields, (∀ entry ∈ fields.toList, motive entry.2) →
      motive (.struct fields))
    (type : ColumnType) : motive type :=
  ColumnType.rec scalar datetime decimal nullable list struct
    (fun _ member => nomatch member)
    (fun name type rest ofType ofRest entry member => by
      rcases List.mem_cons.mp member with rfl | inRest
      · exact ofType
      · exact ofRest entry inRest)
    type

/-! ## The order of texts -/

namespace Text

variable {left middle right : Text}

theorem le_trans (first : left ≤ middle) (second : middle ≤ right) : left ≤ right :=
  @List.le_trans Nat _ _ _ _ left.numbers middle.numbers right.numbers first second

theorem le_of_not_le (notLe : ¬ left ≤ right) : right ≤ left :=
  (@List.le_total Nat _ _ left.numbers right.numbers).resolve_left notLe

end Text

/-! ## Sorted fields -/

namespace Fields

def Sorted (fields : Fields) : Prop :=
  fields.toList.Pairwise fun first second => first.1 ≤ second.1

theorem insertSorted_perm (name : Text) (type : ColumnType) :
    ∀ fields : Fields, (fields.insertSorted name type).toList.Perm ((name, type) :: fields.toList)
  | .nil => .refl _
  | .cons other otherType rest => by
    rw [insertSorted]
    split
    next => exact .refl _
    next =>
      rw [toList, toList]
      exact ((insertSorted_perm name type rest).cons _).trans (.swap ..)

theorem insertSorted_sorted (name : Text) (type : ColumnType) :
    ∀ {fields : Fields}, fields.Sorted → (fields.insertSorted name type).Sorted
  | .nil, _ => List.pairwise_singleton ..
  | .cons other otherType rest, sorted => by
    obtain ⟨least, restSorted⟩ := List.pairwise_cons.mp sorted
    rw [insertSorted]
    split
    next le =>
      refine List.pairwise_cons.mpr ⟨fun entry member => ?_, sorted⟩
      rcases List.mem_cons.mp member with rfl | inRest
      · exact le
      · exact Text.le_trans le (least entry inRest)
    next notLe =>
      refine List.pairwise_cons.mpr ⟨fun entry member => ?_,
        insertSorted_sorted name type restSorted⟩
      rcases List.mem_cons.mp ((insertSorted_perm name type rest).subset member) with rfl | inRest
      · exact Text.le_of_not_le notLe
      · exact least entry inRest

theorem canonical_sorted : ∀ fields : Fields, fields.canonical.Sorted
  | .nil => .nil
  | .cons name type rest => by
    rw [canonical]
    exact insertSorted_sorted name type.canonical (canonical_sorted rest)

theorem canonical_perm : ∀ fields : Fields,
    fields.canonical.toList.Perm (fields.toList.map fun entry => (entry.1, entry.2.canonical))
  | .nil => .refl _
  | .cons name type rest => by
    rw [canonical, toList, List.map_cons]
    exact (insertSorted_perm _ _ _).trans ((canonical_perm rest).cons _)

theorem canonical_of_sorted : ∀ {fields : Fields}, fields.Sorted →
    (∀ entry ∈ fields.toList, entry.2.canonical = entry.2) → fields.canonical = fields
  | .nil, _, _ => rfl
  | .cons name type rest, sorted, fixed => by
    obtain ⟨least, restSorted⟩ := List.pairwise_cons.mp sorted
    have restFixed := canonical_of_sorted restSorted fun entry member =>
      fixed entry (List.mem_cons_of_mem _ member)
    have typeFixed : type.canonical = type := fixed (name, type) List.mem_cons_self
    rw [canonical, restFixed, typeFixed]
    cases rest with
    | nil => rfl
    | cons other otherType others =>
      have le : name ≤ other := least (other, otherType) List.mem_cons_self
      rw [insertSorted, if_pos le]

theorem areWritable_iff : ∀ {fields : Fields},
    fields.areWritable = true ↔ ∀ entry ∈ fields.toList, entry.2.isWritable = true
  | .nil => by simp [areWritable, toList]
  | .cons name type rest => by
    rw [areWritable, toList, List.forall_mem_cons, Bool.and_eq_true]
    exact and_congr_right' areWritable_iff

end Fields

theorem ColumnType.canonical_canonical (type : ColumnType) :
    type.canonical.canonical = type.canonical := by
  induction type using ColumnType.fieldInduction with
  | scalar kind => rfl
  | datetime zone => rfl
  | decimal precision scale => rfl
  | nullable inner inInner => rw [canonical, canonical, inInner]
  | list element inElement => rw [canonical, canonical, inElement]
  | struct fields inFields =>
    have fixed : ∀ entry ∈ fields.canonical.toList, entry.2.canonical = entry.2 := by
      intro entry member
      obtain ⟨original, isField, rfl⟩ := List.mem_map.mp (fields.canonical_perm.subset member)
      exact inFields original isField
    rw [canonical, canonical, Fields.canonical_of_sorted fields.canonical_sorted fixed]

theorem ColumnType.isWritable_canonical (type : ColumnType) :
    type.canonical.isWritable = type.isWritable := by
  induction type using ColumnType.fieldInduction with
  | scalar kind => rfl
  | datetime zone => rfl
  | decimal precision scale => rfl
  | nullable inner inInner => exact inInner
  | list element inElement => exact inElement
  | struct fields inFields =>
    rw [canonical, isWritable, isWritable, Bool.eq_iff_iff, Fields.areWritable_iff,
      Fields.areWritable_iff]
    simp only [fields.canonical_perm.mem_iff, List.forall_mem_map]
    exact forall₂_congr fun entry member => by rw [inFields entry member]

theorem ColumnType.Alike.isWritable {left right : ColumnType} (alike : left.Alike right) :
    left.isWritable = right.isWritable := by
  unfold Alike at alike
  rw [← isWritable_canonical left, ← isWritable_canonical right, alike]

end FrameCheck
