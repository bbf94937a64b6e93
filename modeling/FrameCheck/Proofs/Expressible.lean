import FrameCheck.Proofs.Canonical
import FrameCheck.Proofs.SchemaGrammar

/-!
Types that schema texts can express, and how deep they are nested. Whatever the grammar derives
is such a type.
-/

namespace FrameCheck

open Schema

/-! ## Expressible types -/

def Text.isFieldName (name : Text) : Bool :=
  !name.isEmpty && name.points.all isWordPoint

mutual

/-- Whether a schema text can express a type: it has no null, no time zone and no decimal, a
question mark follows only what has none, and fields have distinct names. -/
def ColumnType.isExpressible : ColumnType → Bool
  | .scalar kind => kind != .null
  | .datetime zone => zone.isNone
  | .decimal _ _ => false
  | .nullable inner => !inner.isNullable && inner.isExpressible
  | .list element => element.isExpressible
  | .struct fields => fields.isExpressible

def Fields.isExpressible : Fields → Bool
  | .nil => true
  | .cons name type rest =>
    name.isFieldName && decide (name ∉ rest.toList.map (·.1)) && type.isExpressible &&
      rest.isExpressible

end

mutual

def ColumnType.nesting : ColumnType → Nat
  | .scalar _ => 1
  | .datetime _ => 1
  | .decimal _ _ => 1
  | .nullable inner => inner.nesting
  | .list element => element.nesting + 1
  | .struct fields => fields.nesting + 1

def Fields.nesting : Fields → Nat
  | .nil => 0
  | .cons _ type rest => max type.nesting rest.nesting

end

theorem Text.isFieldName_iff {name : Text} : name.isFieldName = true ↔ IsWord name.points := by
  simp only [isFieldName, isEmpty, Bool.and_eq_true, Bool.not_eq_true', List.isEmpty_eq_false_iff,
    List.all_eq_true]
  constructor
  · rintro ⟨nonempty, word⟩
    exact ⟨nonempty, word⟩
  · intro isWord
    exact ⟨isWord.nonempty, isWord.word⟩

namespace Fields

theorem isExpressible_iff : ∀ {fields : Fields}, fields.isExpressible = true ↔
    (fields.toList.map (·.1)).Nodup ∧
      ∀ entry ∈ fields.toList, IsWord entry.1.points ∧ entry.2.isExpressible = true
  | .nil => by simp [isExpressible, toList]
  | .cons name type rest => by
    rw [isExpressible, toList, List.map_cons, List.nodup_cons, List.forall_mem_cons]
    simp only [Bool.and_eq_true, Text.isFieldName_iff, decide_eq_true_eq]
    rw [@isExpressible_iff rest]
    constructor
    · rintro ⟨⟨⟨isWord, fresh⟩, expressible⟩, nodup, others⟩
      exact ⟨⟨fresh, nodup⟩, ⟨isWord, expressible⟩, others⟩
    · rintro ⟨⟨fresh, nodup⟩, ⟨isWord, expressible⟩, others⟩
      exact ⟨⟨⟨isWord, fresh⟩, expressible⟩, nodup, others⟩

theorem nesting_le_iff {depth : Nat} : ∀ {fields : Fields}, fields.nesting ≤ depth ↔
    ∀ entry ∈ fields.toList, entry.2.nesting ≤ depth
  | .nil => by simp [nesting, toList]
  | .cons name type rest => by
    rw [nesting, toList, List.forall_mem_cons, Nat.max_le]
    exact and_congr_right' nesting_le_iff

theorem canonical_names_perm (fields : Fields) :
    (fields.canonical.toList.map (·.1)).Perm (fields.toList.map (·.1)) := by
  have names := fields.canonical_perm.map (·.1)
  rwa [List.map_map] at names

theorem forall_mem_canonical (property : Text → ColumnType → Prop) {fields : Fields} :
    (∀ entry ∈ fields.canonical.toList, property entry.1 entry.2) ↔
      ∀ entry ∈ fields.toList, property entry.1 entry.2.canonical := by
  simp only [fields.canonical_perm.mem_iff, List.forall_mem_map]

end Fields

namespace ColumnType

theorem isExpressible_canonical (type : ColumnType) :
    type.canonical.isExpressible = type.isExpressible := by
  induction type using fieldInduction with
  | scalar kind => rfl
  | datetime zone => rfl
  | decimal precision scale => rfl
  | nullable inner inInner =>
    rw [canonical, isExpressible, isExpressible, inInner, isNullable_canonical]
  | list element inElement => rw [canonical, isExpressible, isExpressible, inElement]
  | struct fields inFields =>
    rw [canonical, isExpressible, isExpressible, Bool.eq_iff_iff, Fields.isExpressible_iff,
      Fields.isExpressible_iff, fields.canonical_names_perm.nodup_iff,
      Fields.forall_mem_canonical fun name type =>
        IsWord name.points ∧ type.isExpressible = true]
    refine and_congr_right' (forall₂_congr fun entry member => ?_)
    rw [inFields entry member]

theorem nesting_canonical (type : ColumnType) : type.canonical.nesting = type.nesting := by
  induction type using fieldInduction with
  | scalar kind => rfl
  | datetime zone => rfl
  | decimal precision scale => rfl
  | nullable inner inInner => rw [canonical, nesting, nesting, inInner]
  | list element inElement => rw [canonical, nesting, nesting, inElement]
  | struct fields inFields =>
    have sameBounds : ∀ depth, fields.canonical.nesting ≤ depth ↔ fields.nesting ≤ depth := by
      intro depth
      rw [Fields.nesting_le_iff, Fields.nesting_le_iff,
        Fields.forall_mem_canonical fun _ type => type.nesting ≤ depth]
      refine forall₂_congr fun entry member => ?_
      rw [inFields entry member]
    have same : fields.canonical.nesting = fields.nesting :=
      Nat.le_antisymm ((sameBounds _).mpr (Nat.le_refl _)) ((sameBounds _).mp (Nat.le_refl _))
    rw [canonical, nesting, nesting, same]

end ColumnType

namespace Schema

/-! ## Derived types -/

theorem toList_ofList : ∀ entries : FieldEntries, (Fields.ofList entries).toList = entries
  | [] => rfl
  | (name, type) :: rest => by rw [Fields.ofList, Fields.toList, toList_ofList rest]

theorem mem_of_mem_resolved {entries : FieldEntries} {entry : Text × ColumnType}
    (member : entry ∈ resolved entries) : entry ∈ entries := by
  obtain ⟨name, _, found⟩ := List.mem_filterMap.mp member
  obtain ⟨type, isLast, rfl⟩ := Option.map_eq_some_iff.mp found
  obtain ⟨before, later, split, _⟩ := List.lookup_eq_some_iff.mp isLast
  rw [← List.mem_reverse, split]
  simp

theorem nodup_resolved (entries : FieldEntries) : ((resolved entries).map (·.1)).Nodup := by
  rw [resolved, List.map_filterMap]
  refine (nodup_eraseDups _).filterMap fun first second name inFirst inSecond => ?_
  simp only [Option.mem_def, Option.map_map, Option.map_eq_some_iff, Function.comp_apply]
    at inFirst inSecond
  obtain ⟨_, _, rfl⟩ := inFirst
  obtain ⟨_, _, rfl⟩ := inSecond
  rfl

section Derived

variable {isType : List CodePoint → ColumnType → Prop} {depth : Nat}

structure Expressible (depth : Nat) (type : ColumnType) : Prop where
  expressible : type.isExpressible = true
  nesting : type.nesting ≤ depth

theorem Expressible.inner {inner : ColumnType} (expressible : Expressible depth (.nullable inner)) :
    inner.isNullable = false ∧ Expressible depth inner := by
  have both := expressible.expressible
  rw [ColumnType.isExpressible, Bool.and_eq_true, Bool.not_eq_true'] at both
  exact ⟨both.1, both.2, expressible.nesting⟩

theorem BodyText.expressible {text : List CodePoint} {entries : FieldEntries}
    (types : ∀ text type, isType text type → Expressible depth type)
    (body : BodyText isType text entries) :
    ∀ entry ∈ entries, IsWord entry.1.points ∧ Expressible depth entry.2 := by
  have ofField : ∀ {text entry}, FieldText isType text entry →
      IsWord entry.1.points ∧ Expressible depth entry.2 := by
    intro text entry field
    cases field with
    | intro leadBlank isWord gapBlank typed => exact ⟨isWord, types _ _ typed⟩
  cases body with
  | blank isBlank => exact fun _ member => nomatch member
  | fields fields =>
    induction fields with
    | last field => exact List.forall_mem_singleton.mpr (ofField field)
    | more field gapBlank others inOthers =>
      exact List.forall_mem_cons.mpr ⟨ofField field, inOthers⟩

theorem CoreText.expressible {text : List CodePoint} {type : ColumnType}
    (types : ∀ text type, isType text type → Expressible depth type)
    (core : CoreText isType text type) :
    type.isNullable = false ∧ Expressible (depth + 1) type := by
  cases core with
  | named member =>
    have facts : ∀ entry ∈ namedTypes, entry.2.isNullable = false ∧
        entry.2.isExpressible = true ∧ entry.2.nesting = 1 := by
      decide
    obtain ⟨notNullable, isExpressible, isFlat⟩ := facts _ member
    exact ⟨notNullable, isExpressible, isFlat ▸ Nat.le_add_left 1 depth⟩
  | list element gapBlank =>
    obtain ⟨isExpressible, bound⟩ := types _ _ element
    exact ⟨rfl, isExpressible, Nat.succ_le_succ bound⟩
  | struct body gapBlank =>
    have entries := body.expressible types
    refine ⟨rfl, ?_, Nat.succ_le_succ ?_⟩
    · rw [ColumnType.isExpressible, Fields.isExpressible_iff, toList_ofList]
      refine ⟨nodup_resolved _, fun entry member => ?_⟩
      obtain ⟨isWord, isExpressible, _⟩ := entries entry (mem_of_mem_resolved member)
      exact ⟨isWord, isExpressible⟩
    · rw [Fields.nesting_le_iff, toList_ofList]
      exact fun entry member => (entries entry (mem_of_mem_resolved member)).2.nesting

end Derived

/-- What the grammar derives is expressible, and nested no deeper than its text. -/
theorem TypeText.expressible {depth : Nat} {text : List CodePoint} {type : ColumnType}
    (derived : TypeText depth text type) : Expressible depth type := by
  induction depth generalizing text type with
  | zero => exact derived.elim
  | succ depth inDepth =>
    cases derived with
    | plain leadBlank core gapBlank => exact (core.expressible fun _ _ => inDepth).2
    | nullable leadBlank core gapBlank =>
      obtain ⟨notNullable, isExpressible, bound⟩ := core.expressible fun _ _ => inDepth
      refine ⟨?_, bound⟩
      rw [ColumnType.isExpressible, notNullable, isExpressible]
      rfl

end Schema

end FrameCheck
