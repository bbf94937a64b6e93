import FrameCheck.Proofs.Canonical
import FrameCheck.Proofs.Table
import Mathlib.Data.List.Perm.Subperm
import Mathlib.Data.List.Sort

/-!
Types as keys of a dictionary. Two types are compared part by part, and the fields of structs as
maps; a digest of a type takes the fields of a struct in the order of their names. Where the fields
of each struct have distinct names, the types that compare equal are those with one canonical form,
and also those of which every digest is the same. So a dictionary that looks for a key by its digest
first finds every equal key, and the texts of equal keys are the same.
-/

namespace FrameCheck

/-! ## The order of texts -/

theorem CodePoint.char_number_ne_surrogate (char : Char) (index : Fin 0x800) :
    (CodePoint.char char).number ≠ (CodePoint.surrogate index).number := by
  have valid := char.valid
  simp only [UInt32.isValidChar, Nat.isValidChar] at valid
  show char.val.toNat ≠ 0xD800 + index.val
  omega

theorem CodePoint.number_injective : Function.Injective CodePoint.number := by
  intro left right same
  cases left with
  | char first =>
    cases right with
    | char second => exact congrArg CodePoint.char (Char.toNat_inj.mp same)
    | surrogate index => exact absurd same (char_number_ne_surrogate first index)
  | surrogate index =>
    cases right with
    | char second => exact absurd same.symm (char_number_ne_surrogate second index)
    | surrogate other => exact congrArg CodePoint.surrogate (Fin.ext (Nat.add_left_cancel same))

theorem Text.le_antisymm {left right : Text} (first : left ≤ right) (second : right ≤ left) :
    left = right := by
  have numbers : left.numbers = right.numbers := @List.le_antisymm Nat _ _ _ _ first second
  have points : left.points = right.points :=
    List.map_injective_iff.mpr CodePoint.number_injective numbers
  cases left
  cases right
  exact congrArg Text.mk points

/-! ## Entries in the order of their names -/

namespace Named

variable {α : Type u} {β : Type v}

abbrev NameLe (first second : Text × α) : Prop :=
  first.1 ≤ second.1

def inOrder (entries : List (Text × α)) : List (Text × α) :=
  entries.insertionSort NameLe

def mapValue (view : α → β) (entry : Text × α) : Text × β :=
  (entry.1, view entry.2)

theorem map_names (view : α → β) (entries : List (Text × α)) :
    (entries.map (mapValue view)).map (·.1) = entries.map (·.1) := by
  simp [mapValue, Function.comp_def]

theorem inOrder_map (view : α → β) (entries : List (Text × α)) :
    inOrder (entries.map (mapValue view)) = (inOrder entries).map (mapValue view) := by
  symm
  apply List.map_insertionSort
  intro first _ second _
  rfl

theorem mem_inOrder {entries : List (Text × α)} {entry : Text × α} :
    entry ∈ inOrder entries ↔ entry ∈ entries :=
  List.mem_insertionSort NameLe

theorem eq_of_sorted {left right : List (Text × α)} (distinct : (left.map (·.1)).Nodup)
    (leftSorted : left.Pairwise NameLe) (rightSorted : right.Pairwise NameLe)
    (perm : left.Perm right) : left = right := by
  apply List.Perm.eq_of_pairwise _ leftSorted rightSorted perm
  intro first second inLeft inRight le ge
  exact List.inj_on_of_nodup_map distinct inLeft (perm.symm.subset inRight) (Text.le_antisymm le ge)

theorem map_eq_map {γ : Type w} {coarse : α → γ} {fine : α → β} {left right : List (Text × α)}
    (tells : ∀ entry ∈ left, ∀ other ∈ right, fine entry.2 = fine other.2 →
      coarse entry.2 = coarse other.2)
    (same : left.map (mapValue fine) = right.map (mapValue fine)) :
    left.map (mapValue coarse) = right.map (mapValue coarse) := by
  induction left generalizing right with
  | nil => simp_all
  | cons entry rest inRest =>
    cases right with
    | nil => simp at same
    | cons other others =>
      simp only [List.map_cons, List.cons.injEq, mapValue, Prod.mk.injEq] at same
      obtain ⟨⟨names, values⟩, later⟩ := same
      have first := tells entry List.mem_cons_self other List.mem_cons_self values
      have further := inRest (fun entry member other isOther =>
        tells entry (List.mem_cons_of_mem _ member) other (List.mem_cons_of_mem _ isOther)) later
      simp only [List.map_cons, mapValue, names, first, List.cons.injEq, true_and]
      exact further

end Named

/-! ## Canonical forms and texts in the order of names -/

namespace Fields

variable {fields others : Fields}

theorem eq_of_toList_eq : ∀ {left right : Fields}, left.toList = right.toList → left = right
  | .nil, .nil, _ => rfl
  | .nil, .cons .., same => nomatch same
  | .cons .., .nil, same => nomatch same
  | .cons name type rest, .cons other otherType others, same => by
    simp only [toList, List.cons.injEq, Prod.mk.injEq] at same
    rw [same.1.1, same.1.2, eq_of_toList_eq same.2]

theorem toList_insertSorted (name : Text) (type : ColumnType) : ∀ fields : Fields,
    (fields.insertSorted name type).toList = fields.toList.orderedInsert Named.NameLe (name, type)
  | .nil => rfl
  | .cons other otherType rest => by
    rw [insertSorted, toList, List.orderedInsert_cons]
    split
    next => rfl
    next => rw [toList, toList_insertSorted name type rest]

theorem toList_canonical : ∀ fields : Fields, fields.canonical.toList =
    (Named.inOrder fields.toList).map (Named.mapValue ColumnType.canonical)
  | .nil => rfl
  | .cons name type rest => by
    rw [canonical, toList_insertSorted, toList_canonical rest, ← Named.inOrder_map,
      ← Named.inOrder_map]
    rfl

theorem canonical_eq_iff : fields.canonical = others.canonical ↔
    (Named.inOrder fields.toList).map (Named.mapValue ColumnType.canonical) =
      (Named.inOrder others.toList).map (Named.mapValue ColumnType.canonical) := by
  rw [← toList_canonical, ← toList_canonical]
  exact ⟨congrArg toList, eq_of_toList_eq⟩

theorem canonical_eq_iff_perm (distinct : (fields.toList.map (·.1)).Nodup) :
    fields.canonical = others.canonical ↔
      (fields.toList.map (Named.mapValue ColumnType.canonical)).Perm
        (others.toList.map (Named.mapValue ColumnType.canonical)) := by
  constructor
  · intro same
    have perm := others.canonical_perm
    rw [← same] at perm
    exact fields.canonical_perm.symm.trans perm
  · intro perm
    apply eq_of_toList_eq
    apply Named.eq_of_sorted _ fields.canonical_sorted others.canonical_sorted
      (fields.canonical_perm.trans (perm.trans others.canonical_perm.symm))
    rw [(fields.canonical_perm.map _).nodup_iff]
    rwa [← Named.map_names ColumnType.canonical] at distinct

end Fields

theorem insertNamed_eq (name text : Text) (others : List (Text × Text)) :
    insertNamed name text others = others.orderedInsert Named.NameLe (name, text) := by
  induction others with
  | nil => rfl
  | cons other rest inRest => rw [insertNamed, inRest, List.orderedInsert_cons]

theorem Fields.sortedTexts_eq : ∀ fields : Fields,
    fields.sortedTexts = (Named.inOrder fields.toList).map (Named.mapValue ColumnType.text)
  | .nil => rfl
  | .cons name type rest => by
    rw [sortedTexts, insertNamed_eq, sortedTexts_eq rest, ← Named.inOrder_map, ← Named.inOrder_map]
    rfl

/-! ## Comparison -/

mutual

/-- Comparison part by part. Structs are compared as maps: they have the same number of fields, and
each field of the first is found in the second, with an equal type. -/
def ColumnType.equals : ColumnType → ColumnType → Bool
  | .scalar kind, .scalar other => kind = other
  | .datetime zone, .datetime other => zone = other
  | .decimal precision scale, .decimal otherPrecision otherScale =>
    precision = otherPrecision && scale = otherScale
  | .nullable inner, .nullable other => inner.equals other
  | .list element, .list other => element.equals other
  | .struct fields, .struct others =>
    fields.toList.length = others.toList.length && fields.foundIn others
  | _, _ => false

def Fields.foundIn : Fields → Fields → Bool
  | .nil, _ => true
  | .cons name type rest, others =>
    (Table.lookup name others.toList).any type.equals && rest.foundIn others

end

mutual

/-- In every struct of the type, the fields have distinct names. -/
def ColumnType.hasDistinctNames : ColumnType → Bool
  | .scalar _ => true
  | .datetime _ => true
  | .decimal _ _ => true
  | .nullable inner => inner.hasDistinctNames
  | .list element => element.hasDistinctNames
  | .struct fields => fields.haveDistinctNames

def Fields.haveDistinctNames : Fields → Bool
  | .nil => true
  | .cons name type rest =>
    name ∉ rest.toList.map (·.1) && type.hasDistinctNames && rest.haveDistinctNames

end

namespace Fields

variable {fields others : Fields}

theorem haveDistinctNames_iff : ∀ {fields : Fields}, fields.haveDistinctNames = true ↔
    (fields.toList.map (·.1)).Nodup ∧ ∀ entry ∈ fields.toList, entry.2.hasDistinctNames = true
  | .nil => by simp [haveDistinctNames, toList]
  | .cons name type rest => by
    simp only [haveDistinctNames, toList, Bool.and_eq_true, decide_eq_true_eq, List.map_cons,
      List.nodup_cons, List.forall_mem_cons, @haveDistinctNames_iff rest]
    tauto

theorem foundIn_iff : ∀ {fields : Fields}, fields.foundIn others = true ↔
    ∀ entry ∈ fields.toList, ∃ type, Table.lookup entry.1 others.toList = some type ∧
      entry.2.equals type = true
  | .nil => by simp [foundIn, toList]
  | .cons name type rest => by
    simp only [foundIn, toList, Bool.and_eq_true, List.forall_mem_cons, Option.any_eq_true,
      @foundIn_iff rest]

theorem lookup_eq_some_iff (distinct : (fields.toList.map (·.1)).Nodup) {name : Text}
    {type : ColumnType} :
    Table.lookup name fields.toList = some type ↔ (name, type) ∈ fields.toList := by
  constructor
  · intro found
    obtain ⟨entry, member, sameName, rfl⟩ := Table.exists_of_lookup found
    rwa [← eq_of_beq sameName]
  · intro member
    apply Table.lookup_of_mem _ member
    exact (List.pairwise_map.mp distinct).imp fun differ => beq_false_of_ne differ

theorem foundIn_iff_perm (distinct : (fields.toList.map (·.1)).Nodup)
    (othersDistinct : (others.toList.map (·.1)).Nodup)
    (agree : ∀ entry ∈ fields.toList, ∀ other ∈ others.toList,
      (entry.2.equals other.2 = true ↔ entry.2.canonical = other.2.canonical)) :
    fields.toList.length = others.toList.length ∧ fields.foundIn others = true ↔
      (fields.toList.map (Named.mapValue ColumnType.canonical)).Perm
        (others.toList.map (Named.mapValue ColumnType.canonical)) := by
  constructor
  · rintro ⟨length, found⟩
    -- Only the first fields are looked for; that none of the others is left over is a matter of
    -- their number, since the first ones are distinct.
    have subset : fields.toList.map (Named.mapValue ColumnType.canonical) ⊆
        others.toList.map (Named.mapValue ColumnType.canonical) := by
      intro entry member
      obtain ⟨⟨name, type⟩, isField, rfl⟩ := List.mem_map.mp member
      obtain ⟨other, isFound, equal⟩ := foundIn_iff.mp found _ isField
      have isOther := (lookup_eq_some_iff othersDistinct).mp isFound
      have same := (agree _ isField _ isOther).mp equal
      exact List.mem_map.mpr ⟨_, isOther, congrArg (Prod.mk name) same.symm⟩
    have nodup : (fields.toList.map (Named.mapValue ColumnType.canonical)).Nodup := by
      apply List.Nodup.of_map (·.1)
      rwa [Named.map_names]
    exact (List.subperm_of_subset nodup subset).perm_of_length_le (by simp [length])
  · intro perm
    refine ⟨by simpa using perm.length_eq, foundIn_iff.mpr ?_⟩
    rintro ⟨name, type⟩ isField
    obtain ⟨⟨otherName, other⟩, isOther, same⟩ :=
      List.mem_map.mp (perm.subset (List.mem_map_of_mem isField))
    obtain ⟨rfl, sameType⟩ := Prod.mk.inj same
    exact ⟨other, (lookup_eq_some_iff othersDistinct).mpr isOther,
      (agree _ isField _ isOther).mpr sameType.symm⟩

end Fields

theorem ColumnType.equals_iff {left right : ColumnType} (distinct : left.hasDistinctNames = true)
    (rightDistinct : right.hasDistinctNames = true) :
    left.equals right = true ↔ left.Alike right := by
  change left.equals right = true ↔ left.canonical = right.canonical
  induction left using ColumnType.fieldInduction generalizing right with
  | scalar kind => cases right <;> simp [equals, canonical]
  | datetime zone => cases right <;> simp [equals, canonical]
  | decimal precision scale => cases right <;> simp [equals, canonical]
  | nullable inner inInner =>
    cases right with
    | nullable other =>
      rw [equals, canonical, canonical, nullable.injEq]
      exact inInner distinct rightDistinct
    | _ => simp [equals, canonical]
  | list element inElement =>
    cases right with
    | list other =>
      rw [equals, canonical, canonical, list.injEq]
      exact inElement distinct rightDistinct
    | _ => simp [equals, canonical]
  | struct fields inFields =>
    cases right with
    | struct others =>
      obtain ⟨names, types⟩ := Fields.haveDistinctNames_iff.mp distinct
      obtain ⟨otherNames, otherTypes⟩ := Fields.haveDistinctNames_iff.mp rightDistinct
      -- The other field is whichever the look-up finds, so the induction is for every other type.
      have agree := Fields.foundIn_iff_perm names otherNames fun entry isField other isOther =>
        inFields entry isField (types entry isField) (otherTypes other isOther)
      rw [canonical, canonical, struct.injEq, Fields.canonical_eq_iff_perm names, ← agree]
      simp only [equals, Bool.and_eq_true, decide_eq_true_eq]
    | _ => simp [equals, canonical]

/-! ## Views that read fields in order -/

/-- What the view shows of a type is a matter of what it shows of the types inside, and of the
fields of a struct in the order of their names. -/
structure ReadsInOrder {α : Type u} (view : ColumnType → α) : Prop where
  nullable : ∀ {inner other}, view inner = view other →
    view (.nullable inner) = view (.nullable other)
  list : ∀ {element other}, view element = view other → view (.list element) = view (.list other)
  struct : ∀ {fields others : Fields},
    (Named.inOrder fields.toList).map (Named.mapValue view) =
      (Named.inOrder others.toList).map (Named.mapValue view) →
    view (.struct fields) = view (.struct others)

theorem ReadsInOrder.eq_of_alike {α : Type u} {view : ColumnType → α} (reads : ReadsInOrder view)
    {left right : ColumnType} (alike : left.Alike right) : view left = view right := by
  change left.canonical = right.canonical at alike
  induction left using ColumnType.fieldInduction generalizing right with
  | scalar kind => cases right <;> simp_all [ColumnType.canonical]
  | datetime zone => cases right <;> simp_all [ColumnType.canonical]
  | decimal precision scale => cases right <;> simp_all [ColumnType.canonical]
  | nullable inner inInner =>
    cases right with
    | nullable other => exact reads.nullable (inInner (ColumnType.nullable.inj alike))
    | _ => simp [ColumnType.canonical] at alike
  | list element inElement =>
    cases right with
    | list other => exact reads.list (inElement (ColumnType.list.inj alike))
    | _ => simp [ColumnType.canonical] at alike
  | struct fields inFields =>
    cases right with
    | struct others =>
      apply reads.struct
      apply Named.map_eq_map _ (Fields.canonical_eq_iff.mp (ColumnType.struct.inj alike))
      intro entry member other _
      exact inFields entry (Named.mem_inOrder.mp member)
    | _ => simp [ColumnType.canonical] at alike

theorem ColumnType.text_readsInOrder : ReadsInOrder ColumnType.text where
  nullable same := by rw [text, text, same]
  list same := by rw [text, text, same]
  struct same := by rw [text, text, Fields.sortedTexts_eq, Fields.sortedTexts_eq, same]

/-! ## Digests -/

structure Hashing (δ : Type u) where
  text : Text → δ
  number : Int → δ
  missing : δ
  tuple : List δ → δ

namespace Hashing

variable {δ : Type u} (hashing : Hashing δ)

def labelled (label : String) (parts : List δ) : δ :=
  hashing.tuple (hashing.text label :: parts)

def entry (field : Text × δ) : δ :=
  hashing.tuple [hashing.text field.1, field.2]

end Hashing

mutual

def ColumnType.digest {δ : Type u} (hashing : Hashing δ) : ColumnType → δ
  | .scalar kind => hashing.text kind.name
  | .datetime zone => hashing.labelled "Datetime" [zone.elim hashing.missing hashing.text]
  | .decimal precision scale =>
    hashing.labelled "Decimal" [hashing.number precision, hashing.number scale]
  | .nullable inner => hashing.labelled "Nullable" [inner.digest hashing]
  | .list element => hashing.labelled "List" [element.digest hashing]
  | .struct fields =>
    let entries := (Named.inOrder (fields.digests hashing)).map hashing.entry
    hashing.labelled "Struct" [hashing.tuple entries]

def Fields.digests {δ : Type u} (hashing : Hashing δ) : Fields → List (Text × δ)
  | .nil => []
  | .cons name type rest => (name, type.digest hashing) :: rest.digests hashing

end

theorem Fields.digests_eq {δ : Type u} (hashing : Hashing δ) : ∀ fields : Fields,
    fields.digests hashing = fields.toList.map (Named.mapValue (ColumnType.digest hashing))
  | .nil => rfl
  | .cons name type rest => by
    rw [digests, digests_eq hashing rest]
    rfl

theorem Fields.inOrder_digests {δ : Type u} (hashing : Hashing δ) (fields : Fields) :
    Named.inOrder (fields.digests hashing) =
      (Named.inOrder fields.toList).map (Named.mapValue (ColumnType.digest hashing)) := by
  rw [digests_eq, Named.inOrder_map]

theorem ColumnType.digest_readsInOrder {δ : Type u} (hashing : Hashing δ) :
    ReadsInOrder (ColumnType.digest hashing) where
  nullable same := by rw [digest, digest, same]
  list same := by rw [digest, digest, same]
  struct same := by rw [digest, digest, Fields.inOrder_digests, Fields.inOrder_digests, same]

/-! ## Digests that keep everything -/

inductive Digest where
  | text (text : Text)
  | number (number : Int)
  | missing
  | tuple (members : List Digest)

namespace Digest

def faithful : Hashing Digest where
  text := .text
  number := .number
  missing := .missing
  tuple := .tuple

theorem eq_of_labelled_eq {label : String} {parts others : List Digest}
    (same : faithful.labelled label parts = faithful.labelled label others) : parts = others :=
  (List.cons.inj (tuple.inj same)).2

theorem labelled_ne {label other : String} (differ : (label : Text) ≠ other)
    {parts others : List Digest} :
    faithful.labelled label parts ≠ faithful.labelled other others :=
  fun same => differ (text.inj (List.cons.inj (tuple.inj same)).1)

theorem text_ne_labelled {text : Text} {label : String} {parts : List Digest} :
    Digest.text text ≠ faithful.labelled label parts := by
  rintro ⟨⟩

theorem entry_injective : Function.Injective faithful.entry := by
  intro field other same
  obtain ⟨names, values⟩ := List.cons.inj (tuple.inj same)
  exact Prod.ext (text.inj names) (List.cons.inj values).1

end Digest

theorem Scalar.eq_of_name_eq {kind other : Scalar} (same : (kind.name : Text) = other.name) :
    kind = other := by
  cases kind <;> cases other <;> first | rfl | exact absurd same (by decide)

theorem ColumnType.alike_of_digest_eq {left right : ColumnType}
    (same : left.digest Digest.faithful = right.digest Digest.faithful) : left.Alike right := by
  change left.canonical = right.canonical
  induction left using ColumnType.fieldInduction generalizing right with
  | scalar kind =>
    cases right with
    | scalar other => rw [Scalar.eq_of_name_eq (Digest.text.inj same)]
    | _ => exact absurd same Digest.text_ne_labelled
  | datetime zone =>
    cases right with
    | datetime other =>
      have zones := (List.cons.inj (Digest.eq_of_labelled_eq same)).1
      cases zone <;> cases other <;> simp_all [Digest.faithful]
    | scalar other => exact absurd same.symm Digest.text_ne_labelled
    | _ => exact absurd same (Digest.labelled_ne (by decide))
  | decimal precision scale =>
    cases right with
    | decimal otherPrecision otherScale =>
      obtain ⟨precisions, scales⟩ := List.cons.inj (Digest.eq_of_labelled_eq same)
      rw [Digest.number.inj precisions, Digest.number.inj (List.cons.inj scales).1]
    | scalar other => exact absurd same.symm Digest.text_ne_labelled
    | _ => exact absurd same (Digest.labelled_ne (by decide))
  | nullable inner inInner =>
    cases right with
    | nullable other =>
      have inside := inInner (List.cons.inj (Digest.eq_of_labelled_eq same)).1
      rw [canonical, canonical, inside]
    | scalar other => exact absurd same.symm Digest.text_ne_labelled
    | _ => exact absurd same (Digest.labelled_ne (by decide))
  | list element inElement =>
    cases right with
    | list other =>
      have inside := inElement (List.cons.inj (Digest.eq_of_labelled_eq same)).1
      rw [canonical, canonical, inside]
    | scalar other => exact absurd same.symm Digest.text_ne_labelled
    | _ => exact absurd same (Digest.labelled_ne (by decide))
  | struct fields inFields =>
    cases right with
    | struct others =>
      have entries := Digest.tuple.inj (List.cons.inj (Digest.eq_of_labelled_eq same)).1
      have digests := List.map_injective_iff.mpr Digest.entry_injective entries
      rw [Fields.inOrder_digests, Fields.inOrder_digests] at digests
      rw [canonical, canonical, Fields.canonical_eq_iff.mpr]
      apply Named.map_eq_map _ digests
      intro entry member other _
      exact inFields entry (Named.mem_inOrder.mp member)
    | scalar other => exact absurd same.symm Digest.text_ne_labelled
    | _ => exact absurd same (Digest.labelled_ne (by decide))

/-! ## Keys -/

/-- A type that can be a key: the names of its fields are distinct, as those of a map are. -/
structure KeyType where
  type : ColumnType
  distinct : type.hasDistinctNames = true

namespace KeyType

theorem equals_iff_alike (left right : KeyType) :
    left.type.equals right.type = true ↔ left.type.Alike right.type :=
  ColumnType.equals_iff left.distinct right.distinct

/-- The comparison of types is an equivalence and agrees with that of canonical forms. Types are
equal exactly where all digests are, however digests of texts, numbers and tuples are taken. Equal
types have the same text. -/
theorem equal_types_share_digests :
    (Equivalence fun left right : KeyType => left.type.equals right.type = true) ∧
    ∀ left right : KeyType,
      left.type.equals right.type = left.type.same right.type ∧
      (left.type.equals right.type = true ↔ ∀ (δ : Type) (hashing : Hashing δ),
        left.type.digest hashing = right.type.digest hashing) ∧
      (left.type.equals right.type = true → left.type.text = right.type.text) := by
  constructor
  · simp only [equals_iff_alike]
    exact ⟨fun key => .refl key.type, .symm, .trans⟩
  intro left right
  refine ⟨?_, ?_, ?_⟩
  · rw [Bool.eq_iff_iff, equals_iff_alike, ColumnType.same_iff]
  · rw [equals_iff_alike]
    constructor
    · intro alike δ hashing
      exact (ColumnType.digest_readsInOrder hashing).eq_of_alike alike
    · intro same
      exact ColumnType.alike_of_digest_eq (same Digest Digest.faithful)
  · intro equal
    exact ColumnType.text_readsInOrder.eq_of_alike ((equals_iff_alike left right).mp equal)

def places : KeyType where
  type := .list (.struct (.ofList
    [("name", .utf8), ("at", .nullable (.struct (.ofList [("y", .float64), ("x", .float64)])))]))
  distinct := by decide

def turnedPlaces : KeyType where
  type := .list (.struct (.ofList
    [("at", .nullable (.struct (.ofList [("x", .float64), ("y", .float64)]))), ("name", .utf8)]))
  distinct := by decide

theorem turnedPlaces_share_digests :
    places.type.equals turnedPlaces.type = true ∧ places.type ≠ turnedPlaces.type ∧
    (∀ (δ : Type) (hashing : Hashing δ),
      places.type.digest hashing = turnedPlaces.type.digest hashing) ∧
    places.type.text = turnedPlaces.type.text := by
  obtain ⟨-, ofKeys⟩ := equal_types_share_digests
  obtain ⟨-, sameDigests, sameText⟩ := ofKeys places turnedPlaces
  have equal : places.type.equals turnedPlaces.type = true := by decide
  exact ⟨equal, by decide, sameDigests.mp equal, sameText equal⟩

end KeyType

/-- The names have to be distinct: the field of the first struct is found twice in the second one,
which has a field that the first one lacks. -/
example : (ColumnType.struct (.ofList [("x", .int64), ("x", .int64)])).equals
      (.struct (.ofList [("x", .int64), ("y", .int64)])) = true ∧
    (ColumnType.struct (.ofList [("x", .int64), ("y", .int64)])).equals
      (.struct (.ofList [("x", .int64), ("x", .int64)])) = false := by
  decide

end FrameCheck
