import FrameCheck.Proofs.Expressible
import FrameCheck.Proofs.SchemaParsing
import Mathlib.Data.List.Forall2

/-!
The text of an expressible type is read back as the same type. A text has the fields of a struct
sorted by name, and so has what is read from it: the canonical form of the type.
-/

namespace FrameCheck.Schema

open ColumnType

theorem points_append (left right : Text) : (left ++ right).points = left.points ++ right.points :=
  rfl

/-! ## Fields in a text -/

theorem resolved_of_nodup {entries : FieldEntries} (nodup : (entries.map (·.1)).Nodup) :
    resolved entries = entries := by
  induction entries using List.reverseRecOn with
  | nil => rfl
  | append_singleton entries entry inEntries =>
    rw [List.map_append, List.nodup_append] at nodup
    obtain ⟨firstNodup, _, apart⟩ := nodup
    have fresh : ∀ other ∈ entries, other.1 ≠ entry.1 := fun other member =>
      apart other.1 (List.mem_map_of_mem member) entry.1 List.mem_cons_self
    have write_fresh : ∀ written : FieldEntries, (∀ other ∈ written, other.1 ≠ entry.1) →
        Table.write entry.1 entry.2 written = written ++ [entry] := by
      intro written isFresh
      induction written with
      | nil => rfl
      | cons other others inOthers =>
        obtain ⟨different, othersFresh⟩ := List.forall_mem_cons.mp isFresh
        rw [Table.write, beq_eq_false_iff_ne.mpr different, inOthers othersFresh]
        rfl
    rw [resolved_append, inEntries firstNodup, write_fresh entries fresh]

theorem TypeText.blanks_append {depth : Nat} {gap text : List CodePoint} {type : ColumnType}
    (isBlank : Blanks gap) (derived : TypeText depth text type) :
    TypeText depth (gap ++ text) type := by
  cases depth with
  | zero => exact derived.elim
  | succ depth =>
    cases derived with
    | plain leadBlank core gapBlank =>
      rw [← List.append_assoc]
      exact .plain (isBlank.append leadBlank) core gapBlank
    | nullable leadBlank core gapBlank =>
      rw [← List.append_assoc]
      exact .nullable (isBlank.append leadBlank) core gapBlank

structure StandsFor (depth : Nat) (shown : Text × Text) (entry : Text × ColumnType) : Prop where
  name : shown.1 = entry.1
  isWord : IsWord entry.1.points
  derived : TypeText depth shown.2.points entry.2

theorem blanks_space : Blanks [.char ' '] :=
  List.forall_mem_singleton.mpr (by decide)

theorem StandsFor.fieldText {depth : Nat} {shown : Text × Text} {entry : Text × ColumnType}
    (stands : StandsFor depth shown entry) {lead : List CodePoint} (leadBlank : Blanks lead) :
    FieldText (TypeText depth) (lead ++ (shown.1 ++ ": " ++ shown.2).points) entry := by
  have field := FieldText.intro leadBlank stands.isWord blanks_nil
    (stands.derived.blanks_append blanks_space)
  rw [points_append, points_append, stands.name, List.append_assoc]
  exact field

theorem fieldsText_of_standsFor {depth : Nat} {shown : List (Text × Text)} {entries : FieldEntries}
    (all : List.Forall₂ (StandsFor depth) shown entries) (nonempty : entries ≠ [])
    {lead : List CodePoint} (leadBlank : Blanks lead) :
    FieldsText (TypeText depth)
      (lead ++ (Text.intercalate ", " (shown.map fun field => field.1 ++ ": " ++ field.2)).points)
      entries := by
  induction all generalizing lead with
  | nil => exact absurd rfl nonempty
  | @cons first entry others entries firstStands othersStand inOthers =>
    cases othersStand with
    | nil => exact .last (firstStands.fieldText leadBlank)
    | cons secondStands laterStand =>
      have rest := inOthers (List.cons_ne_nil _ _) blanks_space
      have fields := FieldsText.more (firstStands.fieldText leadBlank) blanks_nil rest
      rw [List.append_assoc] at fields
      exact fields

theorem bodyText_of_standsFor {depth : Nat} {shown : List (Text × Text)} {entries : FieldEntries}
    (all : List.Forall₂ (StandsFor depth) shown entries) :
    BodyText (TypeText depth)
      (Text.intercalate ", " (shown.map fun field => field.1 ++ ": " ++ field.2)).points
      entries := by
  cases all with
  | nil => exact .blank blanks_nil
  | cons firstStands othersStand =>
    exact .fields (fieldsText_of_standsFor (.cons firstStands othersStand) (List.cons_ne_nil _ _)
      blanks_nil)

/-! ## Sorted fields and their texts -/

theorem standsFor_insert {depth : Nat} {name text : Text} {type : ColumnType}
    (first : StandsFor depth (name, text) (name, type)) : ∀ {fields : Fields} {shown},
    List.Forall₂ (StandsFor depth) shown fields.toList →
      List.Forall₂ (StandsFor depth) (insertNamed name text shown)
        (fields.insertSorted name type).toList
  | .nil, _, .nil => .cons first .nil
  | .cons other otherType rest, _, .cons (a := shownOther) otherStands restStand => by
    rw [insertNamed, Fields.insertSorted, show shownOther.1 = other from otherStands.name]
    split
    next => exact .cons first (.cons otherStands restStand)
    next => exact .cons otherStands (standsFor_insert first restStand)

theorem standsFor_sortedTexts {depth : Nat} : ∀ {fields : Fields},
    (∀ entry ∈ fields.toList,
      StandsFor depth (entry.1, entry.2.text) (entry.1, entry.2.canonical)) →
    List.Forall₂ (StandsFor depth) fields.sortedTexts fields.canonical.toList
  | .nil, _ => .nil
  | .cons name type rest, all => by
    obtain ⟨first, others⟩ := List.forall_mem_cons.mp all
    rw [Fields.sortedTexts, Fields.canonical]
    exact standsFor_insert first (standsFor_sortedTexts others)

/-! ## Texts of types -/

theorem nesting_pos (type : ColumnType) : 0 < type.nesting := by
  induction type using fieldInduction with
  | scalar kind => exact Nat.one_pos
  | datetime zone => exact Nat.one_pos
  | decimal precision scale => exact Nat.one_pos
  | nullable inner inInner => exact inInner
  | list element _ => exact Nat.succ_pos _
  | struct fields _ => exact Nat.succ_pos _

/-- The canonical form of a type is derived from its text, and without a question mark unless the
type is nullable. -/
structure Printed (depth : Nat) (type : ColumnType) : Prop where
  derived : MarkedText (TypeText depth) type.text.points type.canonical
  core : type.isNullable = false → CoreText (TypeText depth) type.text.points type.canonical

theorem Printed.of_core {depth : Nat} {type : ColumnType}
    (core : CoreText (TypeText depth) type.text.points type.canonical) : Printed depth type := by
  have derived := MarkedText.plain blanks_nil core blanks_nil
  rw [List.nil_append, List.append_nil] at derived
  exact ⟨derived, fun _ => core⟩

theorem Printed.nullable {depth : Nat} {inner : ColumnType} (printed : Printed depth inner)
    (notNullable : inner.isNullable = false) : Printed depth (.nullable inner) := by
  have derived := MarkedText.nullable blanks_nil (printed.core notNullable) blanks_nil
  rw [List.nil_append, List.nil_append] at derived
  exact ⟨derived, fun isNullable => nomatch isNullable⟩

theorem Printed.list {depth : Nat} {element : ColumnType}
    (derived : TypeText depth element.text.points element.canonical) :
    Printed depth (.list element) := by
  have core := CoreText.list derived blanks_nil
  rw [List.nil_append] at core
  refine .of_core ?_
  rw [text, points_append, points_append, List.append_assoc]
  exact core

theorem Printed.struct {depth : Nat} {fields : Fields}
    (nodup : (fields.canonical.toList.map (·.1)).Nodup)
    (stand : ∀ entry ∈ fields.toList,
      StandsFor depth (entry.1, entry.2.text) (entry.1, entry.2.canonical)) :
    Printed depth (.struct fields) := by
  have core := CoreText.struct (bodyText_of_standsFor (standsFor_sortedTexts stand)) blanks_nil
  rw [resolved_of_nodup nodup, ofList_toList, List.nil_append] at core
  refine .of_core ?_
  rw [text, points_append, points_append, List.append_assoc]
  exact core

theorem scalar_mem_namedTypes {kind : Scalar} (notNull : kind ≠ .null) :
    ((kind.name : Text), ColumnType.scalar kind) ∈ namedTypes := by
  cases kind with
  | null => exact absurd rfl notNull
  | _ => decide

theorem TypeText.of_printed {type : ColumnType} {depth : Nat}
    (printed : ∀ depth, Expressible (depth + 1) type → Printed depth type)
    (expressible : Expressible depth type) :
    TypeText depth type.text.points type.canonical := by
  have positive := nesting_pos type
  have bound := expressible.nesting
  obtain ⟨fewer, rfl⟩ : ∃ fewer, depth = fewer + 1 := ⟨depth - 1, by omega⟩
  exact (printed fewer expressible).derived

/-- The induction is over the type; the depth goes down with the brackets. -/
theorem printed_of_expressible (type : ColumnType) :
    ∀ depth, Expressible (depth + 1) type → Printed depth type := by
  induction type using fieldInduction with
  | scalar kind =>
    intro depth expressible
    have notNull : kind ≠ .null := bne_iff_ne.mp expressible.expressible
    exact .of_core (.named (scalar_mem_namedTypes notNull))
  | datetime zone =>
    intro depth expressible
    obtain rfl : zone = none := Option.isNone_iff_eq_none.mp expressible.expressible
    have member : (("Datetime" : Text), ColumnType.datetime none) ∈ namedTypes := by decide
    exact .of_core (.named member)
  | decimal precision scale =>
    intro depth expressible
    cases expressible.expressible
  | nullable inner inInner =>
    intro depth expressible
    obtain ⟨notNullable, innerExpressible⟩ := expressible.inner
    exact (inInner depth innerExpressible).nullable notNullable
  | list element inElement =>
    intro depth expressible
    have bound : element.nesting ≤ depth := Nat.le_of_succ_le_succ expressible.nesting
    exact .list (.of_printed inElement ⟨expressible.expressible, bound⟩)
  | struct fields inFields =>
    intro depth expressible
    have bounds := Fields.nesting_le_iff.mp (Nat.le_of_succ_le_succ expressible.nesting)
    have entries := (Fields.isExpressible_iff.mp expressible.expressible).2
    have canonicalExpressible : fields.canonical.isExpressible = true :=
      (isExpressible_canonical (.struct fields)).trans expressible.expressible
    refine .struct (Fields.isExpressible_iff.mp canonicalExpressible).1 fun entry member => ?_
    obtain ⟨isWord, entryExpressible⟩ := entries entry member
    exact ⟨rfl, isWord, .of_printed (inFields entry member) ⟨entryExpressible, bounds entry member⟩⟩

/-! ## No blanks at the ends -/

theorem strip_eq_self {points : List CodePoint} (opens : bare points = points)
    (closes : bare points.reverse = points.reverse) : Text.strip points = points := by
  have unchanged : Text.strip points = (bare (bare points).reverse).reverse := rfl
  rw [unchanged, opens, closes, List.reverse_reverse]

section Ends

variable {isType : List CodePoint → ColumnType → Prop} {text : List CodePoint} {type : ColumnType}

theorem CoreText.bare_append (core : CoreText isType text type) (rest : List CodePoint) :
    bare (text ++ rest) = text ++ rest := by
  cases core with
  | named member =>
    obtain ⟨nonempty, word⟩ := namedTypes_words _ member
    exact IsWord.bare_append ⟨nonempty, word⟩ rest
  | list element gapBlank => rfl
  | struct body gapBlank => rfl

theorem CoreText.bare_reverse (core : CoreText isType text type) :
    bare text.reverse = text.reverse := by
  cases core with
  | @named name _ member =>
    obtain ⟨nonempty, word⟩ := namedTypes_words _ member
    have reversed : IsWord name.points.reverse :=
      ⟨List.reverse_ne_nil_iff.mpr nonempty, fun point inName =>
        word point (List.mem_reverse.mp inName)⟩
    simpa using reversed.bare_append []
  | list element gapBlank =>
    simp only [List.reverse_append, List.reverse_singleton, List.cons_append]
    exact bare_cons (by decide) _
  | struct body gapBlank =>
    simp only [List.reverse_append, List.reverse_singleton, List.cons_append]
    exact bare_cons (by decide) _

end Ends

theorem strip_text {depth : Nat} {type : ColumnType} (expressible : Expressible (depth + 1) type) :
    Text.strip type.text.points = type.text.points := by
  cases isNullable : type.isNullable with
  | false =>
    have core := (printed_of_expressible type depth expressible).core isNullable
    have opens := core.bare_append []
    rw [List.append_nil] at opens
    exact strip_eq_self opens core.bare_reverse
  | true =>
    cases type with
    | nullable inner =>
      obtain ⟨notNullable, innerExpressible⟩ := expressible.inner
      have core := (printed_of_expressible inner depth innerExpressible).core notNullable
      have marked : (ColumnType.nullable inner).text.points = inner.text.points ++ [.char '?'] := rfl
      rw [marked]
      refine strip_eq_self (core.bare_append _) ?_
      rw [List.reverse_append, List.reverse_singleton, List.singleton_append]
      exact bare_cons (by decide) _
    | _ => cases isNullable

/-! ## Reading texts of types -/

theorem parseType_eq_ok_iff {text : Text} {type : ColumnType} :
    parseType text = .ok type ↔ TypeText nestingLimit (Text.strip text.points) type :=
  typeWithin_readsGrammar.readAll_eq_ok_iff_derives .type nestingLimit text type

theorem parseType_text {type : ColumnType} (expressible : Expressible nestingLimit type) :
    parseType type.text = .ok type.canonical := by
  rw [parseType_eq_ok_iff, strip_text expressible]
  exact (printed_of_expressible type _ expressible).derived

theorem expressible_canonical {depth : Nat} {type : ColumnType} :
    Expressible depth type.canonical ↔ Expressible depth type := by
  constructor
  · rintro ⟨isExpressible, bound⟩
    exact ⟨by rwa [isExpressible_canonical] at isExpressible, by rwa [nesting_canonical] at bound⟩
  · rintro ⟨isExpressible, bound⟩
    exact ⟨by rwa [isExpressible_canonical], by rwa [nesting_canonical]⟩

theorem exists_read {type : ColumnType} (expressible : Expressible nestingLimit type) :
    ∃ read, parseType type.text = .ok read ∧ read.same type = true :=
  ⟨type.canonical, parseType_text expressible, same_iff.mpr (canonical_canonical type)⟩

/-- The types that are read back from their own texts are exactly those that schema texts can
express, and everything that is read from any text is such a type. -/
theorem parseType_text_roundTrip :
    (∀ type : ColumnType, (type.isExpressible = true ∧ type.nesting ≤ nestingLimit) ↔
      ∃ read, parseType type.text = .ok read ∧ read.same type = true) ∧
    (∀ text type, parseType text = .ok type →
      (type.isExpressible = true ∧ type.nesting ≤ nestingLimit) ∧
      ∃ read, parseType type.text = .ok read ∧ read.same type = true) := by
  have ofRead : ∀ {text type}, parseType text = .ok type → Expressible nestingLimit type :=
    fun isRead => (parseType_eq_ok_iff.mp isRead).expressible
  refine ⟨fun type => ⟨fun ⟨isExpressible, bound⟩ => exists_read ⟨isExpressible, bound⟩, ?_⟩,
    fun text type isRead => ?_⟩
  · rintro ⟨read, isRead, isSame⟩
    have canonicalRead := expressible_canonical.mpr (ofRead isRead)
    rw [show read.canonical = type.canonical from same_iff.mp isSame] at canonicalRead
    obtain ⟨isExpressible, bound⟩ := expressible_canonical.mp canonicalRead
    exact ⟨isExpressible, bound⟩
  · have expressible := ofRead isRead
    exact ⟨⟨expressible.expressible, expressible.nesting⟩, exists_read expressible⟩

def unorderedText : Text := "Struct\x7bb: List[Int64?], a: Utf8 , b:Struct\x7b\x7d? \x7d?"

theorem unorderedText_roundTrip :
    ∃ type, parseType unorderedText = .ok type ∧ type.text ≠ unorderedText ∧
      ∃ read, parseType type.text = .ok read ∧ read.same type = true := by
  have isRead : parseType unorderedText = .ok (.nullable (.struct (.ofList
      [("b", .nullable (.struct .nil)), ("a", .scalar .utf8)]))) := by
    rfl
  exact ⟨_, isRead, by decide, (parseType_text_roundTrip.2 unorderedText _ isRead).2⟩

end FrameCheck.Schema
