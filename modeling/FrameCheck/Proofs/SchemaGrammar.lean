import FrameCheck.Proofs.SchemaReader
import Mathlib.Data.List.Induction
import Mathlib.Data.List.Nodup

/-!
The grammar of schema texts. A type is derived from a text with brackets nested at most so many
levels deep; what stands inside brackets is nested one level less.

Words need no rule that they be taken as long as possible: what may follow a word in a text is
never part of one.
-/

namespace FrameCheck.Schema

def Blanks (points : List CodePoint) : Prop :=
  ∀ point ∈ points, isBlankPoint point = true

theorem blanks_nil : Blanks [] := fun _ member => nomatch member

theorem Blanks.append {gap more : List CodePoint} (isBlank : Blanks gap) (moreBlank : Blanks more) :
    Blanks (gap ++ more) :=
  fun point member => (List.mem_append.mp member).elim (isBlank point) (moreBlank point)

structure IsWord (points : List CodePoint) : Prop where
  nonempty : points ≠ []
  word : ∀ point ∈ points, isWordPoint point = true

/-- The names of entries in the order in which they first occur, each with the type that it has
in its last one. -/
def resolved (entries : FieldEntries) : FieldEntries :=
  (entries.map (·.1)).eraseDups.filterMap fun name =>
    (entries.reverse.lookup name).map fun type => (name, type)

/-! ## Derivations -/

section Grammar

variable (isType : List CodePoint → ColumnType → Prop)

inductive FieldText : List CodePoint → Text × ColumnType → Prop
  | intro {lead name gap text : List CodePoint} {type : ColumnType} (leadBlank : Blanks lead)
      (isWord : IsWord name) (gapBlank : Blanks gap) (typed : isType text type) :
      FieldText (lead ++ (name ++ (gap ++ .char ':' :: text))) (⟨name⟩, type)

inductive FieldsText : List CodePoint → FieldEntries → Prop
  | last {text : List CodePoint} {entry : Text × ColumnType} (field : FieldText isType text entry) :
      FieldsText text [entry]
  | more {text gap rest : List CodePoint} {entry : Text × ColumnType} {entries : FieldEntries}
      (field : FieldText isType text entry) (gapBlank : Blanks gap)
      (others : FieldsText rest entries) :
      FieldsText (text ++ (gap ++ .char ',' :: rest)) (entry :: entries)

inductive BodyText : List CodePoint → FieldEntries → Prop
  | blank {text : List CodePoint} (isBlank : Blanks text) : BodyText text []
  | fields {text : List CodePoint} {entries : FieldEntries}
      (fields : FieldsText isType text entries) : BodyText text entries

inductive CoreText : List CodePoint → ColumnType → Prop
  | named {name : Text} {type : ColumnType} (member : (name, type) ∈ namedTypes) :
      CoreText name.points type
  | list {text gap : List CodePoint} {type : ColumnType} (element : isType text type)
      (gapBlank : Blanks gap) :
      CoreText (listOpening.points ++ (text ++ (gap ++ [.char ']']))) (.list type)
  | struct {text gap : List CodePoint} {entries : FieldEntries}
      (body : BodyText isType text entries) (gapBlank : Blanks gap) :
      CoreText (structOpening.points ++ (text ++ (gap ++ [.char '\x7d'])))
        (.struct (.ofList (resolved entries)))

inductive MarkedText : List CodePoint → ColumnType → Prop
  | plain {lead text gap : List CodePoint} {type : ColumnType} (leadBlank : Blanks lead)
      (core : CoreText isType text type) (gapBlank : Blanks gap) :
      MarkedText (lead ++ (text ++ gap)) type
  | nullable {lead text gap : List CodePoint} {type : ColumnType} (leadBlank : Blanks lead)
      (core : CoreText isType text type) (gapBlank : Blanks gap) :
      MarkedText (lead ++ (text ++ (gap ++ [.char '?']))) (.nullable type)

end Grammar

def TypeText : (depth : Nat) → List CodePoint → ColumnType → Prop
  | 0 => fun _ _ => False
  | depth + 1 => MarkedText (TypeText depth)

inductive SchemaText (depth : Nat) : List CodePoint → Frame → Prop
  | intro {text gap : List CodePoint} {entries : FieldEntries} {columns : Columns}
      (body : BodyText (TypeText depth) text entries) (gapBlank : Blanks gap)
      (named : columns.entries = (resolved entries).map fun entry => (.text entry.1, entry.2)) :
      SchemaText depth (.char '\x7b' :: (text ++ (gap ++ [.char '\x7d']))) { columns := columns }

/-! ## Blanks and words -/

def blankRanges : List (Nat × Nat) :=
  [(9, 13), (28, 32), (0x85, 0x85), (0xA0, 0xA0), (0x1680, 0x1680), (0x2000, 0x200A),
    (0x2028, 0x2029), (0x202F, 0x202F), (0x205F, 0x205F), (0x3000, 0x3000)]

theorem exists_blankRange {char : Char} (isBlank : Text.isBlank char = true) :
    ∃ blank ∈ blankRanges, blank.1 ≤ char.toNat ∧ char.toNat ≤ blank.2 := by
  simp only [Text.isBlank, Bool.or_eq_true, Bool.and_eq_true, decide_eq_true_eq, beq_iff_eq]
    at isBlank
  simp only [blankRanges, List.mem_cons, List.not_mem_nil, or_false, exists_eq_or_imp,
    exists_eq_left]
  omega

theorem wordRanges_apart : ∀ range ∈ Text.wordRanges.toList, ∀ blank ∈ blankRanges,
    blank.2 < range.1 ∨ range.2 < blank.1 := by
  decide +kernel

theorem wordRanges_contains_of_isBlank {char : Char} (isBlank : Text.isBlank char = true) :
    Text.wordRanges.contains char = false := by
  obtain ⟨blank, isRange, above, below⟩ := exists_blankRange isBlank
  rw [Text.Ranges.contains, ← Array.any_toList, List.any_eq_false]
  intro range member inRange
  have apart := wordRanges_apart range member blank isRange
  simp only [Bool.and_eq_true, decide_eq_true_eq] at inRange
  omega

theorem isAlphanum_of_isBlank {char : Char} (isAscii : char.toNat < 128)
    (isBlank : Text.isBlank char = true) : char.isAlphanum = false := by
  have apart : ∀ number < 128, Text.isBlank (Char.ofNat number) = true →
      (Char.ofNat number).isAlphanum = false := by
    decide +kernel
  have ofNumber := apart char.toNat isAscii
  rw [Char.ofNat_toNat] at ofNumber
  exact ofNumber isBlank

theorem isWord_of_isBlank {char : Char} (isBlank : Text.isBlank char = true) :
    Text.isWord char = false := by
  have notLowLine : char ≠ '_' := by
    rintro rfl
    revert isBlank
    decide
  rw [Text.isWord, Text.isAlphanumeric, beq_eq_false_iff_ne.mpr notLowLine, Bool.or_false]
  split
  next isAscii => exact isAlphanum_of_isBlank isAscii isBlank
  next => exact wordRanges_contains_of_isBlank isBlank

theorem isWordPoint_of_isBlankPoint {point : CodePoint} (isBlank : isBlankPoint point = true) :
    isWordPoint point = false := by
  cases point with
  | surrogate index => rfl
  | char value => exact isWord_of_isBlank isBlank

/-! ## Repeated names -/

theorem nodup_eraseDups (names : List Text) : names.eraseDups.Nodup := by
  generalize bound : names.length = length
  induction length using Nat.strongRecOn generalizing names with
  | ind length shorter =>
    cases names with
    | nil => exact List.nodup_nil
    | cons first rest =>
      rw [List.eraseDups_cons, List.nodup_cons]
      have fewer : (rest.filter fun name => !name == first).length < length := by
        have kept := List.length_filter_le (fun name => !name == first) rest
        simp only [List.length_cons] at bound
        omega
      refine ⟨fun member => ?_, shorter _ fewer _ rfl⟩
      simp at member

theorem write_filterMap {places : List Text} (nodup : places.Nodup) {name : Text}
    {type : ColumnType} {typeOf : Text → Option ColumnType}
    (known : ∀ place ∈ places, (typeOf place).isSome = true) :
    Table.write name type (places.filterMap fun place => (typeOf place).map fun type => (place, type)) =
      (places.filterMap fun place =>
        (if place = name then some type else typeOf place).map fun type => (place, type)) ++
      if name ∈ places then [] else [(name, type)] := by
  induction places with
  | nil => rfl
  | cons place rest inRest =>
    obtain ⟨notIn, restNodup⟩ := List.nodup_cons.mp nodup
    obtain ⟨placeType, isKnown⟩ := Option.isSome_iff_exists.mp (known place List.mem_cons_self)
    have others := inRest restNodup fun other member => known other (List.mem_cons_of_mem _ member)
    simp only [List.filterMap_cons, isKnown, Option.map_some, Table.write, beq_iff_eq]
    by_cases same : place = name
    · subst same
      have unchanged : ∀ other ∈ rest, (if other = place then some type else typeOf other) =
          typeOf other := by
        intro other member
        rw [if_neg]
        exact fun equal => notIn (equal ▸ member)
      have sameRest : (rest.filterMap fun other =>
          (if other = place then some type else typeOf other).map fun type => (other, type)) =
          rest.filterMap fun other => (typeOf other).map fun type => (other, type) :=
        List.filterMap_congr fun other member => by rw [unchanged other member]
      simp [sameRest]
    · have different : name ≠ place := fun equal => same equal.symm
      simp [same, different, others]

theorem resolved_append (entries : FieldEntries) (name : Text) (type : ColumnType) :
    resolved (entries ++ [(name, type)]) = Table.write name type (resolved entries) := by
  have known : ∀ place ∈ (entries.map (·.1)).eraseDups,
      (entries.reverse.lookup place).isSome = true := by
    intro place member
    obtain ⟨entry, isEntry, rfl⟩ := List.mem_map.mp (List.mem_eraseDups.mp member)
    rw [List.lookup_isSome_iff]
    exact ⟨entry, List.mem_reverse.mpr isEntry, by simp⟩
  have last : ∀ place, ((name, type) :: entries.reverse).lookup place =
      if place = name then some type else entries.reverse.lookup place := by
    intro place
    rw [List.lookup_cons]
    by_cases same : place = name
    · simp [same]
    · rw [if_neg same, beq_eq_false_iff_ne.mpr same]
  rw [resolved, resolved, write_filterMap (nodup_eraseDups _) known]
  simp only [List.map_append, List.map_cons, List.map_nil, List.reverse_append, List.reverse_cons,
    List.reverse_nil, List.nil_append, List.cons_append, List.eraseDups_append,
    List.filterMap_append, last, List.cons_removeAll, List.mem_eraseDups]
  congr 1
  by_cases member : name ∈ entries.map (·.1)
  · rw [if_pos member, if_neg (by simpa using member)]
    rfl
  · rw [if_neg member, if_pos (by simpa using member)]
    simp [List.removeAll, List.eraseDups_cons]

theorem foldl_write (entries : FieldEntries) :
    entries.foldl (fun written entry => Table.write entry.1 entry.2 written) [] =
      resolved entries := by
  induction entries using List.reverseRecOn with
  | nil => rfl
  | append_singleton entries entry inEntries =>
    rw [List.foldl_append, inEntries, resolved_append]
    rfl

theorem toList_insert (name : Text) (type : ColumnType) :
    ∀ fields : Fields, (fields.insert name type).toList = Table.write name type fields.toList
  | .nil => rfl
  | .cons other otherType rest => by
    have inRest := toList_insert name type rest
    rw [Fields.insert, Fields.toList, Table.write]
    by_cases same : other = name
    · simp [same, Fields.toList]
    · simp [same, Fields.toList, inRest]

theorem ofList_toList : ∀ fields : Fields, Fields.ofList fields.toList = fields
  | .nil => rfl
  | .cons name type rest => by rw [Fields.toList, Fields.ofList, ofList_toList rest]

/-- A struct has its fields where their names first occur, with the types of their last. -/
theorem toFields_eq (entries : FieldEntries) : toFields entries = .ofList (resolved entries) := by
  have general : ∀ fields : Fields,
      (entries.foldl (fun fields entry => fields.insert entry.1 entry.2) fields).toList =
        entries.foldl (fun written entry => Table.write entry.1 entry.2 written) fields.toList := by
    induction entries with
    | nil => exact fun _ => rfl
    | cons entry rest inRest =>
      intro fields
      rw [List.foldl_cons, List.foldl_cons, inRest, toList_insert]
  rw [← foldl_write, ← ofList_toList (toFields entries)]
  exact congrArg Fields.ofList (general .nil)

theorem write_map (name : Text) (type : ColumnType) (entries : FieldEntries) :
    Table.write (Literal.text name) type (entries.map fun entry => (.text entry.1, entry.2)) =
      (Table.write name type entries).map fun entry => (.text entry.1, entry.2) := by
  induction entries with
  | nil => rfl
  | cons entry rest inRest =>
    have sameTest : (Literal.text entry.1 == Literal.text name) = (entry.1 == name) := by
      rw [Bool.eq_iff_iff]
      simp [BEq.beq, Literal.value]
    rw [List.map_cons, Table.write, Table.write, inRest, sameTest]
    split <;> rfl

theorem toFrame_entries (entries : FieldEntries) :
    (toFrame entries).columns.entries =
      (resolved entries).map fun entry => (.text entry.1, entry.2) := by
  have general : ∀ (columns : Columns) (written : FieldEntries),
      columns.entries = written.map (fun entry => (.text entry.1, entry.2)) →
      (columns.insertAll (entries.map fun entry => (.text entry.1, entry.2))).entries =
        (entries.foldl (fun written entry => Table.write entry.1 entry.2 written) written).map
          fun entry => (.text entry.1, entry.2) := by
    induction entries with
    | nil => exact fun _ _ same => same
    | cons entry rest inRest =>
      intro columns written same
      refine inRest (columns.insert (.text entry.1) entry.2) _ ?_
      rw [← write_map, ← same]
      rfl
  rw [← foldl_write]
  exact general .empty [] rfl

end FrameCheck.Schema
