import FrameCheck.Proofs.SchemaGrammar
import Mathlib.Data.List.TakeWhile

/-!
Soundness of the readers of schema texts: what a reader takes from a text, the grammar derives
the result from.
-/

namespace FrameCheck.Schema

/-! ## Blanks -/

theorem exists_blanks (cursor : Cursor) :
    ∃ gap, Blanks gap ∧ cursor.rest = gap ++ cursor.skipped.rest := by
  refine ⟨cursor.rest.takeWhile isBlankPoint, fun point member => ?_, ?_⟩
  · exact List.mem_takeWhile_imp member
  · rw [Cursor.rest_skipped, List.takeWhile_append_dropWhile]

def Takes (reader : Reader α) (derives : List CodePoint → α → Prop) : Prop :=
  ∀ cursor value after, reader cursor = .ok value after →
    ∃ text, cursor.rest = text ++ after.rest ∧ derives text value

def TakesBlanks (reader : Reader α) (derives : List CodePoint → α → Prop) : Prop :=
  ∀ cursor value after, reader cursor = .ok value after →
    ∃ text gap, cursor.rest = text ++ (gap ++ after.rest) ∧ derives text value ∧ Blanks gap

/-! ## Words and single code points -/

theorem takes_consume {expected point : CodePoint} {cursor after : Cursor}
    (run : consume (some (.ofPoint expected)) cursor = .ok point after) :
    ∃ gap, Blanks gap ∧ cursor.rest = gap ++ expected :: after.rest := by
  obtain ⟨gap, isBlank, split⟩ := exists_blanks cursor
  exact ⟨gap, isBlank, by rw [split, next_of_consume run]⟩

theorem takes_identifier {name : Text} {cursor after : Cursor}
    (run : identifier cursor = .ok name after) :
    ∃ lead, Blanks lead ∧ IsWord name.points ∧ cursor.rest = lead ++ (name.points ++ after.rest) := by
  obtain ⟨lead, isBlank, split⟩ := exists_blanks cursor
  rw [identifier_run] at run
  split at run
  · cases run
  next nonempty =>
    cases run
    refine ⟨lead, isBlank, ⟨?_, fun point member => List.mem_takeWhile_imp member⟩, ?_⟩
    · simpa using nonempty
    · rw [split, Cursor.rest_advance, drop_length_takeWhile, List.takeWhile_append_dropWhile]

theorem mem_of_lookup {entries : List (Text × ColumnType)} {name : Text} {type : ColumnType}
    (found : entries.lookup name = some type) : (name, type) ∈ entries := by
  obtain ⟨before, later, rfl, _⟩ := List.lookup_eq_some_iff.mp found
  simp

theorem takes_namedType {type : ColumnType} {cursor after : Cursor}
    (run : namedType cursor = .ok type after) :
    ∃ lead name, Blanks lead ∧ (name, type) ∈ namedTypes ∧
      cursor.rest = lead ++ (Text.points name ++ after.rest) := by
  obtain ⟨name, middle, identified, run⟩ := Steps.bind_eq_ok_iff.mp run
  obtain ⟨lead, isBlank, _, split⟩ := takes_identifier identified
  cases found : namedTypes.lookup name with
  | none =>
    simp only [found] at run
    cases run
  | some known =>
    simp only [found] at run
    cases run
    exact ⟨lead, name, isBlank, mem_of_lookup found, split⟩

/-! ## Fields -/

section Fields

variable {readType : Reader ColumnType} {isType : List CodePoint → ColumnType → Prop}

theorem takes_field (typeTakes : Takes readType isType) :
    Takes (field readType) (FieldText isType) := by
  intro cursor entry after run
  obtain ⟨name, afterName, identified, run⟩ := Steps.bind_eq_ok_iff.mp run
  obtain ⟨point, afterColon, consumed, run⟩ := Steps.bind_eq_ok_iff.mp run
  change consume (some (.ofPoint (.char ':'))) afterName = _ at consumed
  obtain ⟨type, afterType, typed, run⟩ := Steps.bind_eq_ok_iff.mp run
  cases run
  obtain ⟨lead, leadBlank, isWord, nameSplit⟩ := takes_identifier identified
  obtain ⟨gap, gapBlank, colonSplit⟩ := takes_consume consumed
  obtain ⟨text, typeSplit, derived⟩ := typeTakes _ _ _ typed
  refine ⟨lead ++ (name.points ++ (gap ++ .char ':' :: text)), ?_,
    .intro leadBlank isWord gapBlank derived⟩
  rw [nameSplit, colonSplit, typeSplit]
  simp

theorem FieldText.length_pos {text : List CodePoint} {entry : Text × ColumnType}
    (field : FieldText isType text entry) : 0 < text.length := by
  cases field
  simp only [List.length_append, List.length_cons]
  omega

/-- There are always enough steps: the induction is on their number, and every step takes a
field and a comma. -/
theorem takes_fieldsFrom (typeTakes : Takes readType isType) {steps : Nat} {cursor after : Cursor}
    {entries : FieldEntries} (enough : cursor.rest.length < steps)
    (run : fieldsFrom readType steps cursor = .ok entries after) :
    ∃ text gap, cursor.rest = text ++ (gap ++ after.rest) ∧ FieldsText isType text entries ∧
      Blanks gap := by
  induction steps generalizing cursor entries with
  | zero => exact absurd enough (Nat.not_lt_zero _)
  | succ steps inSteps =>
    rw [fieldsFrom_succ] at run
    obtain ⟨entry, afterField, fieldRun, run⟩ := Steps.bind_eq_ok_iff.mp run
    obtain ⟨text, fieldSplit, derived⟩ := takes_field typeTakes _ _ _ fieldRun
    rw [Steps.bind_of_ok (peek_run afterField)] at run
    obtain ⟨gap, gapBlank, gapSplit⟩ := exists_blanks afterField
    split at run
    next =>
      obtain ⟨point, afterComma, consumed, run⟩ := Steps.bind_eq_ok_iff.mp run
      obtain ⟨others, afterOthers, othersRun, run⟩ := Steps.bind_eq_ok_iff.mp run
      cases run
      obtain ⟨commaGap, commaBlank, commaSplit⟩ := takes_consume consumed
      have position := derived.length_pos
      have shorter : afterComma.rest.length < steps := by
        have lengths := congrArg List.length fieldSplit
        have gapLengths := congrArg List.length gapSplit
        have commaLengths := congrArg List.length commaSplit
        simp only [List.length_append, List.length_cons] at lengths gapLengths commaLengths
        omega
      obtain ⟨rest, lastGap, restSplit, othersDerived, lastBlank⟩ := inSteps shorter othersRun
      refine ⟨text ++ ((gap ++ commaGap) ++ .char ',' :: rest), lastGap, ?_, ?_, lastBlank⟩
      · rw [fieldSplit, gapSplit, commaSplit, restSplit]
        simp
      · exact .more derived (gapBlank.append commaBlank) othersDerived
    next =>
      cases run
      exact ⟨text, gap, by rw [fieldSplit, gapSplit], .last derived, gapBlank⟩

theorem FieldText.blanks_append {gap text : List CodePoint} {entry : Text × ColumnType}
    (isBlank : Blanks gap) (field : FieldText isType text entry) :
    FieldText isType (gap ++ text) entry := by
  cases field with
  | intro leadBlank isWord gapBlank typed =>
    rw [← List.append_assoc]
    exact .intro (isBlank.append leadBlank) isWord gapBlank typed

theorem FieldsText.blanks_append {gap text : List CodePoint} {entries : FieldEntries}
    (isBlank : Blanks gap) (fields : FieldsText isType text entries) :
    FieldsText isType (gap ++ text) entries := by
  cases fields with
  | last field => exact .last (field.blanks_append isBlank)
  | more field gapBlank others =>
    rw [← List.append_assoc]
    exact .more (field.blanks_append isBlank) gapBlank others

theorem takes_fieldEntries (typeTakes : Takes readType isType) :
    TakesBlanks (fieldEntries readType) (BodyText isType) := by
  intro cursor entries after run
  obtain ⟨gap, gapBlank, gapSplit⟩ := exists_blanks cursor
  rw [fieldEntries_run] at run
  split at run
  · cases run
    exact ⟨[], gap, by simpa using gapSplit, .blank blanks_nil, gapBlank⟩
  · obtain ⟨text, lastGap, split, derived, lastBlank⟩ :=
      takes_fieldsFrom typeTakes (Nat.lt_succ_self _) run
    refine ⟨gap ++ text, lastGap, ?_, .fields (derived.blanks_append gapBlank), lastBlank⟩
    rw [gapSplit, split, List.append_assoc]

/-! ## Types -/

theorem rest_of_isPrefixOf {opening points : List CodePoint}
    (opens : opening.isPrefixOf points = true) : points = opening ++ points.drop opening.length :=
  (List.prefix_iff_eq_append.mp (List.isPrefixOf_iff_prefix.mp opens)).symm

theorem takes_listBody (typeTakes : Takes readType isType) {cursor after : Cursor}
    {type : ColumnType} (run : listBody readType cursor = .ok type after) :
    ∃ text, CoreText isType (listOpening.points ++ text) type ∧
      cursor.rest = text ++ after.rest := by
  obtain ⟨element, afterType, typed, run⟩ := Steps.bind_eq_ok_iff.mp run
  obtain ⟨point, afterBracket, consumed, run⟩ := Steps.bind_eq_ok_iff.mp run
  cases run
  obtain ⟨text, typeSplit, derived⟩ := typeTakes _ _ _ typed
  obtain ⟨gap, gapBlank, gapSplit⟩ := takes_consume consumed
  refine ⟨_, .list derived gapBlank, ?_⟩
  rw [typeSplit, gapSplit]
  simp

theorem takes_structBody (typeTakes : Takes readType isType) {cursor after : Cursor}
    {type : ColumnType} (run : structBody readType cursor = .ok type after) :
    ∃ text, CoreText isType (structOpening.points ++ text) type ∧
      cursor.rest = text ++ after.rest := by
  obtain ⟨entries, afterEntries, entriesRun, run⟩ := Steps.bind_eq_ok_iff.mp run
  obtain ⟨point, afterBrace, consumed, run⟩ := Steps.bind_eq_ok_iff.mp run
  cases run
  obtain ⟨text, gap, entriesSplit, derived, gapBlank⟩ :=
    takes_fieldEntries typeTakes _ _ _ entriesRun
  obtain ⟨lastGap, lastBlank, lastSplit⟩ := takes_consume consumed
  rw [toFields_eq]
  refine ⟨_, .struct derived (gapBlank.append lastBlank), ?_⟩
  rw [entriesSplit, lastSplit]
  simp

theorem takes_core (typeTakes : Takes readType isType) {cursor after : Cursor} {type : ColumnType}
    (run : core readType cursor = .ok type after) :
    ∃ lead text, Blanks lead ∧ CoreText isType text type ∧
      cursor.rest = lead ++ (text ++ after.rest) := by
  obtain ⟨lead, leadBlank, leadSplit⟩ := exists_blanks cursor
  rw [core_run] at run
  split at run
  next opens =>
    obtain ⟨text, derived, bodySplit⟩ := takes_listBody typeTakes run
    refine ⟨lead, _, leadBlank, derived, ?_⟩
    rw [leadSplit, rest_of_isPrefixOf opens, List.append_assoc, ← bodySplit]
    rfl
  next =>
    split at run
    next opens =>
      obtain ⟨text, derived, bodySplit⟩ := takes_structBody typeTakes run
      refine ⟨lead, _, leadBlank, derived, ?_⟩
      rw [leadSplit, rest_of_isPrefixOf opens, List.append_assoc, ← bodySplit]
      rfl
    next =>
      obtain ⟨gap, name, gapBlank, member, nameSplit⟩ := takes_namedType run
      refine ⟨lead ++ gap, _, leadBlank.append gapBlank, .named member, ?_⟩
      rw [leadSplit, nameSplit, List.append_assoc]

end Fields

theorem takes_typeWithin (depth : Nat) : Takes (typeWithin depth) (TypeText depth) := by
  induction depth with
  | zero =>
    intro cursor type after run
    cases run
  | succ depth inDepth =>
    intro cursor type after run
    rw [typeWithin_succ] at run
    obtain ⟨plain, afterCore, coreRun, run⟩ := Steps.bind_eq_ok_iff.mp run
    obtain ⟨lead, text, leadBlank, derived, coreSplit⟩ := takes_core inDepth coreRun
    obtain ⟨gap, gapBlank, gapSplit⟩ := exists_blanks afterCore
    rw [questionMark_run] at run
    split at run
    next marked =>
      cases run
      obtain ⟨rest, next⟩ := List.head?_eq_some_iff.mp marked
      refine ⟨_, ?_, .nullable leadBlank derived gapBlank⟩
      rw [coreSplit, gapSplit, Cursor.rest_advance, next]
      simp
    next =>
      cases run
      refine ⟨_, ?_, .plain leadBlank derived gapBlank⟩
      rw [coreSplit, gapSplit]
      simp

theorem takes_schemaWithin {depth : Nat} {cursor after : Cursor} {frame : Frame}
    (run : schemaWithin depth cursor = .ok frame after) :
    ∃ lead text, Blanks lead ∧ SchemaText depth text frame ∧
      cursor.rest = lead ++ (text ++ after.rest) := by
  obtain ⟨_, afterOpening, opened, run⟩ := Steps.bind_eq_ok_iff.mp run
  obtain ⟨entries, afterEntries, entriesRun, run⟩ := Steps.bind_eq_ok_iff.mp run
  obtain ⟨_, afterClosing, closed, run⟩ := Steps.bind_eq_ok_iff.mp run
  cases run
  obtain ⟨lead, leadBlank, leadSplit⟩ := takes_consume opened
  obtain ⟨text, gap, entriesSplit, derived, gapBlank⟩ :=
    takes_fieldEntries (takes_typeWithin depth) _ _ _ entriesRun
  obtain ⟨lastGap, lastBlank, lastSplit⟩ := takes_consume closed
  refine ⟨lead, _, leadBlank,
    .intro derived (gapBlank.append lastBlank) (toFrame_entries entries), ?_⟩
  rw [leadSplit, entriesSplit, lastSplit]
  simp

end FrameCheck.Schema
