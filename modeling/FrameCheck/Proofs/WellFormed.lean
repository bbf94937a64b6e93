import FrameCheck.Proofs.Expressible
import FrameCheck.Proofs.SchemaSoundness
import FrameCheck.Proofs.Scripts

/-!
Well-formed frames: no type allows nulls twice, there are no decimals and no time zones, the type
of nulls stands in no struct, and there is no variable for further columns. Schemas declare such
frames, and every frame operation keeps them. So a single look under `nullable` always comes to
the end of nullability.
-/

namespace FrameCheck

open Schema

/-! ## Types -/

mutual

/-- Whether a type is well-formed. The type of nulls may be that of a column or stand under
`nullable` and `list`, but it is nowhere inside a struct. -/
def ColumnType.isWellFormed (inStruct : Bool) : ColumnType → Bool
  | .scalar kind => kind != .null || !inStruct
  | .datetime zone => zone.isNone
  | .decimal _ _ => false
  | .nullable inner => !inner.isNullable && inner.isWellFormed inStruct
  | .list element => element.isWellFormed inStruct
  | .struct fields => fields.isWellFormed

def Fields.isWellFormed : Fields → Bool
  | .nil => true
  | .cons _ type rest => type.isWellFormed true && rest.isWellFormed

end

abbrev ColumnType.WellFormed (type : ColumnType) : Prop :=
  type.isWellFormed false = true

theorem Fields.isWellFormed_iff : ∀ {fields : Fields}, fields.isWellFormed = true ↔
    ∀ entry ∈ fields.toList, entry.2.isWellFormed true = true
  | .nil => by simp [isWellFormed, toList]
  | .cons name type rest => by
    rw [isWellFormed, toList, List.forall_mem_cons, Bool.and_eq_true]
    exact and_congr_right' isWellFormed_iff

/-- What a schema text can express is well-formed, also inside a struct. -/
theorem ColumnType.isWellFormed_of_isExpressible (type : ColumnType) (inStruct : Bool)
    (expressible : type.isExpressible = true) : type.isWellFormed inStruct = true := by
  induction type using fieldInduction generalizing inStruct with
  | scalar kind =>
    rw [isExpressible] at expressible
    simp [isWellFormed, expressible]
  | datetime zone => exact expressible
  | decimal precision scale => cases expressible
  | nullable inner inInner =>
    rw [isExpressible, Bool.and_eq_true] at expressible
    rw [isWellFormed, expressible.1, inInner inStruct expressible.2]
    rfl
  | list element inElement =>
    rw [isExpressible] at expressible
    rw [isWellFormed, inElement inStruct expressible]
  | struct fields inFields =>
    rw [isExpressible, Fields.isExpressible_iff] at expressible
    rw [isWellFormed, Fields.isWellFormed_iff]
    exact fun entry member => inFields entry member true (expressible.2 entry member).2

/-- Only decimals hold numbers. -/
theorem ColumnType.isWritable_of_isWellFormed (type : ColumnType) (inStruct : Bool)
    (wellFormed : type.isWellFormed inStruct = true) : type.isWritable = true := by
  induction type using fieldInduction generalizing inStruct with
  | scalar kind => rfl
  | datetime zone => rfl
  | decimal precision scale => cases wellFormed
  | nullable inner inInner =>
    rw [isWellFormed, Bool.and_eq_true] at wellFormed
    exact inInner inStruct wellFormed.2
  | list element inElement => exact inElement inStruct wellFormed
  | struct fields inFields =>
    rw [isWellFormed, Fields.isWellFormed_iff] at wellFormed
    rw [isWritable, Fields.areWritable_iff]
    exact fun entry member => inFields entry member true (wellFormed entry member)

theorem ColumnType.WellFormed.makeNullable {type : ColumnType} (wellFormed : type.WellFormed) :
    type.makeNullable.WellFormed := by
  cases type <;> exact wellFormed

theorem ColumnType.WellFormed.list {type : ColumnType} (wellFormed : type.WellFormed) :
    (ColumnType.list type).WellFormed := by
  rw [WellFormed, isWellFormed]
  exact wellFormed

/-! ## Frames -/

structure Frame.WellFormed (frame : Frame) : Prop where
  types : ∀ label type, frame.column? label = some type → type.WellFormed
  closed : frame.rest = none

/-- Columns are named by texts, and their types are such as schemas declare. -/
def Frame.Regular (frame : Frame) : Prop :=
  frame.Plain ∧ frame.WellFormed

theorem Frame.WellFormed.typesWritable {frame : Frame} (wellFormed : frame.WellFormed) :
    frame.TypesWritable :=
  fun label type found => type.isWritable_of_isWellFormed false (wellFormed.types label type found)

def Columns.WellFormed (columns : Columns) : Prop :=
  ∀ label type, columns.get? label = some type → type.WellFormed

namespace Columns.WellFormed

theorem empty : Columns.WellFormed .empty := fun _ _ found => by simp at found

theorem insert {columns : Columns} (wellFormed : Columns.WellFormed columns) (label : Literal)
    {type : ColumnType} (typeWellFormed : type.WellFormed) :
    Columns.WellFormed (columns.insert label type) := by
  intro other otherType found
  rw [Table.get?_insert] at found
  split at found
  · cases found
    exact typeWellFormed
  · exact wellFormed other otherType found

theorem insertAll {columns : Columns} (wellFormed : Columns.WellFormed columns)
    {entries : List (Literal × ColumnType)} (entriesWellFormed : ∀ entry ∈ entries,
      entry.2.WellFormed) : Columns.WellFormed (columns.insertAll entries) := by
  intro label type found
  rcases Table.get?_insertAll found with before | ⟨entry, member, rfl⟩
  · exact wellFormed label type before
  · exact entriesWellFormed entry member

theorem mem {columns : Columns} (wellFormed : Columns.WellFormed columns)
    {entry : Literal × ColumnType} (member : entry ∈ columns.entries) : entry.2.WellFormed :=
  wellFormed entry.1 entry.2 (Table.get?_of_mem member)

theorem mapValues {columns : Columns} (wellFormed : Columns.WellFormed columns)
    {transform : Literal → ColumnType → ColumnType}
    (keeps : ∀ label type, type.WellFormed → (transform label type).WellFormed) :
    Columns.WellFormed (columns.mapValues transform) := by
  intro label type found
  obtain ⟨entry, member, _, rfl⟩ := Table.exists_of_get? found
  obtain ⟨column, isColumn, rfl⟩ := List.mem_map.mp member
  exact keeps _ _ (wellFormed.mem isColumn)

end Columns.WellFormed

/-! ## Schemas -/

theorem Schema.SchemaText.wellFormed {depth : Nat} {text : List CodePoint} {frame : Frame}
    (derived : SchemaText depth text frame) : frame.WellFormed := by
  cases derived with
  | @intro text gap entries columns body gapBlank named =>
    refine ⟨fun label type found => ?_, rfl⟩
    obtain ⟨column, member, _, rfl⟩ := Table.exists_of_get? found
    rw [named] at member
    obtain ⟨entry, isEntry, rfl⟩ := List.mem_map.mp member
    have expressible := body.expressible (fun _ _ typed => typed.expressible) entry
      (mem_of_mem_resolved isEntry)
    exact entry.2.isWellFormed_of_isExpressible false expressible.2.expressible

theorem Schema.wellFormed_of_parseSchema {text : Text} {frame : Frame}
    (read : parseSchema text = .ok frame) : frame.WellFormed := by
  obtain ⟨after, isSchema, _⟩ := readAll_eq_ok_iff.mp read
  have within : schemaWithin nestingLimit _ = .ok frame after := isSchema
  obtain ⟨_, _, _, derived, _⟩ := takes_schemaWithin within
  exact derived.wellFormed

namespace Typing

/-! ## Joins -/

theorem nullableWhen_wellFormed (condition : Bool) {type : ColumnType}
    (wellFormed : type.WellFormed) : (nullableWhen condition type).WellFormed := by
  unfold nullableWhen
  split
  · exact wellFormed.makeNullable
  · exact wellFormed

theorem leftColumnType_wellFormed {keys : JoinKeys} {kind : JoinKind} {rightType : ColumnType}
    (rightWellFormed : rightType.WellFormed) (label : Literal) (type : ColumnType)
    (wellFormed : type.WellFormed) :
    (leftColumnType keys kind rightType label type).WellFormed := by
  unfold leftColumnType
  split
  · split
    · exact wellFormed.makeNullable
    · exact rightWellFormed
    · exact wellFormed
    · exact wellFormed
  · exact nullableWhen_wellFormed _ wellFormed

theorem addRightColumn_wellFormed {keys : JoinKeys} {kind : JoinKind} {columns : Columns}
    {column : Literal × ColumnType} (wellFormed : Columns.WellFormed columns)
    (columnWellFormed : column.2.WellFormed) :
    Columns.WellFormed (addRightColumn keys kind columns column) := by
  unfold addRightColumn
  split
  · exact wellFormed
  · exact wellFormed.insert _ (nullableWhen_wellFormed _ columnWellFormed)

theorem joinedColumns_wellFormed {keys : JoinKeys} {kind : JoinKind} {rightType : ColumnType}
    {left right : Frame} (leftWellFormed : left.WellFormed) (rightWellFormed : right.WellFormed)
    (typeWellFormed : rightType.WellFormed) :
    Columns.WellFormed (joinedColumns keys kind rightType left right) := by
  have general : ∀ (entries : List (Literal × ColumnType)) (columns : Columns),
      (∀ entry ∈ entries, entry.2.WellFormed) → Columns.WellFormed columns →
      Columns.WellFormed (entries.foldl (addRightColumn keys kind) columns) := by
    intro entries
    induction entries with
    | nil => exact fun _ _ wellFormed => wellFormed
    | cons entry rest inRest =>
      intro columns entriesWellFormed wellFormed
      obtain ⟨entryWellFormed, restWellFormed⟩ := List.forall_mem_cons.mp entriesWellFormed
      exact inRest _ restWellFormed (addRightColumn_wellFormed wellFormed entryWellFormed)
  refine general _ _ (fun entry member => rightWellFormed.types _ _ (Table.get?_of_mem member)) ?_
  exact Columns.WellFormed.mapValues leftWellFormed.types (leftColumnType_wellFormed typeWellFormed)

theorem wellFormed_of_join {left right frame : Frame} {request : JoinRequest}
    (leftWellFormed : left.WellFormed) (rightWellFormed : right.WellFormed)
    (succeeded : join left right request = .ok frame) : frame.WellFormed := by
  obtain ⟨keys, _, rightType, _, _, inRight, _, _, rfl⟩ := join_eq_ok_iff.mp succeeded
  have typeWellFormed := rightWellFormed.types _ _ inRight
  exact ⟨joinedColumns_wellFormed leftWellFormed rightWellFormed typeWellFormed, rfl⟩

/-! ## Grouped aggregation -/

theorem resultType_wellFormed {aggregation : Aggregation} {type result : ColumnType}
    (wellFormed : type.WellFormed) (computed : aggregation.resultType type = .ok result) :
    result.WellFormed := by
  cases aggregation with
  | sum =>
    simp only [Aggregation.resultType] at computed
    split at computed
    · cases computed
      exact wellFormed
    · cases computed
  | mean =>
    simp only [Aggregation.resultType] at computed
    split at computed
    · cases computed
      cases type.isNullable <;> rfl
    · cases computed
  | count | nUnique =>
    cases computed
    rfl
  | list =>
    cases computed
    exact wellFormed.list
  | first | last | min | max =>
    cases computed
    exact wellFormed
  | unknown name => cases computed

theorem addKey_wellFormed {frame : Frame} (frameWellFormed : frame.WellFormed)
    {columns result : Columns} {key : Literal} (wellFormed : Columns.WellFormed columns)
    (added : addKey frame columns key = .ok result) : Columns.WellFormed result := by
  unfold addKey at added
  split at added
  next type found =>
    cases added
    exact wellFormed.insert key (frameWellFormed.types key type found)
  · cases added

theorem addAggregation_wellFormed {frame : Frame} (frameWellFormed : frame.WellFormed)
    {columns result : Columns} {item : AggregationColumn} (wellFormed : Columns.WellFormed columns)
    (added : addAggregation frame columns item = .ok result) : Columns.WellFormed result := by
  unfold addAggregation at added
  split at added
  next type found =>
    obtain ⟨resultType, computed, added⟩ := Steps.exists_of_bind_ok added
    cases added
    have typeWellFormed := frameWellFormed.types item.column type found
    exact wellFormed.insert _ (resultType_wellFormed typeWellFormed computed)
  · cases added

theorem wellFormed_of_aggregate {frame result : Frame} (frameWellFormed : frame.WellFormed)
    {keys : List Literal} {items : List AggregationColumn}
    (succeeded : aggregate frame keys items = .ok result) : result.WellFormed := by
  obtain ⟨keyColumns, keysAdded, succeeded⟩ := Steps.exists_of_bind_ok succeeded
  obtain ⟨columns, itemsAdded, succeeded⟩ := Steps.exists_of_bind_ok succeeded
  cases succeeded
  have keysWellFormed : Columns.WellFormed keyColumns :=
    Analysis.foldlM_keeps
      (fun _ _ _ _ before added => addKey_wellFormed frameWellFormed before added) .empty keysAdded
  refine ⟨?_, rfl⟩
  exact Analysis.foldlM_keeps
    (fun _ _ _ _ before added => addAggregation_wellFormed frameWellFormed before added)
    keysWellFormed itemsAdded

end Typing

namespace Analysis

open Syntax Typing

theorem wellFormed_of_declaredFrame? (hint : Expr) :
    ∀ frame ∈ declaredFrame? hint, frame.WellFormed := by
  intro frame declared
  unfold declaredFrame? at declared
  split at declared
  next isHinted =>
    cases declared
    obtain ⟨schema, _, read⟩ := Option.map_eq_some_iff.mp isHinted
    exact Schema.wellFormed_of_parseSchema read
  · cases declared

/-! ## Column expressions -/

def OutputColumn.WellFormed (output : OutputColumn) : Prop :=
  ∀ type ∈ output.type, type.WellFormed

theorem literalType_wellFormed {kind : LiteralKind} {type : ColumnType}
    (isType : literalType kind = .ok type) : type.WellFormed := by
  cases kind <;> cases isType <;> rfl

theorem plainColumn_wellFormed {frame : Frame} (wellFormed : frame.WellFormed) {label : Literal}
    {expression : Expr} {output : OutputColumn}
    (succeeded : plainColumn frame label expression = .ok output) : output.WellFormed := by
  unfold plainColumn at succeeded
  split at succeeded
  next name isName =>
    split at succeeded
    · cases succeeded
      exact nofun
    · obtain ⟨type, isType, succeeded⟩ := Steps.exists_of_bind_ok succeeded
      cases succeeded
      unfold columnType at isType
      split at isType
      next other found =>
        cases isType
        simpa [OutputColumn.WellFormed] using wellFormed.types name type found
      · cases isType
  · split at succeeded
    · split at succeeded
      next type isType =>
        cases succeeded
        simpa [OutputColumn.WellFormed] using literalType_wellFormed isType
      · cases succeeded
        exact nofun
    · cases succeeded
      exact nofun

theorem arithmeticColumn_wellFormed {label : Literal} {left : OutputColumn}
    (wellFormed : left.WellFormed) : (arithmeticColumn label left).WellFormed := by
  unfold arithmeticColumn
  split
  next type isType => simpa [OutputColumn.WellFormed] using wellFormed type isType
  · exact nofun

theorem columnUnder_wellFormed {frame : Frame} (wellFormed : frame.WellFormed) {label : Literal}
    {expression : Expr} {output : OutputColumn}
    (succeeded : columnUnder frame label expression = .ok output) : output.WellFormed := by
  fun_induction columnUnder frame label expression generalizing output with
  | case1 label inner leftLabel others keywords operator right inLeft =>
    obtain ⟨column, left, succeeded⟩ := Steps.exists_of_bind_ok succeeded
    cases succeeded
    exact arithmeticColumn_wellFormed (inLeft left)
  | case2 label left operator right notAlias inLeft =>
    obtain ⟨column, leftColumn, succeeded⟩ := Steps.exists_of_bind_ok succeeded
    cases succeeded
    exact arithmeticColumn_wellFormed (inLeft leftColumn)
  | case3 label expression notAlias notBinary => exact plainColumn_wellFormed wellFormed succeeded

theorem outputColumns_wellFormed {frame : Frame} (wellFormed : frame.WellFormed)
    (arguments : List Expr) :
    ∀ column ∈ (outputColumns frame arguments).1, column.2.WellFormed := by
  induction arguments with
  | nil => simp [outputColumns]
  | cons first rest inRest =>
    unfold outputColumns
    simp only
    split
    · exact inRest
    next name type succeeded =>
      split
      · exact inRest
      · refine List.forall_mem_cons.mpr ⟨?_, inRest⟩
        exact columnUnder_wellFormed wellFormed succeeded type rfl
    · exact inRest

/-! ## Frame operations -/

theorem operations_keep_wellFormed :
    OperationsKeep AnyFault Frame.WellFormed fun _ => True where
  join _ _ _ leftWellFormed rightWellFormed walk :=
    attempt_noted (fun _ => trivial)
      (fun _ => wellFormed_of_join leftWellFormed rightWellFormed) walk
  aggregate _ _ wellFormed walk :=
    attempt_noted (fun _ => trivial) (fun _ => wellFormed_of_aggregate wellFormed) walk
  select _ _ wellFormed walk :=
    selectCall_noted (fun _ => trivial)
      ⟨Columns.WellFormed.empty.insertAll (outputColumns_wellFormed wellFormed _), rfl⟩ walk
  withColumns _ _ wellFormed walk :=
    withColumnsCall_noted (fun _ => trivial)
      ⟨Columns.WellFormed.insertAll wellFormed.types (outputColumns_wellFormed wellFormed _), rfl⟩
      walk

/-! ## Regular frames -/

theorem regular_of_declaredFrame? (hint : Expr) :
    ∀ frame ∈ declaredFrame? hint, frame.Regular :=
  fun frame isDeclared => ⟨plain_of_declaredFrame? hint frame isDeclared,
    wellFormed_of_declaredFrame? hint frame isDeclared⟩

/-- Types of regular frames can be written, so that only a name that is asked for can be too
long. -/
theorem operations_keep_regular {condition : Prop} :
    OperationsKeep (LongNumberOnly condition) Frame.Regular (Admitted condition) where
  join every _ _ left right walk :=
    attempt_noted
      (fun isLong => ⟨rfl, fun holds => join_ne_longNumber right.1 left.2.typesWritable
        right.2.typesWritable (fun name member =>
          every.self.2 holds name (by simp [columnNames, joinNames, member])) isLong⟩)
      (fun _ joined => ⟨plain_of_join left.1 right.1 joined,
        wellFormed_of_join left.2 right.2 joined⟩) walk
  aggregate every _ regular walk :=
    have asked := aggregationColumns_admitted fun _ member => every.argument member
    attempt_noted
      (fun isLong => ⟨rfl, fun holds => aggregate_ne_longNumber regular.2.typesWritable
        (fun key isKey => (groupKeys_text key isKey).isWritable)
        (fun item member => (asked item member).1 holds) isLong⟩)
      (fun _ done => ⟨plain_of_aggregate regular.1 groupKeys_text
        (fun item member => (asked item member).2) done, wellFormed_of_aggregate regular.2 done⟩)
      walk
  select every _ regular walk :=
    selectCall_noted (longNumberOnly_of_unknownColumns regular.1 fun _ => every.argument)
      ⟨plain_insertAll (by simp) (outputColumns_admitted regular.1 fun _ => every.argument).1,
        Columns.WellFormed.empty.insertAll (outputColumns_wellFormed regular.2 _), rfl⟩ walk
  withColumns every _ regular walk :=
    withColumnsCall_noted (longNumberOnly_of_unknownColumns regular.1 fun _ => every.argument)
      ⟨plain_insertAll regular.1 (outputColumns_admitted regular.1 fun _ => every.argument).1,
        Columns.WellFormed.insertAll regular.2.types (outputColumns_wellFormed regular.2 _), rfl⟩
      walk

/-! ## Calls -/

abbrev ArgumentsWellFormed (arguments : List (Option Frame)) : Prop :=
  ∀ argument ∈ arguments, ∀ frame ∈ argument, Frame.WellFormed frame

theorem callsWith_answer_wellFormed {registry : Registry} {memory : Memo → Prop} {lookUp : Recall}
    (returns : registry.ReturnsHold Frame.WellFormed)
    (recalls : ∀ memo name arguments frame, memory memo →
      lookUp memo name arguments = some frame → frame.WellFormed)
    (remembers : ∀ memo name arguments frame, ArgumentsWellFormed arguments → memory memo →
      frame.WellFormed → memory (memo.remember name arguments frame))
    (depth : Nat) (expression : Expr) :
    Answered AnyFault Frame.WellFormed memory (fun _ => True) registry
      (callsWith lookUp registry depth) expression := by
  refine ⟨trivial, fun _ _ _ untyped => ?_⟩
  exact callsWith_keeps operations_keep_wellFormed returns wellFormed_of_declaredFrame?
    (fun _ _ => .inr trivial) recalls (Registry.remembers_of_memory remembers)
    (fun _ _ _ _ _ => trivial) (Registry.budget_of_allowed trivial) depth untyped trivial

/-! ## Scripts -/

theorem returns_wellFormed (statements : List Stmt) :
    (registryOf statements).ReturnsHold Frame.WellFormed :=
  (sound_registryOf statements).returnsHold wellFormed_of_declaredFrame?

theorem analysisStart_wellFormed {memory : Memo → Prop} (definition : FunctionDefinition)
    {memo : Memo} (memoHolds : memory memo) :
    (analysisStart definition memo).Holds Frame.WellFormed memory :=
  analysisStart_holds wellFormed_of_declaredFrame? definition memoHolds

section Regular

variable {statements : List Stmt} {condition : Prop} {memory : Memo → Prop}
  (admitted : ∀ part ∈ blockParts statements, Admitted condition part)

include admitted

theorem regularCalls_keep {lookUp : Recall} (acyclic : (registryOf statements).Acyclic)
    (recalls : ∀ memo name arguments frame, memory memo →
      lookUp memo name arguments = some frame → frame.Regular)
    (remembers : ∀ memo name arguments frame, memory memo → frame.Regular →
      memory (memo.remember name arguments frame))
    {name : Text} {info : FunctionInfo} (untyped : (registryOf statements).Untyped name info) :
    HelperKeeps (LongNumberOnly condition) Frame.Regular memory
      (callsWith lookUp (registryOf statements) (callLimit (registryOf statements))) info :=
  scriptCalls_keep operations_keep_regular regular_of_declaredFrame? admitted
    (fun _ regular => regular.1) recalls
    (Registry.remembers_of_memory fun memo name arguments frame _ =>
      remembers memo name arguments frame)
    acyclic.budget untyped (rank_lt_callLimit acyclic untyped)

theorem regularBody_yields {helper : HelperCall} {definition : FunctionDefinition}
    (defined : definition ∈ functionsOf statements)
    (helps : ∀ name info, (registryOf statements).Untyped name info →
      HelperKeeps (LongNumberOnly condition) Frame.Regular memory helper info)
    {memo : Memo} (memoHolds : memory memo) :
    Walker.Yields (LongNumberOnly condition)
      (walkBlock (registryOf statements) helper definition.body) (analysisStart definition memo)
      fun _ after => after.Holds Frame.Regular memory :=
  block_keeps operations_keep_regular regular_of_declaredFrame? admitted defined helps
    (analysisStart_holds regular_of_declaredFrame? definition memoHolds)

end Regular

end Analysis

end FrameCheck
