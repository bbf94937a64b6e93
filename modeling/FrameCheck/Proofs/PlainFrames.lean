import FrameCheck.Proofs.Alike
import FrameCheck.Proofs.Calls
import FrameCheck.Proofs.GroupedColumns
import FrameCheck.Proofs.Joins
import FrameCheck.Proofs.SchemaReader

/-!
Plain frames: all columns are named by texts. Schemas declare such frames, and the operations
keep them where labels are texts. Then no label is out of order, and where types can be written,
the one fault that an operation may come to is a whole number, given as a name, that is too long.
-/

namespace FrameCheck

def Literal.IsText (label : Literal) : Prop :=
  ∃ text, label = .text text

instance (label : Literal) : Decidable label.IsText :=
  match label with
  | .text text => isTrue ⟨text, rfl⟩
  | .none | .bool _ | .int _ | .float _ | .imaginary _ | .bytes _ | .ellipsis =>
    isFalse (by rintro ⟨_, ⟨⟩⟩)

instance (label : Literal) : Decidable (label = .none) :=
  match label with
  | .none => isTrue rfl
  | .text _ | .bool _ | .int _ | .float _ | .imaginary _ | .bytes _ | .ellipsis =>
    isFalse Literal.noConfusion

def Frame.Plain (frame : Frame) : Prop :=
  ∀ label ∈ frame.names, label.IsText

instance (frame : Frame) : Decidable frame.Plain :=
  inferInstanceAs (Decidable (∀ label ∈ frame.names, label.IsText))

def Frame.TypesWritable (frame : Frame) : Prop :=
  ∀ label type, frame.column? label = some type → type.isWritable = true

namespace Literal

theorem IsText.isWritable {label : Literal} (isText : label.IsText) : label.isWritable = true := by
  obtain ⟨text, rfl⟩ := isText
  rfl

theorem eq_text_of_beq {label : Literal} {text : Text} (same : (label == .text text) = true) :
    label = .text text := by
  have equal := beq_iff.mp same
  cases label <;> simp_all [value]

theorem sortable_of_texts {labels : List Literal} (texts : ∀ label ∈ labels, label.IsText) :
    sortable labels = true := by
  have classed : ∀ label ∈ labels, label.orderClass? = some .text := by
    intro label member
    obtain ⟨text, rfl⟩ := texts label member
    rfl
  unfold sortable
  split
  · rfl
  · rfl
  · simp_all

end Literal

namespace Frame

theorem hasColumn_congr {left right : Literal} (same : (left == right) = true) (frame : Frame) :
    frame.hasColumn left = frame.hasColumn right :=
  Table.contains_congr same frame.columns

theorem hasColumn_of_mem {frame : Frame} {column : Literal × ColumnType}
    (member : column ∈ frame.columns.entries) : frame.hasColumn column.1 = true := by
  rw [hasColumn, Table.contains_eq, Table.get?_of_mem member]
  rfl

theorem mem_entries_of_column? {frame : Frame} {label : Literal} (isText : label.IsText)
    {type : ColumnType} (found : frame.column? label = some type) :
    (label, type) ∈ frame.columns.entries := by
  obtain ⟨entry, member, same, rfl⟩ := Table.exists_of_get? found
  obtain ⟨text, rfl⟩ := isText
  rw [← Literal.eq_text_of_beq same]
  exact member

theorem Plain.isText_of_column? {frame : Frame} (plain : frame.Plain) {label : Literal}
    {type : ColumnType} (found : frame.column? label = some type) : label.IsText := by
  obtain ⟨entry, member, same, _⟩ := Table.exists_of_get? found
  obtain ⟨text, isText⟩ := plain entry.1 (List.mem_map_of_mem member)
  refine ⟨text, Literal.eq_text_of_beq ?_⟩
  rw [isText] at same
  exact BEq.symm same

end Frame

namespace Analysis

open Syntax Typing

theorem ordered_of_plain {arguments : List (Option Frame)}
    (plain : ∀ argument ∈ arguments, ∀ frame ∈ argument, Frame.Plain frame) :
    ordered arguments = true := by
  simp only [ordered, List.all_eq_true]
  intro argument member
  cases isGiven : argument with
  | none => rfl
  | some frame =>
    exact Literal.sortable_of_texts (plain argument member frame isGiven)

/-! ## Declared frames -/

theorem plain_toFrame (entries : Schema.FieldEntries) : (Schema.toFrame entries).Plain := by
  intro label member
  rcases Table.mem_keys_insertAll member with inEmpty | ⟨entry, inEntries, isKey⟩
  · simp at inEmpty
  · obtain ⟨field, _, rfl⟩ := List.mem_map.mp inEntries
    exact ⟨field.1, isKey⟩

theorem exists_toFrame_of_schema {cursor after : Schema.Cursor} {frame : Frame}
    (read : Schema.schema cursor = .ok frame after) :
    ∃ entries, frame = Schema.toFrame entries := by
  obtain ⟨_, _, _, read⟩ := Steps.bind_eq_ok_iff.mp read
  obtain ⟨entries, _, _, read⟩ := Steps.bind_eq_ok_iff.mp read
  obtain ⟨_, _, _, read⟩ := Steps.bind_eq_ok_iff.mp read
  cases read
  exact ⟨entries, rfl⟩

theorem plain_of_parseSchema {text : Text} {frame : Frame}
    (read : Schema.parseSchema text = .ok frame) : frame.Plain := by
  obtain ⟨after, isSchema, _⟩ := Schema.readAll_eq_ok_iff.mp read
  obtain ⟨entries, rfl⟩ := exists_toFrame_of_schema isSchema
  exact plain_toFrame entries

theorem plain_of_declaredFrame? (hint : Expr) : ∀ frame ∈ declaredFrame? hint, frame.Plain := by
  intro frame declared
  unfold declaredFrame? at declared
  split at declared
  next isHinted =>
    cases declared
    obtain ⟨schema, _, read⟩ := Option.map_eq_some_iff.mp isHinted
    exact plain_of_parseSchema read
  · cases declared

/-! ## Names in expressions -/

def aliasLabel? : Expr → Option Literal
  | .call (.attribute _ "alias") (.literal label :: _) _ => some label
  | _ => none

def joinNames : Expr → List Literal
  | .call (.attribute _ "join") _ keywords =>
    let request := joinRequest keywords
    request.on.toList ++ (request.leftOn.toList ++ request.rightOn.toList)
  | _ => []

def columnNames (expression : Expr) : List Literal :=
  (columnName? expression).toList ++ joinNames expression

/-- The label that an expression gives, if it gives one, is a text or nothing. -/
def LabelsText (expression : Expr) : Prop :=
  ∀ label ∈ aliasLabel? expression, label = .none ∨ label.IsText

instance (expression : Expr) : Decidable (LabelsText expression) :=
  inferInstanceAs (Decidable (∀ label ∈ aliasLabel? expression, label = .none ∨ label.IsText))

def NamesWritable (expression : Expr) : Prop :=
  ∀ name ∈ columnNames expression, name.isWritable = true

/-- An expression that gives only texts for labels. Under the condition it also looks for
columns only by names that can be written. -/
def Admitted (condition : Prop) (expression : Expr) : Prop :=
  LabelsText expression ∧ (condition → NamesWritable expression)

def LongNumberOnly (condition : Prop) (fault : Fault) : Prop :=
  fault = .longNumber ∧ ¬ condition

section Operations

variable {condition : Prop}

/-! ## Joins -/

theorem plain_of_join {left right frame : Frame} {request : JoinRequest}
    (leftPlain : left.Plain) (rightPlain : right.Plain)
    (succeeded : join left right request = .ok frame) : frame.Plain := by
  obtain ⟨keys, rightType, _, rfl⟩ := exists_of_join_ok succeeded
  intro label member
  rcases mem_keys_joinedColumns member with inLeft | inRight | isText
  · exact leftPlain label inLeft
  · exact rightPlain label inRight
  · exact isText

theorem renamesWritable_of_plain {right : Frame} (rightPlain : right.Plain) (left : Frame)
    (keys : JoinKeys) : keys.renamesWritable left right = true := by
  rw [JoinKeys.renamesWritable, List.all_eq_true]
  intro name member
  simp [(rightPlain name member).isWritable]

theorem join_ne_longNumber {left right : Frame} (rightPlain : right.Plain)
    (leftTypes : left.TypesWritable) (rightTypes : right.TypesWritable) {request : JoinRequest}
    (names : ∀ name ∈ request.on.toList ++ (request.leftOn.toList ++ request.rightOn.toList),
      name.isWritable = true) : join left right request ≠ .error .longNumber := by
  have told {error : JoinError} (writable : error.isWritable = true) :
      (.error error.failure : Except (Failure JoinError) Frame) ≠ .error .longNumber := by
    intro isLong
    rw [Failure.of_eq_longNumber_iff.mp (Except.error.inj isLong)] at writable
    cases writable
  rw [join_eq]
  cases isKeys : request.keys? with
  | none => exact told rfl
  | some keys =>
    have leftName := names keys.left (request.mem_names_of_keys? isKeys (.inl rfl))
    have rightName := names keys.right (request.mem_names_of_keys? isKeys (.inr rfl))
    dsimp only
    cases isLeft : left.column? keys.left with
    | none => exact told leftName
    | some leftType =>
      dsimp only
      cases isRight : right.column? keys.right with
      | none => exact told rightName
      | some rightType =>
        dsimp only
        rw [renamesWritable_of_plain rightPlain]
        split
        · exact nofun
        · refine told ?_
          simp [JoinError.isWritable, leftName, rightName, leftTypes _ _ isLeft,
            rightTypes _ _ isRight]

/-! ## Column expressions -/

theorem splitAlias_label {expression : Expr} (labels : LabelsText expression) :
    (splitAlias expression).1 = .none ∨ (splitAlias expression).1.IsText := by
  unfold splitAlias
  split
  next inner label others keywords => exact labels label rfl
  · exact .inl rfl

theorem splitAlias_every {property : Expr → Prop} {expression : Expr}
    (every : expression.Every property) : (splitAlias expression).2.Every property := by
  unfold splitAlias
  split
  · exact every.function.object
  · exact every

theorem writable_of_columnName? {expression : Expr} (admitted : Admitted condition expression)
    {name : Literal} (isName : columnName? expression = some name) (holds : condition) :
    name.isWritable = true :=
  admitted.2 holds name (by simp [columnNames, isName])

def OutputNamed (name : Literal) : Prop :=
  name.isVoid = true ∨ name.IsText

theorem preferredName_named {first second : Literal} (firstNamed : OutputNamed first)
    (secondNamed : OutputNamed second) : OutputNamed (preferredName first second) := by
  unfold preferredName
  split
  · exact secondNamed
  · exact firstNamed

/-- What comes of a column expression over a plain frame: an output with such a name, or a
column that is not found. -/
def OutputAdmitted (condition : Prop) (frame : Frame) :
    Except ColumnNotFound OutputColumn → Prop
  | .ok output => OutputNamed output.name
  | .error error => (condition → error.name.isWritable = true) ∧ error.available = frame.names

theorem plainColumn_admitted {frame : Frame} (plain : frame.Plain) {label : Literal}
    (labelNamed : OutputNamed label) {expression : Expr}
    (admitted : Admitted condition expression) :
    OutputAdmitted condition frame (plainColumn frame label expression) := by
  unfold plainColumn
  split
  next name isName =>
    split
    · exact .inl rfl
    · unfold columnType
      cases found : frame.column? name with
      | none => exact ⟨writable_of_columnName? admitted isName, rfl⟩
      | some type =>
        exact preferredName_named labelNamed (.inr (plain.isText_of_column? found))
  · split
    · split
      · exact labelNamed
      · exact .inl rfl
    · exact .inl rfl

theorem arithmeticColumn_admitted {frame : Frame} {label : Literal}
    (labelNamed : OutputNamed label) {left : Except ColumnNotFound OutputColumn}
    (leftAdmitted : OutputAdmitted condition frame left) :
    OutputAdmitted condition frame (do return arithmeticColumn label (← left)) := by
  cases left with
  | error error => exact leftAdmitted
  | ok output =>
    show OutputNamed (arithmeticColumn label output).name
    unfold arithmeticColumn
    split
    · exact preferredName_named labelNamed leftAdmitted
    · exact .inl rfl

theorem columnUnder_admitted {frame : Frame} (plain : frame.Plain) {label : Literal}
    (labelNamed : OutputNamed label) {expression : Expr}
    (every : expression.Every (Admitted condition)) :
    OutputAdmitted condition frame (columnUnder frame label expression) := by
  fun_induction columnUnder frame label expression with
  | case1 label inner leftLabel others keywords operator right inLeft =>
    have labels : leftLabel = .none ∨ leftLabel.IsText := every.left.self.1 leftLabel rfl
    have leftPlain : OutputNamed leftLabel := labels.imp (fun isNone => by rw [isNone]; rfl) id
    exact arithmeticColumn_admitted labelNamed (inLeft leftPlain every.left.function.object)
  | case2 label left operator right notAlias inLeft =>
    exact arithmeticColumn_admitted labelNamed (inLeft (.inl rfl) every.left)
  | case3 label expression notAlias notBinary =>
    exact plainColumn_admitted plain labelNamed every.self

theorem outputColumn_admitted {frame : Frame} (plain : frame.Plain) {expression : Expr}
    (every : expression.Every (Admitted condition)) :
    OutputAdmitted condition frame (outputColumn frame expression) := by
  refine columnUnder_admitted plain ?_ (splitAlias_every every)
  exact (splitAlias_label every.self.1).imp (fun isNone => by rw [isNone]; rfl) id

theorem outputColumns_admitted {frame : Frame} (plain : frame.Plain) {arguments : List Expr}
    (every : ∀ argument ∈ arguments, argument.Every (Admitted condition)) :
    (∀ column ∈ (outputColumns frame arguments).1, column.1.IsText) ∧
    ∀ error ∈ (outputColumns frame arguments).2,
      (condition → error.name.isWritable = true) ∧ error.available = frame.names := by
  induction arguments with
  | nil => simp [outputColumns]
  | cons first rest inRest =>
    have restAdmitted := inRest fun argument member =>
      every argument (List.mem_cons_of_mem _ member)
    have firstAdmitted := outputColumn_admitted plain (every first List.mem_cons_self)
    unfold outputColumns
    simp only
    split
    next error failed =>
      rw [failed] at firstAdmitted
      refine ⟨restAdmitted.1, fun other member => ?_⟩
      rcases List.mem_cons.mp member with rfl | later
      · exact firstAdmitted
      · exact restAdmitted.2 other later
    next name type succeeded =>
      rw [succeeded] at firstAdmitted
      split
      · exact restAdmitted
      next notVoid =>
        refine ⟨fun column member => ?_, restAdmitted.2⟩
        rcases List.mem_cons.mp member with rfl | later
        · exact firstAdmitted.resolve_left notVoid
        · exact restAdmitted.1 column later
    · exact restAdmitted

theorem unknownColumns_writable {frame : Frame} (plain : frame.Plain) {arguments : List Expr}
    (every : ∀ argument ∈ arguments, argument.Every (Admitted condition)) (holds : condition) :
    ((outputColumns frame arguments).2.map Problem.unknownColumn).all Problem.isWritable =
      true := by
  rw [List.all_eq_true]
  intro problem member
  obtain ⟨error, isMissing, rfl⟩ := List.mem_map.mp member
  obtain ⟨nameWritable, available⟩ := (outputColumns_admitted plain every).2 error isMissing
  rw [Problem.isWritable, ColumnNotFound.isWritable, nameWritable holds, available, Bool.true_and,
    List.all_eq_true]
  exact fun label inFrame => (plain label inFrame).isWritable

theorem plain_insertAll {columns : Columns} (columnsNamed : ∀ label ∈ columns.keys, label.IsText)
    {entries : List (Literal × ColumnType)} (entriesNamed : ∀ entry ∈ entries, entry.1.IsText) :
    Frame.Plain { columns := columns.insertAll entries } := by
  intro label member
  rcases Table.mem_keys_insertAll member with before | ⟨entry, isEntry, rfl⟩
  · exact columnsNamed label before
  · exact entriesNamed entry isEntry

theorem longNumberOnly_of_unknownColumns {frame : Frame} (plain : frame.Plain)
    {arguments : List Expr}
    (every : ∀ argument ∈ arguments, argument.Every (Admitted condition))
    (unwritable : ((outputColumns frame arguments).2.map Problem.unknownColumn).all
      Problem.isWritable = false) : LongNumberOnly condition .longNumber := by
  refine ⟨rfl, fun holds => ?_⟩
  rw [unknownColumns_writable plain every holds] at unwritable
  cases unwritable

/-! ## Grouped aggregation -/

theorem aggregationColumn?_admitted {expression : Expr} {item : AggregationColumn}
    (every : expression.Every (Admitted condition))
    (asked : aggregationColumn? expression = some item) :
    (condition → item.column.isWritable = true) ∧ ∀ label ∈ item.label, label.IsText := by
  have labelNamed := splitAlias_label every.self.1
  have innerEvery := splitAlias_every every
  unfold aggregationColumn? at asked
  split at asked
  next label column method arguments keywords isSplit =>
    rw [isSplit] at labelNamed innerEvery
    simp only [Option.bind_eq_bind, Option.bind_eq_some_iff] at asked
    obtain ⟨aggregation, _, name, isName, asked⟩ := asked
    split at asked
    · cases asked
    · cases asked
      refine ⟨writable_of_columnName? innerEvery.function.object.self isName, ?_⟩
      intro given isGiven
      split at isGiven
      · cases isGiven
      next notNone =>
        cases isGiven
        exact labelNamed.resolve_left notNone
  · cases asked

theorem addKey_named {frame : Frame} {columns result : Columns} {key : Literal}
    (columnsNamed : ∀ label ∈ columns.keys, label.IsText) (keyText : key.IsText)
    (added : addKey frame columns key = .ok result) : ∀ label ∈ result.keys, label.IsText := by
  unfold addKey at added
  split at added
  · cases added
    intro label member
    rcases Table.mem_keys_insert member with before | rfl
    · exact columnsNamed label before
    · exact keyText
  · cases added

theorem addAggregation_named {frame : Frame} (plain : frame.Plain) {columns result : Columns}
    {item : AggregationColumn} (columnsNamed : ∀ label ∈ columns.keys, label.IsText)
    (labelText : ∀ label ∈ item.label, label.IsText)
    (added : addAggregation frame columns item = .ok result) :
    ∀ label ∈ result.keys, label.IsText := by
  unfold addAggregation at added
  split at added
  next type found =>
    cases computed : item.aggregation.resultType type with
    | error error => simp [computed, bind, Except.bind] at added
    | ok resultType =>
      simp only [computed, bind, Except.bind, pure, Except.pure, Except.ok.injEq] at added
      subst added
      intro label member
      rcases Table.mem_keys_insert member with before | rfl
      · exact columnsNamed label before
      · unfold AggregationColumn.outputName
        cases isLabel : item.label with
        | none => exact plain.isText_of_column? found
        | some label => exact labelText label isLabel
  · cases added

theorem foldlM_keeps {ε α β : Type} {step : β → α → Except ε β} {holds : β → Prop}
    {items : List α} (keeps : ∀ item ∈ items, ∀ before after, holds before →
      step before item = .ok after → holds after)
    {start result : β} (startHolds : holds start) (folded : items.foldlM step start = .ok result) :
    holds result := by
  induction items generalizing start with
  | nil =>
    cases folded
    exact startHolds
  | cons first rest inRest =>
    rw [List.foldlM_cons] at folded
    cases stepped : step start first with
    | error error => simp [stepped, bind, Except.bind] at folded
    | ok after =>
      rw [stepped] at folded
      refine inRest (fun item member => keeps item (List.mem_cons_of_mem _ member)) ?_ folded
      exact keeps first List.mem_cons_self start after startHolds stepped

theorem plain_of_aggregate {frame result : Frame} (plain : frame.Plain) {keys : List Literal}
    {items : List AggregationColumn} (keysText : ∀ key ∈ keys, key.IsText)
    (labelsText : ∀ item ∈ items, ∀ label ∈ item.label, label.IsText)
    (succeeded : aggregate frame keys items = .ok result) : result.Plain := by
  unfold aggregate at succeeded
  cases keysAdded : keys.foldlM (addKey frame) .empty with
  | error error => simp [keysAdded, bind, Except.bind] at succeeded
  | ok keyColumns =>
    have keysNamed : ∀ label ∈ keyColumns.keys, label.IsText :=
      foldlM_keeps
        (fun key member _ _ before added => addKey_named before (keysText key member) added)
        (by simp) keysAdded
    cases itemsAdded : items.foldlM (addAggregation frame) keyColumns with
    | error error => simp [keysAdded, itemsAdded, bind, Except.bind] at succeeded
    | ok columns =>
      simp only [keysAdded, itemsAdded, bind, Except.bind, pure, Except.pure,
        Except.ok.injEq] at succeeded
      subst succeeded
      exact foldlM_keeps (fun item member _ _ before added =>
        addAggregation_named plain before (labelsText item member) added) keysNamed itemsAdded

theorem aggregate_ne_longNumber {frame : Frame} (types : frame.TypesWritable)
    {keys : List Literal} {items : List AggregationColumn}
    (keysWritable : ∀ key ∈ keys, key.isWritable = true)
    (columnsWritable : ∀ item ∈ items, item.column.isWritable = true) :
    aggregate frame keys items ≠ .error .longNumber := by
  rw [ne_eq, aggregate_eq_longNumber_iff]
  rintro ⟨error, ⟨before, offender, after, split, _, unmet⟩, unwritable⟩
  have isRequest : offender ∈ groupingRequests keys items := by simp [split]
  suffices writable : error.isWritable = true by
    rw [writable] at unwritable
    cases unwritable
  cases unmet with
  | keyMissing name _ => exact keysWritable name (key_mem_groupingRequests.mp isRequest)
  | columnMissing item _ =>
    exact columnsWritable item (aggregation_mem_groupingRequests.mp isRequest)
  | notNumeric item type found => exact types item.column type found
  | unknown => rfl

theorem groupKeys_text {arguments : List Expr} : ∀ key ∈ groupKeys arguments, key.IsText := by
  intro key member
  obtain ⟨argument, _, isKey⟩ := List.mem_filterMap.mp member
  split at isKey
  · cases isKey
    exact ⟨_, rfl⟩
  · cases isKey

theorem aggregationColumns_admitted {items : List Expr}
    (every : ∀ item ∈ items, item.Every (Admitted condition)) :
    ∀ item ∈ items.filterMap aggregationColumn?,
      (condition → item.column.isWritable = true) ∧ ∀ label ∈ item.label, label.IsText := by
  intro item member
  obtain ⟨expression, isItem, isAsked⟩ := List.mem_filterMap.mp member
  exact aggregationColumn?_admitted (every expression isItem) isAsked

theorem operations_keep_plain : OperationsKeep AnyFault Frame.Plain (Admitted condition) where
  join _ _ _ leftPlain rightPlain walk :=
    attempt_noted (fun _ => trivial) (fun _ => plain_of_join leftPlain rightPlain) walk
  aggregate every _ plain walk :=
    have asked := aggregationColumns_admitted fun _ member => every.argument member
    attempt_noted (fun _ => trivial)
      (fun _ => plain_of_aggregate plain groupKeys_text fun item member => (asked item member).2)
      walk
  select every _ plain walk :=
    selectCall_noted (fun _ => trivial)
      (plain_insertAll (by simp) (outputColumns_admitted plain fun _ => every.argument).1) walk
  withColumns every _ plain walk :=
    withColumnsCall_noted (fun _ => trivial)
      (plain_insertAll plain (outputColumns_admitted plain fun _ => every.argument).1) walk

end Operations

end Analysis

end FrameCheck
