import FrameCheck.Proofs.JoinOrder
import FrameCheck.Proofs.Serving
import FrameCheck.Proofs.Steps

/-!
Frame operations on a frame that serves for another one: it has further columns, and some of its
columns hold no nulls where the other one allows them. Operations on it succeed where they succeed
on the other frame, and what they come to serves for the other result, up to two exceptions. Lists
of values without nulls do not serve for lists of values with them; and a further column may take
the name of a column of a join.
-/

namespace FrameCheck

/-! ## Results -/

def ResultsServe {ε : Type u} {α : Type v} (related : α → α → Prop) (left right : Except ε α) :
    Prop :=
  ∀ rightValue, right = .ok rightValue → ∃ leftValue, left = .ok leftValue ∧
    related leftValue rightValue

namespace ResultsServe

variable {ε : Type u} {α β : Type v} {related : α → α → Prop}

theorem ok {left right : α} (values : related left right) :
    ResultsServe related (.ok left : Except ε α) (.ok right) := by
  intro _ isRight
  cases isRight
  exact ⟨left, rfl, values⟩

theorem error {left : Except ε α} {failure : ε} : ResultsServe related left (.error failure) :=
  fun _ isRight => nomatch isRight

theorem bind {outcome : β → β → Prop} {left right : Except ε α}
    {leftNext rightNext : α → Except ε β} (first : ResultsServe related left right)
    (second : ∀ leftValue rightValue, related leftValue rightValue →
      ResultsServe outcome (leftNext leftValue) (rightNext rightValue)) :
    ResultsServe outcome (left >>= leftNext) (right >>= rightNext) := by
  intro value isValue
  obtain ⟨rightValue, rfl, isNext⟩ := Steps.exists_of_bind_ok isValue
  obtain ⟨leftValue, rfl, values⟩ := first rightValue rfl
  exact second leftValue rightValue values value isNext

theorem foldlM {γ : Type w} {leftStep rightStep : α → γ → Except ε α} (items : List γ)
    (step : ∀ item ∈ items, ∀ left right, related left right →
      ResultsServe related (leftStep left item) (rightStep right item))
    {left right : α} (start : related left right) :
    ResultsServe related (items.foldlM leftStep left) (items.foldlM rightStep right) := by
  induction items generalizing left right with
  | nil => exact .ok start
  | cons first rest inRest =>
    rw [List.foldlM_cons, List.foldlM_cons]
    refine (step first List.mem_cons_self left right start).bind fun _ _ => inRest ?_
    exact fun item member => step item (List.mem_cons_of_mem _ member)

end ResultsServe

namespace Typing

/-! ## Types -/

abbrev Serves (actual expected : ColumnType) : Prop :=
  serves actual expected = true

namespace Serves

variable {actual expected : ColumnType}

theorem refl (type : ColumnType) : Serves type type :=
  serves_order.refl type

theorem base (serving : Serves actual expected) : actual.base.Alike expected.base := by
  rcases serves_iff.mp serving with alike | ⟨inner, rfl, notNullable, alike⟩
  · exact alike.base
  · cases actual with
    | nullable _ => cases notNullable
    | _ => exact alike

theorem isNullable (serving : Serves actual expected) (nullable : actual.isNullable = true) :
    expected.isNullable = true := by
  rw [← (alike_of_serves_of_isNullable serving nullable).isNullable]
  exact nullable

theorem alike (serving : Serves actual expected)
    (nullable : actual.isNullable = expected.isNullable) : actual.Alike expected := by
  rcases serves_iff.mp serving with alike | ⟨inner, rfl, notNullable, _⟩
  · exact alike
  · rw [notNullable] at nullable
    cases nullable

theorem makeNullable (serving : Serves actual expected) :
    Serves actual.makeNullable expected.makeNullable := by
  rcases serves_iff.mp serving with alike | ⟨inner, rfl, notNullable, alike⟩
  · exact serves_of_alike alike.makeNullable
  · have innerNullable := alike.isNullable
    rw [notNullable] at innerNullable
    have isNullable : inner.makeNullable = .nullable inner := by
      cases inner with
      | nullable _ => cases innerNullable
      | _ => rfl
    have made := alike.makeNullable
    rw [isNullable] at made
    exact serves_of_alike made

theorem nullableWhen (serving : Serves actual expected) (condition : Bool) :
    Serves (Typing.nullableWhen condition actual) (Typing.nullableWhen condition expected) := by
  unfold Typing.nullableWhen
  split
  · exact serving.makeNullable
  · exact serving

theorem leftColumnType (serving : Serves actual expected) {keys : JoinKeys} {kind : JoinKind}
    {rightType otherRightType : ColumnType} (rightTypes : Serves rightType otherRightType)
    (name : Literal) :
    Serves (Typing.leftColumnType keys kind rightType name actual)
      (Typing.leftColumnType keys kind otherRightType name expected) := by
  unfold Typing.leftColumnType
  split
  · split
    · exact serving.makeNullable
    · exact rightTypes
    · exact serving
    · exact serving
  · exact serving.nullableWhen _

theorem isNumeric (serving : Serves actual expected) :
    Typing.isNumeric actual = Typing.isNumeric expected := by
  unfold Typing.isNumeric
  rw [← isSummable_canonical actual.base, ← isSummable_canonical expected.base]
  exact congrArg isSummable serving.base

/-- Aggregations over a column that serves come to types that serve, except for lists. -/
theorem resultType (serving : Serves actual expected) {aggregation : Aggregation}
    (gathered : aggregation = .list → actual.isNullable = expected.isNullable) :
    ResultsServe Serves (aggregation.resultType actual) (aggregation.resultType expected) := by
  have numeric := serving.isNumeric
  cases aggregation with
  | sum =>
    simp only [Aggregation.resultType, numeric]
    split
    · exact .ok serving
    · exact .error
  | mean =>
    simp only [Aggregation.resultType, numeric]
    split
    · refine .ok ?_
      have nullable := serving.isNullable
      cases actualNullable : actual.isNullable with
      | true =>
        rw [nullable actualNullable]
        exact .refl _
      | false => cases expected.isNullable <;> decide
    · exact .error
  | count | nUnique => exact .ok (.refl _)
  | list => exact .ok (serves_of_alike (serving.alike (gathered rfl)).list)
  | first | last | min | max => exact .ok serving
  | unknown name => exact .error

end Serves

/-! ## Frames -/

theorem exists_of_frameServes {actual expected : Frame}
    (serving : frameServes actual expected = true) {label : Literal} {type : ColumnType} (found : expected.column? label = some type) :
    ∃ other, actual.column? label = some other ∧ Serves other type :=
  frameServes_iff.mp serving label type found

theorem hasColumn_of_frameServes {actual expected : Frame}
    (serving : frameServes actual expected = true) {label : Literal}
    (has : expected.hasColumn label = true) : actual.hasColumn label = true := by
  rw [Frame.hasColumn, Table.contains_eq] at has ⊢
  obtain ⟨type, found⟩ := Option.isSome_iff_exists.mp has
  obtain ⟨other, isFound, _⟩ := exists_of_frameServes serving found
  exact Option.isSome_iff_exists.mpr ⟨other, isFound⟩

theorem frameServes_of_agrees {actual expected : Columns}
    (agree : Table.Agrees Serves actual expected) :
    frameServes { columns := actual } { columns := expected } = true := by
  refine frameServes_iff.mpr fun label type found => ?_
  have types := agree label
  rw [Frame.column?] at found ⊢
  rw [found] at types
  generalize actual.get? label = answer at types
  cases types with
  | some types => exact ⟨_, rfl, types⟩

/-! ## Grouped aggregation -/

def gathersAlike (frame other : Frame) (items : List AggregationColumn) : Bool :=
  items.all fun item => item.aggregation != .list ||
    ((frame.column? item.column).map ColumnType.isNullable ==
      (other.column? item.column).map ColumnType.isNullable)

section Aggregate

variable {frame other : Frame}

theorem addKey_serves (serving : frameServes frame other = true) (key : Literal)
    (left right : Columns) (columns : Table.Agrees Serves left right) :
    ResultsServe (Table.Agrees Serves) (addKey frame left key) (addKey other right key) := by
  unfold addKey
  cases found : other.column? key with
  | none => exact .error
  | some type =>
    obtain ⟨served, isServed, types⟩ := exists_of_frameServes serving found
    rw [isServed]
    exact .ok (columns.insert key types)

theorem addAggregation_serves (serving : frameServes frame other = true)
    {item : AggregationColumn} {items : List AggregationColumn} (isItem : item ∈ items)
    (gathered : gathersAlike frame other items = true) (left right : Columns)
    (columns : Table.Agrees Serves left right) :
    ResultsServe (Table.Agrees Serves) (addAggregation frame left item)
      (addAggregation other right item) := by
  unfold addAggregation
  cases found : other.column? item.column with
  | none => exact .error
  | some type =>
    obtain ⟨served, isServed, types⟩ := exists_of_frameServes serving found
    rw [isServed]
    have nullable : item.aggregation = .list → served.isNullable = type.isNullable := by
      intro isList
      have holds := List.all_eq_true.mp gathered item isItem
      simpa [isList, isServed, found] using holds
    refine (types.resultType nullable).bind fun _ _ results => ?_
    exact .ok (columns.insert item.outputName results)

theorem aggregate_serves (serving : frameServes frame other = true) (keys : List Literal)
    {items : List AggregationColumn} (gathered : gathersAlike frame other items = true) :
    ResultsServe (fun first second => frameServes first second = true)
      (aggregate frame keys items) (aggregate other keys items) := by
  have empty : Table.Agrees Serves (Table.empty : Columns) .empty := .refl .refl _
  refine (ResultsServe.foldlM keys (fun key _ => addKey_serves serving key) empty).bind
    fun _ _ keyColumns => ?_
  refine (ResultsServe.foldlM items
    (fun item isItem => addAggregation_serves serving isItem gathered) keyColumns).bind
    fun _ _ columns => ?_
  exact .ok (frameServes_of_agrees columns)

end Aggregate

/-! ## Joins -/

/-- Every right column that is renamed in the first join is renamed in the second one too, or is
none of its columns and takes no name that its result has. -/
def JoinKeys.keepsPlaces (keys : JoinKeys) (left right otherLeft otherRight joined : Frame) :
    Bool :=
  right.names.all fun name =>
    keys.isShared name || !left.hasColumn name ||
      if otherRight.hasColumn name then otherLeft.hasColumn name
      else !joined.hasColumn (renamed name)

section Joins

variable {keys : JoinKeys} {kind : JoinKind} {left right otherLeft otherRight joined : Frame}

theorem exists_mem_of_frameServes (serving : frameServes right otherRight = true)
    (plain : otherRight.Plain) {column : Literal × ColumnType}
    (member : column ∈ otherRight.columns.entries) :
    ∃ type, (column.1, type) ∈ right.columns.entries ∧ Serves type column.2 := by
  obtain ⟨type, found, types⟩ := exists_of_frameServes serving (Table.get?_of_mem member)
  have isText := plain column.1 (List.mem_map_of_mem member)
  exact ⟨type, Frame.mem_entries_of_column? isText found, types⟩

theorem rightColumnName_of_keepsPlaces (lefts : frameServes left otherLeft = true)
    (places : keys.keepsPlaces left right otherLeft otherRight joined = true) {name : Literal}
    (inRight : name ∈ right.names) (inOther : otherRight.hasColumn name = true)
    (notShared : keys.isShared name = false) :
    rightColumnName left.columns name = rightColumnName otherLeft.columns name := by
  have sameSide : left.hasColumn name = otherLeft.hasColumn name := by
    cases inLeft : left.hasColumn name with
    | true =>
      have holds := List.all_eq_true.mp places name inRight
      simpa [notShared, inLeft, inOther] using holds.symm
    | false =>
      cases inOtherLeft : otherLeft.hasColumn name with
      | false => rfl
      | true => rw [← inLeft, hasColumn_of_frameServes lefts inOtherLeft]
  have sameTest : left.columns.contains name = otherLeft.columns.contains name := sameSide
  rw [rightColumnName, rightColumnName, sameTest]

theorem lookup_placedColumns_serves (lefts : frameServes left otherLeft = true)
    (rights : frameServes right otherRight = true) (plain : right.Plain)
    (otherPlain : otherRight.Plain) (clear : keys.isClear left right = true)
    (places : keys.keepsPlaces left right otherLeft otherRight joined = true)
    {label : Literal} {type : ColumnType}
    (found : Table.lookup label (placedColumns keys kind otherLeft otherRight.columns.entries) =
      some type) :
    ∃ other, Table.lookup label (placedColumns keys kind left right.columns.entries) = some other ∧
      Serves other type := by
  obtain ⟨entry, member, isLabel, rfl⟩ := Table.exists_of_lookup found
  obtain ⟨column, isColumn, rfl⟩ := List.mem_map.mp member
  obtain ⟨inOther, isUnshared⟩ := List.mem_filter.mp isColumn
  have notShared : keys.isShared column.1 = false := by simpa using isUnshared
  obtain ⟨rightType, inRight, types⟩ := exists_mem_of_frameServes rights otherPlain inOther
  have hasOther : otherRight.hasColumn column.1 = true := by
    rw [Frame.hasColumn, Table.contains_eq, Table.get?_of_mem inOther]
    rfl
  have sameName : (placed kind left (column.1, rightType)).1 = (placed kind otherLeft column).1 :=
    rightColumnName_of_keepsPlaces lefts places (List.mem_map_of_mem inRight) hasOther notShared
  have isPlaced : placed kind left (column.1, rightType) ∈
      placedColumns keys kind left right.columns.entries :=
    List.mem_map_of_mem (List.mem_filter.mpr ⟨inRight, isUnshared⟩)
  refine ⟨(placed kind left (column.1, rightType)).2, ?_, types.nullableWhen _⟩
  rw [← Table.lookup_congr isLabel, ← sameName]
  exact Table.lookup_of_mem (distinct_placedColumns clear plain) isPlaced

theorem lookup_placedColumns_eq_none (lefts : frameServes left otherLeft = true)
    (plain : right.Plain) (otherPlain : otherRight.Plain)
    (otherClear : keys.isClear otherLeft otherRight = true)
    (places : keys.keepsPlaces left right otherLeft otherRight joined = true) {label : Literal}
    (inLeft : otherLeft.hasColumn label = true) (inJoined : joined.hasColumn label = true)
    (absent : Table.lookup label (placedColumns keys kind otherLeft otherRight.columns.entries) =
      none) :
    Table.lookup label (placedColumns keys kind left right.columns.entries) = none := by
  refine Table.lookup_eq_none fun entry member => ?_
  obtain ⟨column, isColumn, rfl⟩ := List.mem_map.mp member
  obtain ⟨inRight, isUnshared⟩ := List.mem_filter.mp isColumn
  have inNames : column.1 ∈ right.names := List.mem_map_of_mem inRight
  rw [← Bool.not_eq_true]
  intro isLabel
  replace isLabel : (rightColumnName left.columns column.1 == label) = true := isLabel
  cases isTaken : left.hasColumn column.1 with
  | false =>
    have kept : rightColumnName left.columns column.1 = column.1 :=
      if_neg (by simpa [Frame.hasColumn] using isTaken)
    rw [kept] at isLabel
    have taken := hasColumn_of_frameServes lefts inLeft
    rw [← Frame.hasColumn_congr isLabel, isTaken] at taken
    cases taken
  | true =>
    have isRenamed : rightColumnName left.columns column.1 = renamed column.1 := if_pos isTaken
    rw [isRenamed] at isLabel
    have holds := List.all_eq_true.mp places column.1 inNames
    have notShared : keys.isShared column.1 = false := by simpa using isUnshared
    simp only [notShared, isTaken, Bool.not_true, Bool.false_or] at holds
    split at holds
    next inOther =>
      -- the column is renamed in the other join too, and found there
      rw [Frame.hasColumn, Table.contains_eq] at inOther
      obtain ⟨type, found⟩ := Option.isSome_iff_exists.mp inOther
      have isOther := Frame.mem_entries_of_column? (plain _ inNames) found
      have isPlaced : placed kind otherLeft (column.1, type) ∈
          placedColumns keys kind otherLeft otherRight.columns.entries :=
        List.mem_map_of_mem (List.mem_filter.mpr ⟨isOther, isUnshared⟩)
      have isFound := Table.lookup_of_mem (distinct_placedColumns otherClear otherPlain) isPlaced
      have otherName : (placed kind otherLeft (column.1, type)).1 = renamed column.1 := if_pos holds
      rw [otherName, Table.lookup_congr isLabel, absent] at isFound
      cases isFound
    next =>
      rw [Frame.hasColumn_congr isLabel, inJoined] at holds
      cases holds

theorem joinedColumns_serve (lefts : frameServes left otherLeft = true)
    (rights : frameServes right otherRight = true) (plain : right.Plain)
    (otherPlain : otherRight.Plain) {rightType otherRightType : ColumnType}
    (rightTypes : Serves rightType otherRightType) (clear : keys.isClear left right = true)
    (otherClear : keys.isClear otherLeft otherRight = true)
    (isJoined : joined =
      { columns := joinedColumns keys kind otherRightType otherLeft otherRight })
    (places : keys.keepsPlaces left right otherLeft otherRight joined = true) :
    frameServes { columns := joinedColumns keys kind rightType left right } joined = true := by
  refine frameServes_iff.mpr fun label type found => ?_
  have inJoined : joined.hasColumn label = true := by
    rw [Frame.hasColumn, Table.contains_eq]
    exact Option.isSome_iff_exists.mpr ⟨type, found⟩
  rw [isJoined, Frame.column?, joinedColumns_of_clear otherClear,
    Table.get?_insertAll_of_distinct (distinct_placedColumns otherClear otherPlain),
    Table.get?_mapValues leftColumnType_congr] at found
  rw [Frame.column?, joinedColumns_of_clear clear,
    Table.get?_insertAll_of_distinct (distinct_placedColumns clear plain),
    Table.get?_mapValues leftColumnType_congr]
  cases isPlaced : Table.lookup label
      (placedColumns keys kind otherLeft otherRight.columns.entries) with
  | some placedType =>
    rw [isPlaced] at found
    cases found
    obtain ⟨other, isOther, types⟩ :=
      lookup_placedColumns_serves lefts rights plain otherPlain clear places isPlaced
    exact ⟨other, by rw [isOther]; rfl, types⟩
  | none =>
    rw [isPlaced] at found
    obtain ⟨leftType, isLeft, rfl⟩ := Option.map_eq_some_iff.mp found
    obtain ⟨other, isOther, types⟩ := exists_of_frameServes lefts isLeft
    have inLeft : otherLeft.hasColumn label = true := by
      rw [Frame.hasColumn, Table.contains_eq, isLeft]
      rfl
    rw [lookup_placedColumns_eq_none lefts plain otherPlain otherClear places inLeft inJoined
      isPlaced]
    refine ⟨leftColumnType keys kind rightType label other, ?_,
      types.leftColumnType rightTypes label⟩
    rw [Option.none_or, Option.map_eq_some_iff]
    exact ⟨other, isOther, rfl⟩

theorem join_serves {request : JoinRequest} (lefts : frameServes left otherLeft = true)
    (rights : frameServes right otherRight = true) (plain : right.Plain)
    (otherPlain : otherRight.Plain) (clear : isClearJoin left right request = true)
    (otherClear : isClearJoin otherLeft otherRight request = true)
    (places : ∀ keys joined, request.keys? = some keys →
      join otherLeft otherRight request = .ok joined →
      keys.keepsPlaces left right otherLeft otherRight joined = true) :
    ResultsServe (fun first second => frameServes first second = true)
      (join left right request) (join otherLeft otherRight request) := by
  intro joined otherJoin
  obtain ⟨keys, otherLeftType, otherRightType, isKeys, isOtherLeft, isOtherRight, fits, _,
    isJoined⟩ := join_eq_ok_iff.mp otherJoin
  obtain ⟨leftType, isLeft, leftTypes⟩ := exists_of_frameServes lefts isOtherLeft
  obtain ⟨rightType, isRight, rightTypes⟩ := exists_of_frameServes rights isOtherRight
  have leftFits : leftType.base.same rightType.base = true := by
    rw [leftTypes.base.same rightTypes.base]
    exact fits
  have leftJoin := join_eq_ok_iff.mpr
    ⟨keys, leftType, rightType, isKeys, isLeft, isRight, leftFits,
      Analysis.renamesWritable_of_plain plain left keys, rfl⟩
  exact ⟨_, leftJoin, joinedColumns_serve lefts rights plain otherPlain rightTypes
    (isClear_of_isClearJoin clear isKeys leftJoin)
    (isClear_of_isClearJoin otherClear isKeys otherJoin) isJoined
    (places keys joined isKeys otherJoin)⟩

end Joins

/-! ## Columns that are written -/

abbrev EntriesServe (left right : List (Literal × ColumnType)) : Prop :=
  List.Forall₂ (fun first second => first.1 = second.1 ∧ Serves first.2 second.2) left right

theorem frameServes_insertAll {actual expected : Columns} {left right : List (Literal × ColumnType)}
    (entries : EntriesServe left right)
    (serving : frameServes { columns := actual } { columns := expected } = true) :
    frameServes { columns := actual.insertAll left } { columns := expected.insertAll right } =
      true := by
  induction entries generalizing actual expected with
  | nil => exact serving
  | @cons first second _ _ types _ inRest =>
    refine inRest (frameServes_iff.mpr fun label type found => ?_)
    rw [Frame.column?, Table.get?_insert] at found ⊢
    rw [types.1]
    split at found
    · cases found
      rw [if_pos ‹_›]
      exact ⟨first.2, rfl, types.2⟩
    · rw [if_neg ‹_›]
      exact exists_of_frameServes serving found

end Typing

namespace Analysis

open Syntax Typing

/-! ## Column expressions -/

structure OutputColumn.Serves (left right : OutputColumn) : Prop where
  name : left.name = right.name
  type : Option.Rel Typing.Serves left.type right.type

section Columns

variable {frame other : Frame}

theorem plainColumn_serves (serving : frameServes frame other = true) (label : Literal)
    (expression : Expr) :
    ResultsServe OutputColumn.Serves (plainColumn frame label expression)
      (plainColumn other label expression) := by
  unfold plainColumn
  split
  next name isName =>
    split
    · exact .ok ⟨rfl, .none⟩
    · unfold columnType
      cases found : other.column? name with
      | none => exact .error
      | some type =>
        obtain ⟨served, isServed, types⟩ := exists_of_frameServes serving found
        rw [isServed]
        exact .ok ⟨rfl, .some types⟩
  next =>
    split
    · split
      · exact .ok ⟨rfl, .some (.refl _)⟩
      · exact .ok ⟨rfl, .none⟩
    · exact .ok ⟨rfl, .none⟩

theorem arithmeticColumn_serves (label : Literal) {left right : OutputColumn}
    (serving : left.Serves right) :
    (arithmeticColumn label left).Serves (arithmeticColumn label right) := by
  obtain ⟨name, type?⟩ := left
  obtain ⟨otherName, otherType?⟩ := right
  obtain ⟨names, types⟩ := serving
  cases types with
  | none => exact ⟨rfl, .none⟩
  | some types => exact ⟨congrArg (preferredName label) names, .some types⟩

theorem columnUnder_serves (serving : frameServes frame other = true) (label : Literal)
    (expression : Expr) :
    ResultsServe OutputColumn.Serves (columnUnder frame label expression)
      (columnUnder other label expression) := by
  fun_induction columnUnder frame label expression with
  | case1 label inner leftLabel others keywords operator right inLeft =>
    rw [columnUnder]
    exact inLeft.bind fun _ _ columns => .ok (arithmeticColumn_serves label columns)
  | case2 label left operator right notAlias inLeft =>
    rw [columnUnder]
    · exact inLeft.bind fun _ _ columns => .ok (arithmeticColumn_serves label columns)
    · exact notAlias
  | case3 label expression notAlias notBinary =>
    rw [columnUnder]
    · exact plainColumn_serves serving label expression
    · exact notAlias
    · exact notBinary

theorem plainColumn_error_name {label : Literal} {expression : Expr}
    {error otherError : ColumnNotFound}
    (failed : plainColumn frame label expression = .error error)
    (otherFailed : plainColumn other label expression = .error otherError) :
    NamedAlike error otherError := by
  unfold plainColumn at failed otherFailed
  split at failed
  next name isName =>
    split at failed
    · cases failed
    next notVoid =>
      simp only [isName, if_neg notVoid] at otherFailed
      have missing := Steps.eq_error_of_bind_pure failed
      have otherMissing := Steps.eq_error_of_bind_pure otherFailed
      unfold columnType at missing otherMissing
      split at missing
      · cases missing
      · split at otherMissing
        · cases otherMissing
        · cases missing
          cases otherMissing
          rfl
  next =>
    split at failed
    · split at failed <;> cases failed
    · cases failed

theorem columnUnder_error_name {label : Literal} {expression : Expr}
    {error otherError : ColumnNotFound}
    (failed : columnUnder frame label expression = .error error)
    (otherFailed : columnUnder other label expression = .error otherError) :
    NamedAlike error otherError := by
  fun_induction columnUnder frame label expression with
  | case1 label inner leftLabel others keywords operator right inLeft =>
    rw [columnUnder] at otherFailed
    exact inLeft (Steps.eq_error_of_bind_pure failed) (Steps.eq_error_of_bind_pure otherFailed)
  | case2 label left operator right notAlias inLeft =>
    rw [columnUnder] at otherFailed
    · exact inLeft (Steps.eq_error_of_bind_pure failed) (Steps.eq_error_of_bind_pure otherFailed)
    · exact notAlias
  | case3 label expression notAlias notBinary =>
    rw [columnUnder] at otherFailed
    · exact plainColumn_error_name failed otherFailed
    · exact notAlias
    · exact notBinary

theorem outputColumn_serves (serving : frameServes frame other = true) (expression : Expr) :
    ResultsServe OutputColumn.Serves (outputColumn frame expression)
      (outputColumn other expression) :=
  columnUnder_serves serving _ _

def OutputColumn.entries (column : OutputColumn) : List (Literal × ColumnType) :=
  match column.type with
  | some type => if column.name.isVoid then [] else [(column.name, type)]
  | none => []

theorem OutputColumn.Serves.entries {left right : OutputColumn} (serving : left.Serves right) :
    EntriesServe left.entries right.entries := by
  obtain ⟨name, type?⟩ := left
  obtain ⟨otherName, otherType?⟩ := right
  obtain ⟨names, types⟩ := serving
  dsimp only at names types
  subst names
  unfold OutputColumn.entries
  cases types with
  | none => exact .nil
  | some types =>
    dsimp only
    split
    · exact .nil
    · exact .cons ⟨rfl, types⟩ .nil

theorem outputColumns_cons_of_error {first : Expr} {error : ColumnNotFound}
    (failed : outputColumn frame first = .error error) (rest : List Expr) :
    outputColumns frame (first :: rest) =
      ((outputColumns frame rest).1, error :: (outputColumns frame rest).2) := by
  simp only [outputColumns, failed]

theorem outputColumns_cons_of_ok {first : Expr} {column : OutputColumn}
    (succeeded : outputColumn frame first = .ok column) (rest : List Expr) :
    outputColumns frame (first :: rest) =
      (column.entries ++ (outputColumns frame rest).1, (outputColumns frame rest).2) := by
  obtain ⟨name, type?⟩ := column
  simp only [outputColumns, succeeded, OutputColumn.entries]
  cases type? with
  | none => rfl
  | some type =>
    dsimp only
    split <;> rfl

theorem missing_length_le (serving : frameServes frame other = true) (arguments : List Expr) :
    (outputColumns frame arguments).2.length ≤ (outputColumns other arguments).2.length := by
  induction arguments with
  | nil => exact Nat.le_refl 0
  | cons first rest inRest =>
    cases otherResult : outputColumn other first with
    | ok otherColumn =>
      obtain ⟨column, isColumn, _⟩ := outputColumn_serves serving first otherColumn otherResult
      rw [outputColumns_cons_of_ok isColumn, outputColumns_cons_of_ok otherResult]
      exact inRest
    | error otherError =>
      rw [outputColumns_cons_of_error otherResult]
      cases result : outputColumn frame first with
      | ok column =>
        rw [outputColumns_cons_of_ok result]
        exact Nat.le_succ_of_le inRest
      | error error =>
        rw [outputColumns_cons_of_error result]
        exact Nat.succ_le_succ inRest

/-- Where as many columns are missing, arguments yield columns that serve and look for the same
ones in vain. -/
theorem outputColumns_serve (serving : frameServes frame other = true) {arguments : List Expr}
    (inVain : (outputColumns other arguments).2.length ≤ (outputColumns frame arguments).2.length) :
    EntriesServe (outputColumns frame arguments).1 (outputColumns other arguments).1 ∧
    List.Forall₂ NamedAlike (outputColumns frame arguments).2
      (outputColumns other arguments).2 := by
  induction arguments with
  | nil => exact ⟨.nil, .nil⟩
  | cons first rest inRest =>
    cases otherResult : outputColumn other first with
    | ok otherColumn =>
      obtain ⟨column, isColumn, columns⟩ :=
        outputColumn_serves serving first otherColumn otherResult
      rw [outputColumns_cons_of_ok isColumn, outputColumns_cons_of_ok otherResult] at inVain ⊢
      obtain ⟨restColumns, restMissing⟩ := inRest inVain
      exact ⟨List.rel_append columns.entries restColumns, restMissing⟩
    | error otherError =>
      cases result : outputColumn frame first with
      | ok column =>
        -- a column that only the first frame has would be one that is missing less
        rw [outputColumns_cons_of_ok result, outputColumns_cons_of_error otherResult] at inVain
        have fewer := missing_length_le serving rest
        simp only [List.length_cons] at inVain
        omega
      | error error =>
        rw [outputColumns_cons_of_error result, outputColumns_cons_of_error otherResult] at inVain ⊢
        obtain ⟨restColumns, restMissing⟩ := inRest (Nat.le_of_succ_le_succ inVain)
        exact ⟨restColumns, .cons (columnUnder_error_name result otherResult) restMissing⟩

end Columns

/-! ## Arguments -/

theorem argumentProblems_eq_nil_iff {parameter : Text} {actual expected : Frame} :
    argumentProblems parameter actual expected = [] ↔ frameServes actual expected = true := by
  rw [argumentProblems, List.filterMap_eq_nil_iff, frameServes, List.all_eq_true]
  refine forall₂_congr fun column _ => ?_
  cases actual.column? column.1 with
  | none => simp
  | some type => simp

theorem callProblems_serve (signature : Signature) (position : Nat)
    {arguments others : List (Option Frame)}
    (serving : List.Forall₂
      (Option.Rel fun first second => frameServes first second = true) arguments others)
    (faultless : callProblems signature position others = []) :
    callProblems signature position arguments = [] := by
  induction serving generalizing position with
  | nil => rfl
  | @cons argument other rest otherRest frames _ inRest =>
    simp only [callProblems, List.append_eq_nil_iff] at faultless ⊢
    refine ⟨?_, inRest (position + 1) faultless.2⟩
    cases frames with
    | none => rfl
    | @some frame otherFrame frameServing =>
      replace faultless := faultless.1
      cases isParameter : signature.parameterAt? position with
      | none => rfl
      | some parameter =>
        rw [isParameter] at faultless
        dsimp only at faultless ⊢
        have otherServes : frameServes otherFrame parameter.2 = true := by
          split at faultless
          · assumption
          · exact argumentProblems_eq_nil_iff.mp faultless
        rw [if_pos (frameServes_trans frameServing otherServes)]

end Analysis

end FrameCheck
