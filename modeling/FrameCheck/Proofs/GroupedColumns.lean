import FrameCheck.Proofs.Alike
import FrameCheck.Proofs.Steps
import FrameCheck.Typing.Grouping

/-!
The columns of a grouped aggregation. It is asked for its keys and then for its aggregations, one
request after the other: the first one that cannot be met decides how it fails, and otherwise each
writes one column. Where a name is written twice, the column keeps its first place and takes its
last type, so that columns are lost, and keys change their types, when names clash.
-/

namespace FrameCheck.Typing

/-! ## Requests -/

inductive GroupingRequest where
  | key (name : Literal)
  | aggregation (item : AggregationColumn)

def GroupingRequest.outputName : GroupingRequest → Literal
  | .key name => name
  | .aggregation item => item.outputName

def groupingRequests (keys : List Literal) (items : List AggregationColumn) :
    List GroupingRequest :=
  keys.map .key ++ items.map .aggregation

def requestedColumn (frame : Frame) :
    GroupingRequest → Except (Failure GroupingError) (Literal × ColumnType)
  | .key name =>
    match frame.column? name with
    | some type => .ok (name, type)
    | none => .error (GroupingError.keyMissing name).failure
  | .aggregation item =>
    match frame.column? item.column with
    | some type => (item.aggregation.resultType type).map (item.outputName, ·)
    | none => .error (GroupingError.columnMissing item.column).failure

def AggregationColumn.type? (frame : Frame) (item : AggregationColumn) : Option ColumnType :=
  (frame.column? item.column).bind fun type => (item.aggregation.resultType type).toOption

def GroupingRequest.type? (frame : Frame) : GroupingRequest → Option ColumnType
  | .key name => frame.column? name
  | .aggregation item => item.type? frame

section Requests

variable {frame : Frame} {request : GroupingRequest} {keys : List Literal}
  {items : List AggregationColumn}

@[simp] theorem key_mem_groupingRequests {name : Literal} :
    .key name ∈ groupingRequests keys items ↔ name ∈ keys := by
  simp [groupingRequests]

@[simp] theorem aggregation_mem_groupingRequests {item : AggregationColumn} :
    .aggregation item ∈ groupingRequests keys items ↔ item ∈ items := by
  simp [groupingRequests]

theorem map_outputName_groupingRequests (keys : List Literal) (items : List AggregationColumn) :
    (groupingRequests keys items).map GroupingRequest.outputName =
      keys ++ items.map AggregationColumn.outputName := by
  simp [groupingRequests, Function.comp_def, GroupingRequest.outputName]

theorem of_requestedColumn {column : Literal × ColumnType}
    (written : requestedColumn frame request = .ok column) :
    column.1 = request.outputName ∧ request.type? frame = some column.2 := by
  cases request with
  | key name =>
    simp only [requestedColumn] at written
    split at written
    next found =>
      cases written
      exact ⟨rfl, found⟩
    · cases written
  | aggregation item =>
    simp only [requestedColumn] at written
    split at written
    next type found =>
      cases result : item.aggregation.resultType type with
      | error error =>
        rw [result] at written
        cases written
      | ok resultType =>
        rw [result] at written
        cases written
        simp [GroupingRequest.outputName, GroupingRequest.type?, AggregationColumn.type?, found,
          result, Except.toOption]
    · cases written

theorem foldlM_eq_insertAll {step : Columns → α → Except (Failure GroupingError) Columns}
    {request : α → GroupingRequest}
    (writes : ∀ columns item, step columns item =
      (requestedColumn frame (request item)).map fun column => columns.insert column.1 column.2)
    (items : List α) (columns : Columns) :
    items.foldlM step columns =
      ((items.map request).mapM (requestedColumn frame)).map columns.insertAll := by
  induction items generalizing columns with
  | nil => rfl
  | cons item rest inRest =>
    rw [List.foldlM_cons, writes, List.map_cons]
    cases result : requestedColumn frame (request item) with
    | error error =>
      rw [Steps.mapM_cons_of_error result]
      rfl
    | ok column =>
      rw [Steps.mapM_cons_of_ok result]
      refine (inRest (columns.insert column.1 column.2)).trans ?_
      cases (rest.map request).mapM (requestedColumn frame) <;> rfl

theorem addKey_eq (frame : Frame) (columns : Columns) (key : Literal) :
    addKey frame columns key =
      (requestedColumn frame (.key key)).map fun column => columns.insert column.1 column.2 := by
  simp only [addKey, requestedColumn]
  cases frame.column? key <;> rfl

theorem addAggregation_eq (frame : Frame) (columns : Columns) (item : AggregationColumn) :
    addAggregation frame columns item =
      (requestedColumn frame (.aggregation item)).map
        fun column => columns.insert column.1 column.2 := by
  simp only [addAggregation, requestedColumn]
  cases frame.column? item.column with
  | none => rfl
  | some type =>
    dsimp only
    cases item.aggregation.resultType type <;> rfl

theorem aggregate_eq (frame : Frame) (keys : List Literal) (items : List AggregationColumn) :
    aggregate frame keys items =
      ((groupingRequests keys items).mapM (requestedColumn frame)).map Frame.ofList := by
  rw [aggregate, foldlM_eq_insertAll (addKey_eq frame), groupingRequests, List.mapM_append]
  cases (keys.map GroupingRequest.key).mapM (requestedColumn frame) with
  | error error => rfl
  | ok keyColumns =>
    dsimp only [Except.map, bind, Except.bind]
    rw [foldlM_eq_insertAll (addAggregation_eq frame)]
    cases (items.map GroupingRequest.aggregation).mapM (requestedColumn frame) with
    | error error => rfl
    | ok itemColumns =>
      have inOrder : (Table.empty.insertAll keyColumns).insertAll itemColumns =
          Table.ofList (keyColumns ++ itemColumns) := List.foldl_append.symm
      dsimp only [Except.map, pure, Except.pure]
      rw [inOrder, Frame.ofList]

end Requests

/-! ## Failures -/

def numericTypes : List ColumnType :=
  [.int64, .int32, .uint32, .uint64, .float64, .float32]

theorem isNumeric_iff {type : ColumnType} : isNumeric type = true ↔ type.base ∈ numericTypes := by
  rw [isNumeric]
  cases type.base with
  | scalar kind => cases kind <;> decide
  | _ => simp [isSummable, numericTypes]

def Aggregation.needsNumbers (aggregation : Aggregation) : Prop :=
  aggregation = .sum ∨ aggregation = .mean

theorem resultType_eq_error_iff {aggregation : Aggregation} {type : ColumnType}
    {failure : Failure GroupingError} :
    aggregation.resultType type = .error failure ↔
      (aggregation.needsNumbers ∧ type.base ∉ numericTypes ∧
        (GroupingError.notNumeric aggregation type).failure = failure) ∨
        ∃ name, aggregation = .unknown name ∧
          (GroupingError.unknownAggregation name).failure = failure := by
  rw [← isNumeric_iff]
  cases aggregation with
  | sum | mean =>
    simp only [Aggregation.resultType, Aggregation.needsNumbers]
    cases isNumeric type <;> simp
  | _ => simp [Aggregation.resultType, Aggregation.needsNumbers]

/-- Why a request cannot be met, with the error that says so. -/
inductive Unmet (frame : Frame) : GroupingRequest → GroupingError → Prop
  | keyMissing (name : Literal) (absent : frame.column? name = none) :
      Unmet frame (.key name) (.keyMissing name)
  | columnMissing (item : AggregationColumn) (absent : frame.column? item.column = none) :
      Unmet frame (.aggregation item) (.columnMissing item.column)
  | notNumeric (item : AggregationColumn) (type : ColumnType)
      (found : frame.column? item.column = some type) (needs : item.aggregation.needsNumbers)
      (other : type.base ∉ numericTypes) :
      Unmet frame (.aggregation item) (.notNumeric item.aggregation type)
  | unknown (item : AggregationColumn) (type : ColumnType) (name : Text)
      (found : frame.column? item.column = some type)
      (isUnknown : item.aggregation = .unknown name) :
      Unmet frame (.aggregation item) (.unknownAggregation name)

/-- The error is that of the first request that cannot be met. -/
def FirstUnmet (frame : Frame) (requests : List GroupingRequest) (error : GroupingError) : Prop :=
  ∃ before offender after, requests = before ++ offender :: after ∧
    (∀ request ∈ before, ∀ other, ¬ Unmet frame request other) ∧ Unmet frame offender error

section Failures

variable {frame : Frame} {request : GroupingRequest} {keys : List Literal}
  {items : List AggregationColumn}

theorem requestedColumn_eq_error_iff {failure : Failure GroupingError} :
    requestedColumn frame request = .error failure ↔
      ∃ error, Unmet frame request error ∧ error.failure = failure := by
  cases request with
  | key name =>
    simp only [requestedColumn]
    cases found : frame.column? name with
    | none =>
      constructor
      · rintro ⟨⟩
        exact ⟨_, .keyMissing name found, rfl⟩
      · rintro ⟨_, ⟨⟩, rfl⟩
        rfl
    | some type =>
      refine ⟨nofun, ?_⟩
      rintro ⟨_, ⟨absent⟩, _⟩
      simp_all
  | aggregation item =>
    simp only [requestedColumn]
    cases found : frame.column? item.column with
    | none =>
      constructor
      · rintro ⟨⟩
        exact ⟨_, .columnMissing item found, rfl⟩
      · rintro ⟨_, _ | _ | ⟨_, _⟩ | ⟨_, _, _⟩, rfl⟩
        all_goals simp_all
    | some type =>
      have onlyResult : (item.aggregation.resultType type).map (item.outputName, ·) =
          .error failure ↔ item.aggregation.resultType type = .error failure := by
        cases item.aggregation.resultType type <;> simp [Except.map]
      dsimp only
      rw [onlyResult, resultType_eq_error_iff]
      constructor
      · rintro (⟨needs, other, isFailure⟩ | ⟨name, isUnknown, isFailure⟩)
        · exact ⟨_, .notNumeric item type found needs other, isFailure⟩
        · exact ⟨_, .unknown item type name found isUnknown, isFailure⟩
      · rintro ⟨_, _ | _ | ⟨_, _⟩ | ⟨_, _, _⟩, rfl⟩
        all_goals simp_all

theorem forall_not_unmet_iff :
    (∀ error, ¬ Unmet frame request error) ↔
      ∃ column, requestedColumn frame request = .ok column := by
  cases requested : requestedColumn frame request with
  | ok column =>
    refine ⟨fun _ => ⟨column, rfl⟩, fun _ error unmet => ?_⟩
    rw [requestedColumn_eq_error_iff.mpr ⟨error, unmet, rfl⟩] at requested
    cases requested
  | error failure =>
    obtain ⟨error, unmet, _⟩ := requestedColumn_eq_error_iff.mp requested
    exact ⟨fun met => absurd unmet (met error), nofun⟩

theorem aggregate_eq_error_iff {failure : Failure GroupingError} :
    aggregate frame keys items = .error failure ↔
      ∃ error, FirstUnmet frame (groupingRequests keys items) error ∧ error.failure = failure := by
  have onlyRequests : aggregate frame keys items = .error failure ↔
      (groupingRequests keys items).mapM (requestedColumn frame) = .error failure := by
    rw [aggregate_eq]
    cases (groupingRequests keys items).mapM (requestedColumn frame) <;> simp [Except.map]
  rw [onlyRequests, Steps.mapM_eq_error_iff]
  simp only [FirstUnmet, forall_not_unmet_iff, requestedColumn_eq_error_iff]
  constructor
  · rintro ⟨before, offender, after, split, met, error, unmet, isFailure⟩
    exact ⟨error, ⟨before, offender, after, split, met, unmet⟩, isFailure⟩
  · rintro ⟨error, ⟨before, offender, after, split, met, unmet⟩, isFailure⟩
    exact ⟨before, offender, after, split, met, error, unmet, isFailure⟩

theorem aggregate_eq_refused_iff {error : GroupingError} :
    aggregate frame keys items = .error (.refused error) ↔
      FirstUnmet frame (groupingRequests keys items) error ∧ error.isWritable = true := by
  rw [aggregate_eq_error_iff]
  constructor
  · rintro ⟨_, first, refused⟩
    obtain ⟨rfl, writable⟩ := Failure.of_eq_refused_iff.mp refused
    exact ⟨first, writable⟩
  · rintro ⟨first, writable⟩
    exact ⟨error, first, Failure.of_eq_refused_iff.mpr ⟨rfl, writable⟩⟩

theorem aggregate_eq_longNumber_iff :
    aggregate frame keys items = .error .longNumber ↔
      ∃ error, FirstUnmet frame (groupingRequests keys items) error ∧
        error.isWritable = false := by
  simp only [aggregate_eq_error_iff, Failure.of_eq_longNumber_iff]

theorem exists_unmet_iff :
    (∃ request ∈ groupingRequests keys items, ∃ error, Unmet frame request error) ↔
      (∃ key ∈ keys, frame.column? key = none) ∨
      (∃ item ∈ items, frame.column? item.column = none) ∨
      (∃ item ∈ items, ∃ type, frame.column? item.column = some type ∧
        item.aggregation.needsNumbers ∧ type.base ∉ numericTypes) ∨
      ∃ item ∈ items, ∃ name, item.aggregation = .unknown name := by
  constructor
  · rintro ⟨request, isRequest, error, unmet⟩
    cases unmet with
    | keyMissing name absent =>
      exact .inl ⟨name, key_mem_groupingRequests.mp isRequest, absent⟩
    | columnMissing item absent =>
      exact .inr (.inl ⟨item, aggregation_mem_groupingRequests.mp isRequest, absent⟩)
    | notNumeric item type found needs other =>
      exact .inr (.inr (.inl ⟨item, aggregation_mem_groupingRequests.mp isRequest, type, found,
        needs, other⟩))
    | unknown item type name found isUnknown =>
      exact .inr (.inr (.inr ⟨item, aggregation_mem_groupingRequests.mp isRequest, name,
        isUnknown⟩))
  · rintro (⟨key, isKey, absent⟩ | ⟨item, isItem, absent⟩ |
      ⟨item, isItem, type, found, needs, other⟩ | ⟨item, isItem, name, isUnknown⟩)
    · exact ⟨.key key, by simp [isKey], _, .keyMissing key absent⟩
    · exact ⟨.aggregation item, by simp [isItem], _, .columnMissing item absent⟩
    · exact ⟨.aggregation item, by simp [isItem], _, .notNumeric item type found needs other⟩
    · -- a column that is missing comes before an aggregation that is unknown
      refine ⟨.aggregation item, by simp [isItem], ?_⟩
      cases found : frame.column? item.column with
      | none => exact ⟨_, .columnMissing item found⟩
      | some type => exact ⟨_, .unknown item type name found isUnknown⟩

theorem aggregate_eq_ok_iff {result : Frame} :
    aggregate frame keys items = .ok result ↔
      ∃ columns, (groupingRequests keys items).mapM (requestedColumn frame) = .ok columns ∧
        Frame.ofList columns = result := by
  rw [aggregate_eq]
  cases (groupingRequests keys items).mapM (requestedColumn frame) <;> simp [Except.map]

theorem exists_aggregate_ok_iff :
    (∃ result, aggregate frame keys items = .ok result) ↔
      ∀ request ∈ groupingRequests keys items, ∀ error, ¬ Unmet frame request error := by
  simp only [forall_not_unmet_iff, ← Steps.exists_mapM_ok_iff, aggregate_eq_ok_iff]
  constructor
  · rintro ⟨_, columns, collected, _⟩
    exact ⟨columns, collected⟩
  · rintro ⟨columns, collected⟩
    exact ⟨_, columns, collected, rfl⟩

theorem exists_aggregate_error_iff :
    (∃ failure, aggregate frame keys items = .error failure) ↔
      ∃ request ∈ groupingRequests keys items, ∃ error, Unmet frame request error := by
  have either : (∃ failure, aggregate frame keys items = .error failure) ↔
      ¬ ∃ result, aggregate frame keys items = .ok result := by
    cases aggregate frame keys items <;> simp
  rw [either, exists_aggregate_ok_iff]
  simp

end Failures

/-! ## Columns -/

def lastNamed? (items : List AggregationColumn) (name : Literal) : Option AggregationColumn :=
  (items.filter fun item => item.outputName == name).getLast?

/-- The type under a name: that of the last aggregation with this name, or else of the key. -/
def groupedType? (frame : Frame) (keys : List Literal) (items : List AggregationColumn)
    (name : Literal) : Option ColumnType :=
  match lastNamed? items name with
  | some item => item.type? frame
  | none => if keys.any (· == name) then frame.column? name else none

section Columns

variable {frame result : Frame} {keys : List Literal} {items : List AggregationColumn}

theorem map_name_of_requests {requests : List GroupingRequest}
    {columns : List (Literal × ColumnType)}
    (collected : requests.mapM (requestedColumn frame) = .ok columns) :
    columns.map (·.1) = requests.map GroupingRequest.outputName := by
  have each := Steps.mapM_eq_ok_iff.mp collected
  clear collected
  induction each with
  | nil => rfl
  | cons written _ inRest =>
    rw [List.map_cons, List.map_cons, inRest, (of_requestedColumn written).1]

/-- Of several requests under a name the last one decides. -/
theorem get?_insertAll_of_requests {requests : List GroupingRequest}
    {written : List (Literal × ColumnType)}
    (collected : requests.mapM (requestedColumn frame) = .ok written) (columns : Columns)
    (label : Literal) :
    (columns.insertAll written).get? label =
      ((requests.filter fun request => request.outputName == label).getLast?).elim
        (columns.get? label) (GroupingRequest.type? frame) := by
  have each := Steps.mapM_eq_ok_iff.mp collected
  clear collected
  induction each generalizing columns with
  | nil => rfl
  | @cons request column rest others isWritten _ inRest =>
    rcases of_requestedColumn isWritten with ⟨isName, isType⟩
    show ((columns.insert column.1 column.2).insertAll others).get? label = _
    rw [inRest, Table.get?_insert, isName, List.filter_cons]
    cases request.outputName == label with
    | false => rfl
    | true =>
      rw [if_pos rfl, if_pos rfl, List.getLast?_cons]
      cases (rest.filter fun request => request.outputName == label).getLast? with
      | none => exact isType.symm
      | some last => rfl

theorem getLast?_groupingRequests (keys : List Literal) (items : List AggregationColumn)
    (label : Literal) :
    ((groupingRequests keys items).filter fun request => request.outputName == label).getLast? =
      ((lastNamed? items label).map .aggregation).or
        ((keys.filter (· == label)).getLast?.map .key) := by
  simp [groupingRequests, List.filter_map, Function.comp_def, GroupingRequest.outputName,
    lastNamed?, List.getLast?_append]

theorem names_of_aggregate (succeeded : aggregate frame keys items = .ok result) :
    result.names = (keys ++ items.map AggregationColumn.outputName).eraseDups := by
  rcases aggregate_eq_ok_iff.mp succeeded with ⟨columns, collected, rfl⟩
  rw [← map_outputName_groupingRequests, ← map_name_of_requests collected]
  exact Table.keys_ofList columns

theorem column?_of_aggregate (succeeded : aggregate frame keys items = .ok result)
    (label : Literal) : result.column? label = groupedType? frame keys items label := by
  rcases aggregate_eq_ok_iff.mp succeeded with ⟨columns, collected, rfl⟩
  show (Table.empty.insertAll columns).get? label = _
  rw [get?_insertAll_of_requests collected, getLast?_groupingRequests, groupedType?]
  cases lastNamed? items label with
  | some item => rfl
  | none =>
    cases lastKey : (keys.filter (· == label)).getLast? with
    | some key =>
      have isKey := List.mem_filter.mp (List.mem_of_getLast? lastKey)
      have isThere : keys.any (· == label) = true := List.any_eq_true.mpr ⟨key, isKey⟩
      rw [isThere]
      exact Table.get?_congr isKey.2 frame.columns
    | none =>
      have isAbsent : keys.any (· == label) = false := by
        simpa [List.getLast?_eq_none_iff] using lastKey
      rw [isAbsent]
      rfl

theorem groupedType?_perm {others : List Literal} (permuted : keys.Perm others)
    (label : Literal) :
    groupedType? frame keys items label = groupedType? frame others items label := by
  simp only [groupedType?, permuted.any_eq]

theorem exists_aggregate_of_perm {others : List Literal} (permuted : keys.Perm others)
    (succeeded : aggregate frame keys items = .ok result) :
    ∃ other, aggregate frame others items = .ok other ∧ result.same other = true := by
  have met := exists_aggregate_ok_iff.mp ⟨result, succeeded⟩
  have requests : (groupingRequests keys items).Perm (groupingRequests others items) :=
    (permuted.map GroupingRequest.key).append_right _
  have othersMet : ∀ request ∈ groupingRequests others items, ∀ error,
      ¬ Unmet frame request error :=
    fun request isRequest => met request (requests.mem_iff.mpr isRequest)
  rcases exists_aggregate_ok_iff.mpr othersMet with ⟨other, isOther⟩
  refine ⟨other, isOther, ?_⟩
  have alike : result.Alike other := by
    intro label
    show Option.Rel _ (result.column? label) (other.column? label)
    rw [column?_of_aggregate succeeded, column?_of_aggregate isOther, groupedType?_perm permuted]
    cases groupedType? frame others items label with
    | none => exact .none
    | some type => exact .some (.refl type)
  rcases aggregate_eq_ok_iff.mp succeeded with ⟨columns, _, rfl⟩
  rcases aggregate_eq_ok_iff.mp isOther with ⟨otherColumns, _, rfl⟩
  rw [Frame.same, Bool.and_eq_true]
  exact ⟨Frame.sameColumns_iff.mpr alike, rfl⟩

end Columns

/-- A grouped aggregation fails exactly if a key or the column of an aggregation is missing, a sum
or mean is asked for of a type that is not numeric, or an aggregation is unknown. The error is that
of the first request that cannot be met, unless its message would hold a number that is too long to
be written. Otherwise the columns stand in the order in which their names first occur, with the
types of the last aggregations under these names or else of the keys, and keys in another order come
to the same frame. -/
theorem aggregate_is_exact (frame : Frame) (keys : List Literal) (items : List AggregationColumn) :
    ((∃ failure, aggregate frame keys items = .error failure) ↔
      (∃ key ∈ keys, frame.column? key = none) ∨
      (∃ item ∈ items, frame.column? item.column = none) ∨
      (∃ item ∈ items, ∃ type, frame.column? item.column = some type ∧
        item.aggregation.needsNumbers ∧ type.base ∉ numericTypes) ∨
      ∃ item ∈ items, ∃ name, item.aggregation = .unknown name) ∧
    (∀ error, aggregate frame keys items = .error (.refused error) ↔
      FirstUnmet frame (groupingRequests keys items) error ∧ error.isWritable = true) ∧
    (aggregate frame keys items = .error .longNumber ↔
      ∃ error, FirstUnmet frame (groupingRequests keys items) error ∧
        error.isWritable = false) ∧
    ∀ result, aggregate frame keys items = .ok result →
      result.names = (keys ++ items.map AggregationColumn.outputName).eraseDups ∧
      (∀ label, result.column? label = groupedType? frame keys items label) ∧
      ∀ others, keys.Perm others →
        ∃ other, aggregate frame others items = .ok other ∧ result.same other = true := by
  refine ⟨exists_aggregate_error_iff.trans exists_unmet_iff, fun _ => aggregate_eq_refused_iff,
    aggregate_eq_longNumber_iff, fun result succeeded => ?_⟩
  exact ⟨names_of_aggregate succeeded, column?_of_aggregate succeeded,
    fun _ permuted => exists_aggregate_of_perm permuted succeeded⟩

def sales : Frame :=
  .ofList [(.text "day", .nullable .int64), (.text "shop", .utf8),
    (.text "price", .nullable .int32)]

def salesItems : List AggregationColumn :=
  [{ column := .text "price", aggregation := .sum },
   { column := .text "price", aggregation := .mean, label := some (.text "shop") },
   { column := .text "day", aggregation := .count, label := some (.text "price") }]

theorem sales_is_exact :
    ∃ result other,
      aggregate sales [.text "shop", .text "day", .text "shop"] salesItems = .ok result ∧
      result.names.map Literal.display = ["shop", "day", "price"] ∧
      result.column? (.text "shop") = some (.nullable .float64) ∧
      result.column? (.text "day") = some (.nullable .int64) ∧
      result.column? (.text "price") = some .uint32 ∧
      aggregate sales [.text "day", .text "shop", .text "shop"] salesItems = .ok other ∧
      result.same other = true := by
  rcases aggregate_is_exact sales [.text "shop", .text "day", .text "shop"] salesItems with
    ⟨_, _, _, succeeds⟩
  rcases succeeds _ rfl with ⟨names, types, keysPermuted⟩
  rcases keysPermuted [.text "day", .text "shop", .text "shop"] (.swap _ _ _) with
    ⟨other, isOther, same⟩
  refine ⟨_, other, rfl, ?_, types _, types _, types _, isOther, same⟩
  rw [names]
  decide +kernel

def longColumn : AggregationColumn where
  column := .int (Magnitude.powerOfTen Literal.wholeDigitLimit)
  aggregation := .sum

/-- The column is missing, and the error that says so cannot name it. -/
theorem longColumn_not_refused :
    sales.column? longColumn.column = none ∧
    aggregate sales [.text "shop"] [longColumn] = .error .longNumber ∧
    ¬ ∃ error, aggregate sales [.text "shop"] [longColumn] = .error (.refused error) := by
  have absent : sales.column? longColumn.column = none := by decide +kernel
  have isKey : sales.column? (.text "shop") = some .utf8 := by decide +kernel
  have first : FirstUnmet sales (groupingRequests [.text "shop"] [longColumn])
      (.columnMissing longColumn.column) := by
    refine ⟨[.key (.text "shop")], .aggregation longColumn, [], rfl, ?_, .columnMissing _ absent⟩
    intro request isKeyRequest error unmet
    obtain rfl := List.mem_singleton.mp isKeyRequest
    cases unmet with
    | keyMissing _ keyAbsent =>
      rw [isKey] at keyAbsent
      cases keyAbsent
  have breaksOff : aggregate sales [.text "shop"] [longColumn] = .error .longNumber :=
    aggregate_eq_longNumber_iff.mpr ⟨_, first, by decide +kernel⟩
  refine ⟨absent, breaksOff, ?_⟩
  rintro ⟨error, refused⟩
  rw [breaksOff] at refused
  cases refused

/-! ## Columns that are kept -/

structure NamesApart (keys : List Literal) (items : List AggregationColumn) : Prop where
  outputs : Table.Distinct (items.map AggregationColumn.outputName)
  keys : ∀ key ∈ keys, ∀ item ∈ items, (key == item.outputName) = false

def KeepsType (frame result : Frame) (key : Literal) : Prop :=
  ∃ type other, frame.column? key = some type ∧ result.column? key = some other ∧
    other.same type = true

/-- Each key and each aggregation has a column of its own, and the keys have their types. -/
structure OneColumnEach (frame : Frame) (keys : List Literal) (items : List AggregationColumn)
    (result : Frame) : Prop where
  count : result.columns.size = keys.length + items.length
  keys : ∀ key ∈ keys, KeepsType frame result key

section Kept

variable {frame result : Frame} {keys : List Literal} {items : List AggregationColumn}
  {key : Literal}

theorem distinct_append_iff (distinct : Table.Distinct keys) :
    Table.Distinct (keys ++ items.map AggregationColumn.outputName) ↔ NamesApart keys items := by
  rw [Table.Distinct, List.pairwise_append]
  constructor
  · rintro ⟨_, outputs, differ⟩
    exact ⟨outputs, fun key isKey item isItem => differ key isKey _ (List.mem_map_of_mem isItem)⟩
  · rintro ⟨outputs, differ⟩
    refine ⟨distinct, outputs, fun key isKey name isName => ?_⟩
    rcases List.mem_map.mp isName with ⟨item, isItem, rfl⟩
    exact differ key isKey item isItem

theorem size_of_aggregate_iff (distinct : Table.Distinct keys)
    (succeeded : aggregate frame keys items = .ok result) :
    result.columns.size = keys.length + items.length ↔ NamesApart keys items := by
  have size : result.columns.size =
      (keys ++ items.map AggregationColumn.outputName).eraseDups.length := by
    rw [← names_of_aggregate succeeded]
    simp [Frame.names, Table.keys, Table.size]
  have total : (keys ++ items.map AggregationColumn.outputName).length =
      keys.length + items.length := by simp
  rw [size, ← total, ← distinct_append_iff distinct]
  constructor
  · exact Table.distinct_of_length_eraseDups
  · intro apart
    rw [Table.eraseDups_of_distinct apart]

theorem lastNamed?_eq_none (apart : NamesApart keys items) (isKey : key ∈ keys) :
    lastNamed? items key = none := by
  rw [lastNamed?, List.getLast?_eq_none_iff, List.filter_eq_nil_iff]
  intro item isItem
  rw [BEq.comm, apart.keys key isKey item isItem]
  decide

theorem keepsType_iff (isKey : key ∈ keys) (succeeded : aggregate frame keys items = .ok result) :
    KeepsType frame result key ↔
      ∀ item ∈ lastNamed? items key, ∃ type other, frame.column? key = some type ∧
        item.type? frame = some other ∧ other.same type = true := by
  have isThere : keys.any (· == key) = true := List.any_eq_true.mpr ⟨key, isKey, BEq.rfl⟩
  rw [KeepsType, column?_of_aggregate succeeded, groupedType?]
  cases lastNamed? items key with
  | some item => simp
  | none =>
    have met := exists_aggregate_ok_iff.mp ⟨result, succeeded⟩ (.key key) (by simp [isKey])
    cases found : frame.column? key with
    | none => exact absurd (.keyMissing key found) (met _)
    | some type => simp [isThere, ColumnType.same]

end Kept

/-- Each key and each aggregation has a column of its own, with the types of the keys kept, exactly
if no two aggregations have the same name and none has that of a key. Otherwise there are fewer
columns, and a key has another type where the last aggregation under its name has one. -/
theorem aggregate_keeps_columns_iff {frame result : Frame} {keys : List Literal}
    {items : List AggregationColumn} (distinct : Table.Distinct keys)
    (succeeded : aggregate frame keys items = .ok result) :
    (OneColumnEach frame keys items result ↔ NamesApart keys items) ∧
    (result.columns.size = keys.length + items.length ↔ NamesApart keys items) ∧
    ∀ key ∈ keys, KeepsType frame result key ↔
      ∀ item ∈ lastNamed? items key, ∃ type other, frame.column? key = some type ∧
        item.type? frame = some other ∧ other.same type = true := by
  have size := size_of_aggregate_iff distinct succeeded
  refine ⟨⟨fun each => size.mp each.count, fun apart => ⟨size.mpr apart, fun key isKey => ?_⟩⟩,
    size, fun key isKey => keepsType_iff isKey succeeded⟩
  rw [keepsType_iff isKey succeeded, lastNamed?_eq_none apart isKey]
  simp

def labelledItems : List AggregationColumn :=
  [{ column := .text "price", aggregation := .sum },
   { column := .text "price", aggregation := .mean, label := some (.text "average") }]

theorem labelledItems_keep_columns :
    Table.Distinct [Literal.text "shop", .text "day"] ∧
    ∃ result, aggregate sales [.text "shop", .text "day"] labelledItems = .ok result ∧
      OneColumnEach sales [.text "shop", .text "day"] labelledItems result := by
  have distinct : Table.Distinct [Literal.text "shop", .text "day"] := by decide +kernel
  have apart : NamesApart [.text "shop", .text "day"] labelledItems :=
    ⟨by decide +kernel, by decide +kernel⟩
  have succeeds : ∃ result,
      aggregate sales [.text "shop", .text "day"] labelledItems = .ok result := ⟨_, rfl⟩
  rcases succeeds with ⟨result, succeeded⟩
  exact ⟨distinct, result, succeeded, (aggregate_keeps_columns_iff distinct succeeded).1.mpr apart⟩

/-- An aggregation of a key without a label takes the place of the key, and of two aggregations of
one column, or with one label, the first is lost. -/
theorem aggregations_overwrite_columns :
    (∃ result, aggregate sales [.text "shop"]
        [{ column := .text "shop", aggregation := .count }] = .ok result ∧
      result.column? (.text "shop") = some .uint32 ∧
      ¬ OneColumnEach sales [.text "shop"]
        [{ column := .text "shop", aggregation := .count }] result) ∧
    (∃ result, aggregate sales [.text "shop"]
        [{ column := .text "price", aggregation := .sum },
         { column := .text "price", aggregation := .mean }] = .ok result ∧
      result.columns.size = 2 ∧
      ¬ OneColumnEach sales [.text "shop"]
        [{ column := .text "price", aggregation := .sum },
         { column := .text "price", aggregation := .mean }] result) ∧
    ∃ result, aggregate sales [.text "shop"]
        [{ column := .text "price", aggregation := .min, label := some (.text "bound") },
         { column := .text "day", aggregation := .max, label := some (.text "bound") }] =
          .ok result ∧
      result.columns.size = 2 ∧
      ¬ OneColumnEach sales [.text "shop"]
        [{ column := .text "price", aggregation := .min, label := some (.text "bound") },
         { column := .text "day", aggregation := .max, label := some (.text "bound") }] result := by
  refine ⟨⟨_, rfl, rfl, fun each => ?_⟩, ⟨_, rfl, rfl, fun each => ?_⟩,
    ⟨_, rfl, rfl, fun each => ?_⟩⟩
  all_goals exact absurd each.count (by decide +kernel)

end FrameCheck.Typing
