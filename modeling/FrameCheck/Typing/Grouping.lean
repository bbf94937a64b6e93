import FrameCheck.Typing.Failure

/-! Types of grouped aggregation: the keys come first, then one column per aggregation. -/

namespace FrameCheck.Typing

inductive Aggregation where
  | sum
  | mean
  | count
  | nUnique
  | list
  | first
  | last
  | min
  | max
  | unknown (name : Text)
deriving DecidableEq, Repr

def Aggregation.method : Aggregation → Text
  | .sum => "sum"
  | .mean => "mean"
  | .count => "count"
  | .nUnique => "n_unique"
  | .list => "list"
  | .first => "first"
  | .last => "last"
  | .min => "min"
  | .max => "max"
  | .unknown name => name

def Aggregation.all : List Aggregation :=
  [.sum, .mean, .count, .nUnique, .list, .first, .last, .min, .max]

def Aggregation.ofMethod? (method : Text) : Option Aggregation :=
  Aggregation.all.find? fun aggregation => aggregation.method == method

inductive GroupingError where
  | keyMissing (name : Literal)
  | columnMissing (name : Literal)
  | notNumeric (aggregation : Aggregation) (type : ColumnType)
  | unknownAggregation (name : Text)

def GroupingError.message : GroupingError → Text
  | .keyMissing name => "Group by key column '" ++ name.display ++ "' not found in DataFrame"
  | .columnMissing name => "Aggregation column '" ++ name.display ++ "' not found in DataFrame"
  | .notNumeric aggregation type =>
    "Cannot apply " ++ aggregation.method ++ " to type " ++ type.text ++ ": " ++
      aggregation.method ++ " requires numeric type"
  | .unknownAggregation name => "Unknown aggregation function: " ++ name

def GroupingError.isWritable : GroupingError → Bool
  | .keyMissing name => name.isWritable
  | .columnMissing name => name.isWritable
  | .notNumeric _ type => type.isWritable
  | .unknownAggregation _ => true

abbrev GroupingError.failure (error : GroupingError) : Failure GroupingError :=
  .of GroupingError.isWritable error

def isSummable : ColumnType → Bool
  | .int64 | .int32 | .uint32 | .uint64 | .float64 | .float32 => true
  | _ => false

def isNumeric (type : ColumnType) : Bool :=
  isSummable type.base

def Aggregation.resultType (aggregation : Aggregation) (type : ColumnType) :
    Except (Failure GroupingError) ColumnType :=
  match aggregation with
  | .sum =>
    if isNumeric type then .ok type else .error (GroupingError.notNumeric .sum type).failure
  | .mean =>
    if isNumeric type then .ok (ColumnType.float64.nullableIf type.isNullable)
    else .error (GroupingError.notNumeric .mean type).failure
  | .count | .nUnique => .ok .uint32
  | .list => .ok (.list type)
  | .first | .last | .min | .max => .ok type
  | .unknown name => .error (GroupingError.unknownAggregation name).failure

structure AggregationColumn where
  column : Literal
  aggregation : Aggregation
  label : Option Literal := none

def AggregationColumn.outputName (item : AggregationColumn) : Literal :=
  item.label.getD item.column

def addKey (frame : Frame) (columns : Columns) (key : Literal) :
    Except (Failure GroupingError) Columns :=
  match frame.column? key with
  | some type => .ok (columns.insert key type)
  | none => .error (GroupingError.keyMissing key).failure

def addAggregation (frame : Frame) (columns : Columns) (item : AggregationColumn) :
    Except (Failure GroupingError) Columns :=
  match frame.column? item.column with
  | some type => do return columns.insert item.outputName (← item.aggregation.resultType type)
  | none => .error (GroupingError.columnMissing item.column).failure

/-- The frame of a grouped aggregation. Keys are looked at before aggregations. -/
def aggregate (frame : Frame) (keys : List Literal) (items : List AggregationColumn) :
    Except (Failure GroupingError) Frame := do
  let keyColumns ← keys.foldlM (addKey frame) .empty
  return { columns := ← items.foldlM (addAggregation frame) keyColumns }

end FrameCheck.Typing
