import FrameCheck.Frame

/-! Columns, frames and schema texts of a chosen size. -/

namespace FrameCheck.Workload

def cycled (items : List α) (default : α) (index : Nat) : α :=
  items.getD (index % items.length) default

def namedTypes : List ColumnType :=
  [.int64, .int32, .uint32, .uint64, .float32, .float64, .utf8, .boolean, .scalar .date,
    .datetime none, .scalar .duration, .scalar .categorical]

def simpleTypes : List ColumnType :=
  [.int64, .int32, .uint32, .uint64, .float32, .float64, .utf8, .boolean, .scalar .date,
    .datetime none, .datetime (some "UTC"), .scalar .duration, .scalar .categorical, .null,
    .decimal 10 2]

def namedType (index : Nat) : ColumnType :=
  cycled namedTypes .int64 index

/-- The type inside a list at every fifth index, and inside a struct at every seventh. -/
def nestedType (index : Nat) (type : ColumnType) : ColumnType :=
  let listed := if index % 5 = 0 then .list type else type
  if index % 7 = 0 then .struct (.ofList [("a", .int64), ("b", listed)]) else listed

structure ColumnStyle where
  nullable : Bool := false
  nested : Bool := false

def sampleType (style : ColumnStyle) (index : Nat) : ColumnType :=
  let type := if style.nested then nestedType index (namedType index) else namedType index
  if style.nullable && index % 3 = 0 then .nullable type else type

def numbered (name : Text) (type : Nat → ColumnType) (count : Nat) : List (Text × ColumnType) :=
  (List.range count).map fun index => (name ++ toString index, type index)

def schemaOf (columns : List (Text × ColumnType)) : Text :=
  let fields : List Text := columns.map fun (name, type) => name ++ ": " ++ type.text
  "\x7b" ++ Text.intercalate ", " fields ++ "\x7d"

def schemaText (style : ColumnStyle) (count : Nat) : Text :=
  schemaOf (numbered "c" (sampleType style) count)

def frameOf (columns : List (Text × ColumnType)) : Frame :=
  .ofList (columns.map fun (name, type) => (.text name, type))

end FrameCheck.Workload
