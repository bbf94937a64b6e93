import FrameCheck.ColumnType
import FrameCheck.Table

/-! Frames: named columns in order, and perhaps a variable for further ones. -/

namespace FrameCheck

abbrev Columns := Table Literal ColumnType

structure Frame where
  columns : Columns := .empty
  rest : Option Text := none

namespace Frame

instance : Inhabited Frame := ⟨{}⟩

def ofList (columns : List (Literal × ColumnType)) : Frame :=
  { columns := Table.ofList columns }

def names (frame : Frame) : List Literal :=
  frame.columns.keys

def column? (frame : Frame) (name : Literal) : Option ColumnType :=
  frame.columns.get? name

def hasColumn (frame : Frame) (name : Literal) : Bool :=
  frame.columns.contains name

def sameColumns (left right : Frame) : Bool :=
  Table.sameBy ColumnType.same left.columns right.columns

def same (left right : Frame) : Bool :=
  left.sameColumns right && left.rest == right.rest

def construction (frame : Frame) : Text :=
  let columns : List Text := frame.columns.entries.map fun column =>
    column.1.quoted ++ ": " ++ column.2.construction
  let rest : Text := match frame.rest with
    | none => "None"
    | some name => "RowVar(name=" ++ Text.quoted name ++ ")"
  "FrameType(columns=\x7b" ++ Text.intercalate ", " columns ++ "\x7d, rest=" ++ rest ++ ")"

end Frame

end FrameCheck
