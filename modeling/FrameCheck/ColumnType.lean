import FrameCheck.Literal

/-!
Types of columns. The fields of a struct are written in some order, which does not matter
for the type: types are the same when their canonical forms, with fields sorted by name,
are equal.
-/

namespace FrameCheck

inductive Scalar where
  | int64
  | int32
  | uint32
  | uint64
  | float32
  | float64
  | utf8
  | boolean
  | date
  | duration
  | categorical
  | null
deriving DecidableEq, Repr

def Scalar.name : Scalar → String
  | .int64 => "Int64"
  | .int32 => "Int32"
  | .uint32 => "UInt32"
  | .uint64 => "UInt64"
  | .float32 => "Float32"
  | .float64 => "Float64"
  | .utf8 => "Utf8"
  | .boolean => "Boolean"
  | .date => "Date"
  | .duration => "Duration"
  | .categorical => "Categorical"
  | .null => "Null"

mutual

inductive ColumnType where
  | scalar (kind : Scalar)
  | datetime (zone : Option Text)
  | decimal (precision scale : Int)
  | nullable (inner : ColumnType)
  | list (element : ColumnType)
  | struct (fields : Fields)

inductive Fields where
  | nil
  | cons (name : Text) (type : ColumnType) (rest : Fields)

end

deriving instance DecidableEq for ColumnType
deriving instance DecidableEq for Fields

namespace ColumnType

instance : Inhabited ColumnType := ⟨.scalar .null⟩

@[match_pattern] abbrev int64 : ColumnType := .scalar .int64
@[match_pattern] abbrev int32 : ColumnType := .scalar .int32
@[match_pattern] abbrev uint32 : ColumnType := .scalar .uint32
@[match_pattern] abbrev uint64 : ColumnType := .scalar .uint64
@[match_pattern] abbrev float32 : ColumnType := .scalar .float32
@[match_pattern] abbrev float64 : ColumnType := .scalar .float64
@[match_pattern] abbrev utf8 : ColumnType := .scalar .utf8
@[match_pattern] abbrev boolean : ColumnType := .scalar .boolean
@[match_pattern] abbrev null : ColumnType := .scalar .null

end ColumnType

namespace Fields

def ofList : List (Text × ColumnType) → Fields
  | [] => .nil
  | (name, type) :: rest => .cons name type (ofList rest)

def toList : Fields → List (Text × ColumnType)
  | .nil => []
  | .cons name type rest => (name, type) :: rest.toList

/-- Write a field: a known name keeps its place and takes the new type. -/
def insert (name : Text) (type : ColumnType) : Fields → Fields
  | .nil => .cons name type .nil
  | .cons other otherType rest =>
    if other = name then .cons other type rest else .cons other otherType (insert name type rest)

def insertSorted (name : Text) (type : ColumnType) : Fields → Fields
  | .nil => .cons name type .nil
  | .cons other otherType rest =>
    if name ≤ other then .cons name type (.cons other otherType rest)
    else .cons other otherType (insertSorted name type rest)

end Fields

/-! Canonical forms: the fields of every struct sorted by name. -/

mutual

def ColumnType.canonical : ColumnType → ColumnType
  | .scalar kind => .scalar kind
  | .datetime zone => .datetime zone
  | .decimal precision scale => .decimal precision scale
  | .nullable inner => .nullable inner.canonical
  | .list element => .list element.canonical
  | .struct fields => .struct fields.canonical

def Fields.canonical : Fields → Fields
  | .nil => .nil
  | .cons name type rest => rest.canonical.insertSorted name type.canonical

end

def ColumnType.same (left right : ColumnType) : Bool :=
  left.canonical = right.canonical

/-! The text of a type: struct fields stand in the order of their names. -/

def insertNamed (name text : Text) : List (Text × Text) → List (Text × Text)
  | [] => [(name, text)]
  | other :: rest =>
    if name ≤ other.1 then (name, text) :: other :: rest else other :: insertNamed name text rest

mutual

def ColumnType.text : ColumnType → Text
  | .scalar kind => kind.name
  | .datetime none => "Datetime"
  | .datetime (some zone) => if zone.isEmpty then "Datetime" else "Datetime[" ++ zone ++ "]"
  | .decimal precision scale => "Decimal(" ++ toString precision ++ ", " ++ toString scale ++ ")"
  | .nullable inner => inner.text ++ "?"
  | .list element => "List[" ++ element.text ++ "]"
  | .struct fields =>
    let texts : List Text := fields.sortedTexts.map fun field => field.1 ++ ": " ++ field.2
    "Struct\x7b" ++ Text.intercalate ", " texts ++ "\x7d"

def Fields.sortedTexts : Fields → List (Text × Text)
  | .nil => []
  | .cons name type rest => insertNamed name type.text rest.sortedTexts

end

/-! Whether the text of a type can be written: its whole numbers may have too many digits. -/

mutual

def ColumnType.isWritable : ColumnType → Bool
  | .scalar _ => true
  | .datetime _ => true
  | .decimal precision scale => Literal.writableWhole precision && Literal.writableWhole scale
  | .nullable inner => inner.isWritable
  | .list element => element.isWritable
  | .struct fields => fields.areWritable

def Fields.areWritable : Fields → Bool
  | .nil => true
  | .cons _ type rest => type.isWritable && rest.areWritable

end

/-! The construction of a type, as an expression that builds it: struct fields keep the
order in which they were written. -/

mutual

def ColumnType.construction : ColumnType → Text
  | .scalar kind => kind.name ++ "()"
  | .datetime none => "Datetime(tz=None)"
  | .datetime (some zone) => "Datetime(tz=" ++ Text.quoted zone ++ ")"
  | .decimal precision scale =>
    "Decimal(precision=" ++ toString precision ++ ", scale=" ++ toString scale ++ ")"
  | .nullable inner => "Nullable(inner=" ++ inner.construction ++ ")"
  | .list element => "List(inner=" ++ element.construction ++ ")"
  | .struct fields => "Struct(fields=\x7b" ++ Text.intercalate ", " fields.constructions ++ "\x7d)"

def Fields.constructions : Fields → List Text
  | .nil => []
  | .cons name type rest => (Text.quoted name ++ ": " ++ type.construction) :: rest.constructions

end

namespace ColumnType

/-! Nullability. -/

def isNullable : ColumnType → Bool
  | .nullable _ => true
  | _ => false

/-- The type without one outer `nullable`. -/
def base : ColumnType → ColumnType
  | .nullable inner => inner
  | type => type

def makeNullable : ColumnType → ColumnType
  | .nullable inner => .nullable inner
  | type => .nullable type

def nullableIf (condition : Bool) (type : ColumnType) : ColumnType :=
  if condition then .nullable type else type

/-! Counts of types. -/

/-- Count a type once more; the spelling that came first stays. -/
def countIn (type : ColumnType) : List (ColumnType × Nat) → List (ColumnType × Nat)
  | [] => [(type, 1)]
  | (other, count) :: rest =>
    if other.same type then (other, count + 1) :: rest else (other, count) :: type.countIn rest

def tally (types : List ColumnType) : List (ColumnType × Nat) :=
  types.foldl (fun counts type => type.countIn counts) []

end ColumnType

end FrameCheck
