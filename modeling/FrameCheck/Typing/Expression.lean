import FrameCheck.Frame

/-!
Types of column expressions: references, literals, arithmetic, casts and conditional
choices. Null values spread: an operand that may be null makes the result nullable.
-/

namespace FrameCheck.Typing

/-! References and literals. -/

structure ColumnNotFound where
  name : Literal
  available : List Literal

def ColumnNotFound.message (error : ColumnNotFound) : Text :=
  "Column '" ++ error.name.display ++ "' not found. Available columns: [" ++
    Text.intercalate ", " (error.available.map Literal.quoted) ++ "]"

def ColumnNotFound.isWritable (error : ColumnNotFound) : Bool :=
  error.name.isWritable && error.available.all Literal.isWritable

def columnType (name : Literal) (frame : Frame) : Except ColumnNotFound ColumnType :=
  match frame.column? name with
  | some type => .ok type
  | none => .error ⟨name, frame.names⟩

inductive LiteralKind where
  | none
  | bool
  | int
  | float
  | text
  | other (name : Text)

structure UnsupportedLiteral where
  kind : Text

def UnsupportedLiteral.message (error : UnsupportedLiteral) : Text :=
  "Unsupported literal type: " ++ error.kind

def literalType : LiteralKind → Except UnsupportedLiteral ColumnType
  | .none => .ok .null
  | .bool => .ok .boolean
  | .int => .ok .int64
  | .float => .ok .float64
  | .text => .ok .utf8
  | .other name => .error ⟨name⟩

def literalKind : Literal → LiteralKind
  | .none => .none
  | .bool _ => .bool
  | .int _ => .int
  | .float _ => .float
  | .imaginary _ => .other "complex"
  | .text _ => .text
  | .bytes _ => .other "bytes"
  | .ellipsis => .other "ellipsis"

/-! Arithmetic. -/

def numericRank? : ColumnType → Option Nat
  | .int32 => some 1
  | .int64 => some 2
  | .float32 => some 3
  | .float64 => some 4
  | _ => none

def isArithmetic (type : ColumnType) : Bool :=
  (numericRank? type).isSome

def isFloat : ColumnType → Bool
  | .float32 => true
  | .float64 => true
  | _ => false

/-- The common type of two arithmetic types: a whole and a floating one meet in the widest,
two of a kind in the wider. -/
def widen (left right : ColumnType) : ColumnType :=
  if isFloat left != isFloat right then .float64
  else if (numericRank? right).getD 0 ≤ (numericRank? left).getD 0 then left
  else right

structure Incompatible where
  left : ColumnType
  right : ColumnType

def Incompatible.promotionMessage (error : Incompatible) : Text :=
  "Cannot promote types " ++ error.left.text ++ " and " ++ error.right.text ++
    " for arithmetic operation"

def Incompatible.unificationMessage (error : Incompatible) : Text :=
  "Cannot unify types " ++ error.left.text ++ " and " ++ error.right.text

def promote (left right : ColumnType) : Except Incompatible ColumnType :=
  match left, right with
  | .null, .null => .ok .null
  | .null, right => .ok (.nullable right.base)
  | left, .null => .ok (.nullable left.base)
  | left, right =>
    if isArithmetic left.base && isArithmetic right.base then
      .ok ((widen left.base right.base).nullableIf (left.isNullable || right.isNullable))
    else
      .error ⟨left, right⟩

def unify (left right : ColumnType) : Except Incompatible ColumnType :=
  match left, right with
  | .null, .null => .ok .null
  | .null, right => .ok (.nullable right.base)
  | left, .null => .ok (.nullable left.base)
  | left, right =>
    let nullable := left.isNullable || right.isNullable
    if left.base.same right.base then
      .ok (left.base.nullableIf nullable)
    else if isArithmetic left.base && isArithmetic right.base then
      .ok ((widen left.base right.base).nullableIf nullable)
    else
      .error ⟨left, right⟩

/-! Casts and conditional choices. -/

/-- The type of a cast: the target, nullable as soon as one side is. -/
def cast (source target : ColumnType) : ColumnType :=
  target.base.nullableIf (source.isNullable || target.isNullable)

inductive ChoiceError where
  | condition (type : ColumnType)
  | branches (error : Incompatible)

def ChoiceError.message : ChoiceError → Text
  | .condition type => "Condition must be Boolean, got " ++ type.text
  | .branches error => error.unificationMessage

/-- The type of a choice between two branches. A condition that may be null makes the
result nullable. -/
def choice (condition consequent alternative : ColumnType) : Except ChoiceError ColumnType :=
  match condition.base with
  | .boolean =>
    match unify consequent alternative with
    | .error error => .error (.branches error)
    | .ok unified => .ok (if condition.isNullable then .nullable unified.base else unified)
  | _ => .error (.condition condition)

end FrameCheck.Typing
