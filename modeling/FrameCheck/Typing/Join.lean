import FrameCheck.Typing.Failure

/-!
Types of joins. The columns of the left frame come first. Those of the right frame follow;
one whose name is taken gets `_right` appended. Rows without a partner leave nulls on the
side that has none.
-/

namespace FrameCheck.Typing

/-- The sides whose rows are all kept. Any other word than those four joins like `inner`. -/
inductive JoinKind where
  | inner
  | left
  | right
  | full
deriving DecidableEq, Repr

def JoinKind.ofName (name : Text) : JoinKind :=
  if name = "left" then .left
  else if name = "right" then .right
  else if name = "full" then .full
  else .inner

def JoinKind.ofLiteral : Literal → JoinKind
  | .text name => .ofName name
  | _ => .inner

def JoinKind.keepsRight : JoinKind → Bool
  | .right | .full => true
  | .inner | .left => false

def JoinKind.keepsLeft : JoinKind → Bool
  | .left | .full => true
  | .inner | .right => false

/-- How a join is asked for. A literal `None` counts as not given. -/
structure JoinRequest where
  on : Option Literal := none
  leftOn : Option Literal := none
  rightOn : Option Literal := none
  kind : JoinKind := .inner

inductive JoinKeys where
  | shared (name : Literal)
  | separate (left right : Literal)

def JoinKeys.left : JoinKeys → Literal
  | .shared name => name
  | .separate name _ => name

def JoinKeys.right : JoinKeys → Literal
  | .shared name => name
  | .separate _ name => name

def JoinRequest.keys? (request : JoinRequest) : Option JoinKeys :=
  match request.on, request.leftOn, request.rightOn with
  | some name, _, _ => some (.shared name)
  | none, some left, some right => some (.separate left right)
  | none, _, _ => none

inductive JoinError where
  | noKeys
  | leftKeyMissing (name : Literal)
  | rightKeyMissing (name : Literal)
  | keyTypes (left : Literal) (leftType : ColumnType) (right : Literal) (rightType : ColumnType)

def JoinError.message : JoinError → Text
  | .noKeys => "Must specify either 'on' or both 'left_on' and 'right_on'"
  | .leftKeyMissing name => "Column '" ++ name.display ++ "' not found in left frame"
  | .rightKeyMissing name => "Column '" ++ name.display ++ "' not found in right frame"
  | .keyTypes left leftType right rightType =>
    "Join key dtype mismatch: left '" ++ left.display ++ "' is " ++ leftType.text ++
      ", right '" ++ right.display ++ "' is " ++ rightType.text

def JoinError.isWritable : JoinError → Bool
  | .noKeys => true
  | .leftKeyMissing name => name.isWritable
  | .rightKeyMissing name => name.isWritable
  | .keyTypes left leftType right rightType =>
    left.isWritable && leftType.isWritable && right.isWritable && rightType.isWritable

abbrev JoinError.failure (error : JoinError) : Failure JoinError :=
  .of JoinError.isWritable error

def nullableWhen (condition : Bool) (type : ColumnType) : ColumnType :=
  if condition then type.makeNullable else type

def JoinKeys.isShared (keys : JoinKeys) (name : Literal) : Bool :=
  match keys with
  | .shared key => name == key
  | .separate _ _ => false

/-- The type of a left column in the result. The shared key of a right join comes from the
right frame. -/
def leftColumnType (keys : JoinKeys) (kind : JoinKind) (rightKeyType : ColumnType)
    (name : Literal) (type : ColumnType) : ColumnType :=
  if keys.isShared name then
    match kind with
    | .full => type.makeNullable
    | .right => rightKeyType
    | .inner | .left => type
  else
    nullableWhen kind.keepsRight type

def rightColumnName (columns : Columns) (name : Literal) : Literal :=
  if columns.contains name then .text (name.display ++ "_right") else name

/-- Place one column of the right frame after the columns that are there; the shared key is one
of them already. The new name of a column holds its old one, which has to be written. -/
def placeRightColumn (keys : JoinKeys) (kind : JoinKind) (columns : Columns)
    (column : Literal × ColumnType) : Except (Failure JoinError) Columns :=
  if keys.isShared column.1 then .ok columns
  else if columns.contains column.1 && !column.1.isWritable then .error .longNumber
  else
    .ok (columns.insert (rightColumnName columns column.1) (nullableWhen kind.keepsLeft column.2))

def join (left right : Frame) (request : JoinRequest) : Except (Failure JoinError) Frame := do
  let some keys := request.keys? | throw JoinError.noKeys.failure
  let some leftType := left.column? keys.left | throw (JoinError.leftKeyMissing keys.left).failure
  let some rightType := right.column? keys.right
    | throw (JoinError.rightKeyMissing keys.right).failure
  if leftType.base.same rightType.base then
    let columns ← right.columns.entries.foldlM (placeRightColumn keys request.kind)
      (left.columns.mapValues (leftColumnType keys request.kind rightType))
    return { columns := columns }
  else
    throw (JoinError.keyTypes keys.left leftType keys.right rightType).failure

end FrameCheck.Typing
