import FrameCheck.Frame
import FrameCheck.Schema.Error
import FrameCheck.Text.CharClass

/-!
Reading schema texts such as `{id: Int64, tags: List[Utf8?]}`.

A type is a scalar name, `List[type]` or `Struct` with fields in braces, and may end in one
question mark; blanks may stand between the parts, but not inside `List[`. A schema is a list
of fields in braces. A name that occurs again keeps its place and takes the later type.
-/

namespace FrameCheck.Schema

structure Cursor where
  rest : List CodePoint
  position : Nat := 0

def Cursor.ofText (text : Text) : Cursor := { rest := text.points }

def Cursor.advance (cursor : Cursor) (count : Nat) : Cursor :=
  ⟨cursor.rest.drop count, cursor.position + (cursor.rest.take count).length⟩

/-- A reader moves the cursor also when it fails. -/
abbrev Reader := EStateM Error Cursor

def skipBlanks : Reader Unit :=
  modify fun cursor => cursor.advance (cursor.rest.takeWhile (CodePoint.meets Text.isBlank)).length

def peek : Reader (Option CodePoint) := do
  skipBlanks
  return (← get).rest.head?

/-- Whether a code point is the one that was asked for. An empty request is none. -/
def meets (expected : Option Text) (point : CodePoint) : Bool :=
  match expected with
  | none => true
  | some text => text.isEmpty || text == .ofPoint point

def consume (expected : Option Text) : Reader CodePoint := do
  skipBlanks
  let cursor ← get
  match cursor.rest with
  | [] => throw (.unexpectedEnd expected)
  | point :: _ =>
    if meets expected point then
      set (cursor.advance 1)
      return point
    else
      throw (.unexpectedChar (expected.getD {}) point cursor.position)

def identifier : Reader Text := do
  skipBlanks
  let cursor ← get
  let word := cursor.rest.takeWhile (CodePoint.meets Text.isWord)
  if word.isEmpty then
    throw (.expectedIdentifier cursor.position)
  else
    set (cursor.advance word.length)
    return ⟨word⟩

def namedTypes : List (Text × ColumnType) :=
  [("Int64", .scalar .int64), ("Int32", .scalar .int32), ("UInt32", .scalar .uint32),
    ("UInt64", .scalar .uint64), ("Float32", .scalar .float32), ("Float64", .scalar .float64),
    ("Utf8", .scalar .utf8), ("String", .scalar .utf8), ("Boolean", .scalar .boolean),
    ("Date", .scalar .date), ("Datetime", .datetime none), ("Duration", .scalar .duration),
    ("Categorical", .scalar .categorical)]

def namedType : Reader ColumnType := do
  let name ← identifier
  match namedTypes.lookup name with
  | some type => return type
  | none => throw (.unknownType name)

def questionMark (type : ColumnType) : Reader ColumnType := do
  skipBlanks
  let cursor ← get
  match cursor.rest with
  | .char '?' :: _ =>
    set (cursor.advance 1)
    return .nullable type
  | _ => return type

abbrev FieldEntries := List (Text × ColumnType)

def field (readType : Reader ColumnType) : Reader (Text × ColumnType) := do
  let name ← identifier
  let _ ← consume (some ":")
  let type ← readType
  return (name, type)

/-- Read fields as long as commas follow. Each of them takes at least one code point, so
that `steps` never runs out when it exceeds the number of those left. -/
def fieldsFrom (readType : Reader ColumnType) : (steps : Nat) → Reader FieldEntries
  | 0 => return []
  | steps + 1 => do
    let first ← field readType
    match ← peek with
    | some (.char ',') =>
      let _ ← consume (some ",")
      let others ← fieldsFrom readType steps
      return first :: others
    | _ => return [first]

def fieldEntries (readType : Reader ColumnType) : Reader FieldEntries := do
  match ← peek with
  | some (.char '\x7d') => return []
  | _ =>
    let cursor ← get
    fieldsFrom readType (cursor.rest.length + 1)

def toFields (entries : FieldEntries) : Fields :=
  entries.foldl (fun fields entry => fields.insert entry.1 entry.2) .nil

def toFrame (entries : FieldEntries) : Frame :=
  .ofList (entries.map fun entry => (.text entry.1, entry.2))

def listOpening : Text := "List["

def structOpening : Text := "Struct\x7b"

def typeWithin : (depth : Nat) → Reader ColumnType
  | 0 => throw .tooDeep
  | depth + 1 => do
    skipBlanks
    let cursor ← get
    if listOpening.points.isPrefixOf cursor.rest then
      set (cursor.advance listOpening.length)
      let element ← typeWithin depth
      let _ ← consume (some "]")
      questionMark (.list element)
    else if structOpening.points.isPrefixOf cursor.rest then
      set (cursor.advance structOpening.length)
      let entries ← fieldEntries (typeWithin depth)
      let _ ← consume (some "\x7d")
      questionMark (.struct (toFields entries))
    else
      questionMark (← namedType)

def nestingLimit : Nat := 500

def type : Reader ColumnType :=
  typeWithin nestingLimit

def fields : Reader Fields := do
  return toFields (← fieldEntries type)

def schema : Reader Frame := do
  let _ ← consume (some "\x7b")
  let entries ← fieldEntries type
  let _ ← consume (some "\x7d")
  return toFrame entries

def readAll (subject : Subject) (reader : Reader α) (text : Text) : Except Error α :=
  let start : Cursor := { rest := Text.strip text.points }
  match (do let result ← reader; skipBlanks; return result : Reader α) start with
  | .error error _ => .error error
  | .ok result cursor =>
    if cursor.rest.isEmpty then .ok result
    else .error (.trailing subject ⟨cursor.rest⟩)

def parseType (text : Text) : Except Error ColumnType :=
  readAll .type type text

def parseSchema (text : Text) : Except Error Frame :=
  readAll .schema schema text

end FrameCheck.Schema
