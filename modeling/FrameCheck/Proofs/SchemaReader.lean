import FrameCheck.Proofs.Steps
import FrameCheck.Schema.Reader

/-!
The readers of schema texts, one equation for each: where they leave the cursor and what they
yield.
-/

namespace FrameCheck.Schema

abbrev isBlankPoint : CodePoint → Bool := CodePoint.meets Text.isBlank

def Cursor.skipped (cursor : Cursor) : Cursor :=
  cursor.advance (cursor.rest.takeWhile isBlankPoint).length

@[simp] theorem Cursor.rest_advance (cursor : Cursor) (count : Nat) :
    (cursor.advance count).rest = cursor.rest.drop count := rfl

theorem drop_length_takeWhile (property : α → Bool) (items : List α) :
    items.drop (items.takeWhile property).length = items.dropWhile property := by
  induction items with
  | nil => rfl
  | cons first rest inRest =>
    cases holds : property first <;> simp [holds, inRest]

@[simp] theorem Cursor.rest_skipped (cursor : Cursor) :
    cursor.skipped.rest = cursor.rest.dropWhile isBlankPoint :=
  drop_length_takeWhile isBlankPoint cursor.rest

theorem skipBlanks_run (cursor : Cursor) : skipBlanks cursor = .ok ⟨⟩ cursor.skipped := rfl

theorem peek_run (cursor : Cursor) :
    peek cursor = .ok cursor.skipped.rest.head? cursor.skipped := rfl

theorem meets_ofPoint (expected point : CodePoint) :
    meets (some (.ofPoint expected)) point = decide (expected = point) := by
  rw [Bool.eq_iff_iff]
  simp [meets, Text.isEmpty, Text.ofPoint]

theorem consume_run (expected : Option Text) (cursor : Cursor) :
    consume expected cursor =
      (match cursor.skipped.rest with
      | [] => throw (.unexpectedEnd expected)
      | point :: _ =>
        if meets expected point then do
          set (cursor.skipped.advance 1)
          return point
        else throw (.unexpectedChar (expected.getD {}) point cursor.skipped.position) :
        Reader CodePoint) cursor.skipped :=
  rfl

theorem consume_of_next {expected : CodePoint} {cursor : Cursor} {rest : List CodePoint}
    (next : cursor.skipped.rest = expected :: rest) :
    consume (some (.ofPoint expected)) cursor = .ok expected (cursor.skipped.advance 1) := by
  rw [consume_run]
  simp only [next, meets_ofPoint, decide_true, if_true]
  rfl

theorem next_of_consume {expected point : CodePoint} {cursor after : Cursor}
    (run : consume (some (.ofPoint expected)) cursor = .ok point after) :
    cursor.skipped.rest = expected :: after.rest := by
  rw [consume_run] at run
  cases next : cursor.skipped.rest with
  | nil =>
    simp only [next] at run
    cases run
  | cons first rest =>
    simp only [next, meets_ofPoint] at run
    split at run
    next isExpected =>
      cases run
      rw [Cursor.rest_advance, next, of_decide_eq_true isExpected]
      rfl
    next => cases run

abbrev isWordPoint : CodePoint → Bool := CodePoint.meets Text.isWord

theorem identifier_run (cursor : Cursor) :
    identifier cursor =
      if (cursor.skipped.rest.takeWhile isWordPoint).isEmpty then
        .error (.expectedIdentifier cursor.skipped.position) cursor.skipped
      else
        .ok ⟨cursor.skipped.rest.takeWhile isWordPoint⟩
          (cursor.skipped.advance (cursor.skipped.rest.takeWhile isWordPoint).length) := by
  rw [identifier, Steps.bind_of_ok (skipBlanks_run cursor)]
  show (if _ then _ else _ : Reader Text) cursor.skipped = _
  split <;> rfl

theorem ifMarked (rest : List CodePoint) (marked unmarked : Reader ColumnType) :
    (match rest with
      | .char '?' :: _ => marked
      | _ => unmarked) =
      if rest.head? = some (.char '?') then marked else unmarked := by
  split
  next => simp
  next notMark =>
    rw [if_neg]
    intro isMark
    obtain ⟨others, next⟩ := List.head?_eq_some_iff.mp isMark
    exact notMark others next

theorem questionMark_run (type : ColumnType) (cursor : Cursor) :
    questionMark type cursor =
      if cursor.skipped.rest.head? = some (.char '?') then
        .ok (.nullable type) (cursor.skipped.advance 1)
      else .ok type cursor.skipped := by
  rw [questionMark, Steps.bind_of_ok (skipBlanks_run cursor)]
  show (match cursor.skipped.rest with
    | .char '?' :: _ => _
    | _ => _ : Reader ColumnType) cursor.skipped = _
  rw [ifMarked]
  split <;> rfl

theorem ifClosed (point : Option CodePoint) (closed others : Reader FieldEntries) :
    (match point with
      | some (.char '\x7d') => closed
      | _ => others) =
      if point = some (.char '\x7d') then closed else others := by
  split
  next => rfl
  next notClosing => rw [if_neg notClosing]

theorem fieldEntries_run (readType : Reader ColumnType) (cursor : Cursor) :
    fieldEntries readType cursor =
      if cursor.skipped.rest.head? = some (.char '\x7d') then .ok [] cursor.skipped
      else fieldsFrom readType (cursor.skipped.rest.length + 1) cursor.skipped := by
  rw [fieldEntries, Steps.bind_of_ok (peek_run cursor)]
  show (match cursor.skipped.rest.head? with
    | some (.char '\x7d') => _
    | _ => _ : Reader FieldEntries) cursor.skipped = _
  rw [ifClosed]
  split <;> rfl

theorem fieldsFrom_succ (readType : Reader ColumnType) (steps : Nat) :
    fieldsFrom readType (steps + 1) = (do
      let first ← field readType
      let next ← peek
      if next = some (.char ',') then
        let _ ← consume (some (.ofPoint (.char ',')))
        let others ← fieldsFrom readType steps
        return first :: others
      else return [first]) := by
  rw [fieldsFrom]
  refine bind_congr fun first => bind_congr fun next => ?_
  split
  next => rfl
  next notComma => rw [if_neg notComma]

theorem readAll_eq_ok_iff {subject : Subject} {reader : Reader α} {text : Text} {result : α} :
    readAll subject reader text = .ok result ↔
      ∃ after, reader { rest := Text.strip text.points } = .ok result after ∧
        after.skipped.rest = [] := by
  simp only [readAll]
  cases isRead : reader { rest := Text.strip text.points } with
  | error error after => simp [Steps.bind_of_error isRead]
  | ok value after =>
    rw [Steps.bind_of_ok isRead, Steps.bind_of_ok (skipBlanks_run after)]
    simp only [pure, EStateM.pure, List.isEmpty_iff]
    constructor
    · intro taken
      split at taken
      next allRead =>
        cases taken
        exact ⟨after, rfl, allRead⟩
      · cases taken
    · rintro ⟨_, same, allRead⟩
      cases same
      rw [if_pos allRead]

/-! ## Types without their question mark -/

def listBody (readType : Reader ColumnType) : Reader ColumnType := do
  let element ← readType
  let _ ← consume (some (.ofPoint (.char ']')))
  return .list element

def structBody (readType : Reader ColumnType) : Reader ColumnType := do
  let entries ← fieldEntries readType
  let _ ← consume (some (.ofPoint (.char '\x7d')))
  return .struct (toFields entries)

def core (readType : Reader ColumnType) : Reader ColumnType := do
  skipBlanks
  let cursor ← get
  if listOpening.points.isPrefixOf cursor.rest then
    set (cursor.advance listOpening.length)
    listBody readType
  else if structOpening.points.isPrefixOf cursor.rest then
    set (cursor.advance structOpening.length)
    structBody readType
  else
    namedType

/-- How a type is read is told by how its text starts. -/
theorem core_run (readType : Reader ColumnType) (cursor : Cursor) :
    core readType cursor =
      if listOpening.points.isPrefixOf cursor.skipped.rest then
        listBody readType (cursor.skipped.advance listOpening.points.length)
      else if structOpening.points.isPrefixOf cursor.skipped.rest then
        structBody readType (cursor.skipped.advance structOpening.points.length)
      else namedType cursor.skipped := by
  rw [core, Steps.bind_of_ok (skipBlanks_run cursor)]
  show (if _ then _ else _ : Reader ColumnType) cursor.skipped = _
  split
  · rfl
  · split <;> rfl

theorem typeWithin_succ (depth : Nat) :
    typeWithin (depth + 1) = core (typeWithin depth) >>= questionMark := by
  funext cursor
  rw [typeWithin, core]
  simp only [bind_assoc]
  rw [Steps.bind_of_ok (skipBlanks_run cursor), Steps.bind_of_ok (skipBlanks_run cursor)]
  show (if _ then _ else _ : Reader ColumnType) cursor.skipped =
    ((if _ then _ else _ : Reader ColumnType) >>= questionMark) cursor.skipped
  split
  · simp only [listBody, bind_assoc, pure_bind]
    rfl
  · split
    · simp only [structBody, bind_assoc, pure_bind]
      rfl
    · rfl

def schemaWithin (depth : Nat) : Reader Frame := do
  let _ ← consume (some (.ofPoint (.char '\x7b')))
  let entries ← fieldEntries (typeWithin depth)
  let _ ← consume (some (.ofPoint (.char '\x7d')))
  return toFrame entries

end FrameCheck.Schema
