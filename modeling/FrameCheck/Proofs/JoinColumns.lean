import FrameCheck.Proofs.JoinOrder

/-!
The columns of a join: why it fails, where each column of its result comes from, and when all
columns of both sides are in it. A right column whose name is taken is renamed without a look
at the new name: where that is taken too, a column is overwritten.
-/

namespace FrameCheck.Typing

/-! ## Keys -/

def JoinRequest.isSharedKey (request : JoinRequest) (name : Literal) : Bool :=
  request.on.any fun key => name == key

section Keys

variable {request : JoinRequest} {keys : JoinKeys}

theorem isShared_of_keys? (isKeys : request.keys? = some keys) (name : Literal) :
    keys.isShared name = request.isSharedKey name := by
  unfold JoinRequest.keys? at isKeys
  unfold JoinRequest.isSharedKey
  split at isKeys
  next key isOn =>
    cases isKeys
    rw [isOn]
    rfl
  next isOn _ _ =>
    cases isKeys
    rw [isOn]
    rfl
  · cases isKeys

theorem names_of_keys? (isKeys : request.keys? = some keys) :
    request.on.or request.leftOn = some keys.left ∧
      request.on.or request.rightOn = some keys.right := by
  unfold JoinRequest.keys? at isKeys
  split at isKeys
  next isOn =>
    cases isKeys
    simp [isOn, JoinKeys.left, JoinKeys.right]
  next isOn isLeft isRight =>
    cases isKeys
    simp [isOn, isLeft, isRight, JoinKeys.left, JoinKeys.right]
  · cases isKeys

theorem keys?_eq_none_iff :
    request.keys? = none ↔
      request.on = none ∧ (request.leftOn = none ∨ request.rightOn = none) := by
  obtain ⟨on, leftOn, rightOn, kind⟩ := request
  cases on <;> cases leftOn <;> cases rightOn <;> simp [JoinRequest.keys?]

theorem exists_keys?_of_names {leftKey rightKey : Literal}
    (isLeft : request.on.or request.leftOn = some leftKey)
    (isRight : request.on.or request.rightOn = some rightKey) :
    ∃ keys, request.keys? = some keys ∧ keys.left = leftKey ∧ keys.right = rightKey := by
  cases isKeys : request.keys? with
  | none =>
    obtain ⟨noShared, noLeft | noRight⟩ := keys?_eq_none_iff.mp isKeys
    · simp [noShared, noLeft] at isLeft
    · simp [noShared, noRight] at isRight
  | some keys =>
    obtain ⟨isLeft', isRight'⟩ := names_of_keys? isKeys
    exact ⟨keys, rfl, Option.some.inj (isLeft'.symm.trans isLeft),
      Option.some.inj (isRight'.symm.trans isRight)⟩

theorem right_of_keys? (isKeys : request.keys? = some keys) {key : Literal}
    (isOn : request.on = some key) : keys.right = key := by
  have isRight := (names_of_keys? isKeys).2
  rw [isOn] at isRight
  exact (Option.some.inj isRight).symm

theorem notKey_of_isShared (isKeys : request.keys? = some keys) {name : Literal}
    (notShared : keys.isShared name = false) : ∀ key ∈ request.on, (name == key) = false := by
  intro key isOn
  rw [isShared_of_keys? isKeys, JoinRequest.isSharedKey, isOn] at notShared
  exact notShared

end Keys

/-! ## Failures -/

/-- Why frames cannot be joined on the keys that are asked for: these are not given, a side
lacks its key, or the types of the keys differ by more than nulls. -/
inductive Unjoinable (left right : Frame) (on leftOn rightOn : Option Literal) : Prop
  | noKeys (noShared : on = none) (notBoth : leftOn = none ∨ rightOn = none)
  | leftKeyMissing (leftKey rightKey : Literal) (isLeft : on.or leftOn = some leftKey)
      (isRight : on.or rightOn = some rightKey) (absent : left.hasColumn leftKey = false)
  | rightKeyMissing (leftKey rightKey : Literal) (isLeft : on.or leftOn = some leftKey)
      (isRight : on.or rightOn = some rightKey) (absent : right.hasColumn rightKey = false)
  | keyTypes (leftKey rightKey : Literal) (leftType rightType : ColumnType)
      (isLeft : on.or leftOn = some leftKey) (isRight : on.or rightOn = some rightKey)
      (inLeft : left.column? leftKey = some leftType)
      (inRight : right.column? rightKey = some rightType)
      (differ : leftType.base.same rightType.base = false)

/-- The first of these reasons that there is, with the error that tells it. The left key is looked
for before the right one, and both before their types. -/
inductive Obstacle (left right : Frame) (on leftOn rightOn : Option Literal) : JoinError → Prop
  | noKeys (noShared : on = none) (notBoth : leftOn = none ∨ rightOn = none) :
      Obstacle left right on leftOn rightOn .noKeys
  | leftKeyMissing (leftKey rightKey : Literal) (isLeft : on.or leftOn = some leftKey)
      (isRight : on.or rightOn = some rightKey) (absent : left.hasColumn leftKey = false) :
      Obstacle left right on leftOn rightOn (.leftKeyMissing leftKey)
  | rightKeyMissing (leftKey rightKey : Literal) (isLeft : on.or leftOn = some leftKey)
      (isRight : on.or rightOn = some rightKey) (inLeft : left.hasColumn leftKey = true)
      (absent : right.hasColumn rightKey = false) :
      Obstacle left right on leftOn rightOn (.rightKeyMissing rightKey)
  | keyTypes (leftKey rightKey : Literal) (leftType rightType : ColumnType)
      (isLeft : on.or leftOn = some leftKey) (isRight : on.or rightOn = some rightKey)
      (inLeft : left.column? leftKey = some leftType)
      (inRight : right.column? rightKey = some rightType)
      (differ : leftType.base.same rightType.base = false) :
      Obstacle left right on leftOn rightOn (.keyTypes leftKey leftType rightKey rightType)

/-- A right column other than the shared key has to be renamed, although its name is too long to
be written. -/
def RenamesLong (left right : Frame) (on : Option Literal) : Prop :=
  ∃ name ∈ right.names, left.hasColumn name = true ∧ name.isWritable = false ∧
    ∀ key ∈ on, (name == key) = false

theorem hasColumn_eq_false_iff {frame : Frame} {name : Literal} :
    frame.hasColumn name = false ↔ frame.column? name = none := by
  rw [Frame.hasColumn, Table.contains_eq, Option.isSome_eq_false_iff, Option.isNone_iff_eq_none]
  rfl

theorem hasColumn_of_column? {frame : Frame} {name : Literal} {type : ColumnType}
    (found : frame.column? name = some type) : frame.hasColumn name = true := by
  rw [← Bool.not_eq_false, hasColumn_eq_false_iff, found]
  exact nofun

theorem exists_obstacle_iff {left right : Frame} {on leftOn rightOn : Option Literal} :
    (∃ error, Obstacle left right on leftOn rightOn error) ↔
      Unjoinable left right on leftOn rightOn := by
  constructor
  · rintro ⟨error, obstacle⟩
    cases obstacle with
    | noKeys noShared notBoth => exact .noKeys noShared notBoth
    | leftKeyMissing leftKey rightKey isLeft isRight absent =>
      exact .leftKeyMissing leftKey rightKey isLeft isRight absent
    | rightKeyMissing leftKey rightKey isLeft isRight _ absent =>
      exact .rightKeyMissing leftKey rightKey isLeft isRight absent
    | keyTypes leftKey rightKey leftType rightType isLeft isRight inLeft inRight differ =>
      exact .keyTypes leftKey rightKey leftType rightType isLeft isRight inLeft inRight differ
  · intro unjoinable
    cases unjoinable with
    | noKeys noShared notBoth => exact ⟨_, .noKeys noShared notBoth⟩
    | leftKeyMissing leftKey rightKey isLeft isRight absent =>
      exact ⟨_, .leftKeyMissing leftKey rightKey isLeft isRight absent⟩
    | rightKeyMissing leftKey rightKey isLeft isRight absent =>
      -- a left key that is missing too is found first
      cases inLeft : left.hasColumn leftKey with
      | true => exact ⟨_, .rightKeyMissing leftKey rightKey isLeft isRight inLeft absent⟩
      | false => exact ⟨_, .leftKeyMissing leftKey rightKey isLeft isRight inLeft⟩
    | keyTypes leftKey rightKey leftType rightType isLeft isRight inLeft inRight differ =>
      exact ⟨_, .keyTypes leftKey rightKey leftType rightType isLeft isRight inLeft inRight differ⟩

section Failures

variable {left right : Frame} {request : JoinRequest} {error : JoinError}

theorem join_of_obstacle
    (obstacle : Obstacle left right request.on request.leftOn request.rightOn error) :
    join left right request = .error error.failure := by
  rw [join_eq]
  cases obstacle with
  | noKeys noShared notBoth => rw [keys?_eq_none_iff.mpr ⟨noShared, notBoth⟩]
  | leftKeyMissing _ _ isLeft isRight absent =>
    obtain ⟨keys, isKeys, rfl, rfl⟩ := exists_keys?_of_names isLeft isRight
    simp only [isKeys, hasColumn_eq_false_iff.mp absent]
  | rightKeyMissing _ _ isLeft isRight inLeft absent =>
    obtain ⟨keys, isKeys, rfl, rfl⟩ := exists_keys?_of_names isLeft isRight
    rw [Frame.hasColumn, Table.contains_eq, Option.isSome_iff_exists] at inLeft
    obtain ⟨leftType, found⟩ := inLeft
    have isFound : left.column? keys.left = some leftType := found
    simp only [isKeys, isFound, hasColumn_eq_false_iff.mp absent]
  | keyTypes _ _ leftType rightType isLeft isRight inLeft inRight differ =>
    obtain ⟨keys, isKeys, rfl, rfl⟩ := exists_keys?_of_names isLeft isRight
    simp [isKeys, inLeft, inRight, differ]

theorem renamesWritable_eq_false_iff {keys : JoinKeys} (isKeys : request.keys? = some keys) :
    keys.renamesWritable left right = false ↔ RenamesLong left right request.on := by
  rw [JoinKeys.renamesWritable, List.all_eq_false]
  refine exists_congr fun name => and_congr_right fun _ => ?_
  simp only [isShared_of_keys? isKeys, JoinRequest.isSharedKey, Bool.not_eq_true,
    Bool.or_eq_false_iff, Option.any_eq_false, Bool.not_eq_false']
  constructor
  · rintro ⟨⟨long, notKey⟩, inLeft⟩
    exact ⟨inLeft, long, notKey⟩
  · rintro ⟨inLeft, long, notKey⟩
    exact ⟨⟨long, notKey⟩, inLeft⟩

/-- Without an obstacle a join comes to its columns, unless a name is too long. -/
theorem join_eq_of_joinable
    (joinable : ¬ Unjoinable left right request.on request.leftOn request.rightOn) :
    ∃ keys rightType, request.keys? = some keys ∧
      right.column? keys.right = some rightType ∧
      join left right request =
        if keys.renamesWritable left right then
          .ok { columns := joinedColumns keys request.kind rightType left right }
        else .error .longNumber := by
  rw [← exists_obstacle_iff, not_exists] at joinable
  rw [join_eq]
  cases isKeys : request.keys? with
  | none =>
    obtain ⟨noShared, notBoth⟩ := keys?_eq_none_iff.mp isKeys
    exact (joinable _ (.noKeys noShared notBoth)).elim
  | some keys =>
    obtain ⟨isLeft, isRight⟩ := names_of_keys? isKeys
    cases inLeft : left.column? keys.left with
    | none =>
      exact (joinable _ (.leftKeyMissing _ _ isLeft isRight
        (hasColumn_eq_false_iff.mpr inLeft))).elim
    | some leftType =>
      cases inRight : right.column? keys.right with
      | none =>
        exact (joinable _ (.rightKeyMissing _ _ isLeft isRight (hasColumn_of_column? inLeft)
          (hasColumn_eq_false_iff.mpr inRight))).elim
      | some rightType =>
        cases fits : leftType.base.same rightType.base with
        | false =>
          exact (joinable _ (.keyTypes _ _ leftType rightType isLeft isRight inLeft inRight
            fits)).elim
        | true =>
          exact ⟨keys, rightType, rfl, inRight, by simp only [inLeft, inRight, fits, if_true]⟩

/-- A join meets an obstacle, or breaks off at a name that is too long, or succeeds. -/
theorem join_cases (left right : Frame) (request : JoinRequest) :
    (∃ error, Obstacle left right request.on request.leftOn request.rightOn error ∧
      join left right request = .error error.failure) ∨
    (¬ Unjoinable left right request.on request.leftOn request.rightOn ∧
      RenamesLong left right request.on ∧ join left right request = .error .longNumber) ∨
    (¬ Unjoinable left right request.on request.leftOn request.rightOn ∧
      ¬ RenamesLong left right request.on ∧ ∃ frame, join left right request = .ok frame) := by
  by_cases unjoinable : Unjoinable left right request.on request.leftOn request.rightOn
  · obtain ⟨error, obstacle⟩ := exists_obstacle_iff.mpr unjoinable
    exact .inl ⟨error, obstacle, join_of_obstacle obstacle⟩
  · obtain ⟨keys, rightType, isKeys, _, joined⟩ := join_eq_of_joinable unjoinable
    have renames : keys.renamesWritable left right = false ↔ RenamesLong left right request.on :=
      renamesWritable_eq_false_iff isKeys
    rw [joined]
    cases writable : keys.renamesWritable left right with
    | false => exact .inr (.inl ⟨unjoinable, renames.mp writable, rfl⟩)
    | true =>
      refine .inr (.inr ⟨unjoinable, fun long => ?_, _, rfl⟩)
      rw [renames.mpr long] at writable
      cases writable

theorem join_eq_refused_iff :
    join left right request = .error (.refused error) ↔
      Obstacle left right request.on request.leftOn request.rightOn error ∧
        error.isWritable = true := by
  constructor
  · intro refused
    rcases join_cases left right request with ⟨other, obstacle, failed⟩ | ⟨_, _, failed⟩ |
      ⟨_, _, frame, succeeded⟩
    · obtain ⟨rfl, writable⟩ :=
        Failure.of_eq_refused_iff.mp (Except.error.inj (failed.symm.trans refused))
      exact ⟨obstacle, writable⟩
    · cases failed.symm.trans refused
    · cases succeeded.symm.trans refused
  · rintro ⟨obstacle, writable⟩
    rw [join_of_obstacle obstacle, JoinError.failure, Failure.of_eq_refused_iff.mpr ⟨rfl, writable⟩]

theorem join_eq_longNumber_iff :
    join left right request = .error .longNumber ↔
      (∃ error, Obstacle left right request.on request.leftOn request.rightOn error ∧
        error.isWritable = false) ∨
      (¬ Unjoinable left right request.on request.leftOn request.rightOn ∧
        RenamesLong left right request.on) := by
  constructor
  · intro brokenOff
    rcases join_cases left right request with ⟨error, obstacle, failed⟩ | ⟨joinable, long, _⟩ |
      ⟨_, _, frame, succeeded⟩
    · have isLong := Except.error.inj (failed.symm.trans brokenOff)
      exact .inl ⟨error, obstacle, Failure.of_eq_longNumber_iff.mp isLong⟩
    · exact .inr ⟨joinable, long⟩
    · cases succeeded.symm.trans brokenOff
  · rintro (⟨error, obstacle, unwritable⟩ | ⟨joinable, long⟩)
    · rw [join_of_obstacle obstacle, JoinError.failure,
        Failure.of_eq_longNumber_iff.mpr unwritable]
    · obtain ⟨keys, rightType, isKeys, _, joined⟩ := join_eq_of_joinable joinable
      rw [joined, (renamesWritable_eq_false_iff isKeys).mpr long]
      rfl

end Failures

/-! ## Origins -/

/-- What a left column becomes: it keeps its name. The key that both sides share has the type of
the side whose rows are all kept. -/
inductive FromLeft (right : Frame) (on : Option Literal) (how : Text)
    (column : Literal × ColumnType) : Literal × ColumnType → Prop
  | sharedKey (key : Literal) (rightType : ColumnType) (isOn : on = some key)
      (isKey : (column.1 == key) = true) (inRight : right.column? key = some rightType) :
      FromLeft right on how column
        (column.1, if how = "right" then rightType
          else if how = "full" then column.2.makeNullable else column.2)
  | other (notKey : ∀ key ∈ on, (column.1 == key) = false) :
      FromLeft right on how column
        (column.1, if how = "right" ∨ how = "full" then column.2.makeNullable else column.2)

/-- What a right column other than the shared key becomes: it keeps its name, or is renamed. -/
inductive FromRight (on : Option Literal) (how : Text) (column : Literal × ColumnType) :
    Literal × ColumnType → Prop
  | column (name : Literal) (notKey : ∀ key ∈ on, (column.1 == key) = false)
      (isNamed : name = column.1 ∨ name = renamed column.1) :
      FromRight on how column
        (name, if how = "left" ∨ how = "full" then column.2.makeNullable else column.2)

section Origins

variable {request : JoinRequest} {keys : JoinKeys} {right : Frame} {rightType : ColumnType}

theorem JoinKind.ofName_cases {property : Text → JoinKind → Prop} (how : Text)
    (left : property "left" .left) (right : property "right" .right)
    (full : property "full" .full)
    (inner : how ≠ "left" → how ≠ "right" → how ≠ "full" → property how .inner) :
    property how (.ofName how) := by
  unfold JoinKind.ofName
  split
  next isLeft => exact isLeft ▸ left
  next notLeft =>
    split
    next isRight => exact isRight ▸ right
    next notRight =>
      split
      next isFull => exact isFull ▸ full
      next notFull => exact inner notLeft notRight notFull

theorem nullableWhen_keepsRight (how : Text) (type : ColumnType) :
    nullableWhen (JoinKind.ofName how).keepsRight type =
      if how = "right" ∨ how = "full" then type.makeNullable else type := by
  induction how using JoinKind.ofName_cases with
  | left => rfl
  | right => rfl
  | full => rfl
  | inner _ notRight notFull => rw [if_neg (by simp [notRight, notFull])]; rfl

theorem nullableWhen_keepsLeft (how : Text) (type : ColumnType) :
    nullableWhen (JoinKind.ofName how).keepsLeft type =
      if how = "left" ∨ how = "full" then type.makeNullable else type := by
  induction how using JoinKind.ofName_cases with
  | left => rfl
  | right => rfl
  | full => rfl
  | inner notLeft _ notFull => rw [if_neg (by simp [notLeft, notFull])]; rfl

theorem leftColumnType_of_isShared {name : Literal} (shared : keys.isShared name = true)
    (how : Text) (type : ColumnType) :
    leftColumnType keys (.ofName how) rightType name type =
      if how = "right" then rightType
      else if how = "full" then type.makeNullable else type := by
  unfold leftColumnType
  rw [if_pos shared]
  induction how using JoinKind.ofName_cases with
  | left => rfl
  | right => rfl
  | full => rfl
  | inner _ notRight notFull => rw [if_neg notRight, if_neg notFull]

theorem leftColumnType_of_not_isShared {name : Literal} (notShared : keys.isShared name = false)
    (how : Text) (type : ColumnType) :
    leftColumnType keys (.ofName how) rightType name type =
      if how = "right" ∨ how = "full" then type.makeNullable else type := by
  unfold leftColumnType
  rw [if_neg (by simp [notShared]), nullableWhen_keepsRight]

theorem fromLeft_leftColumnType (isKeys : request.keys? = some keys)
    (inRight : right.column? keys.right = some rightType) (how : Text)
    (column : Literal × ColumnType) :
    FromLeft right request.on how column
      (column.1, leftColumnType keys (.ofName how) rightType column.1 column.2) := by
  cases shared : keys.isShared column.1 with
  | true =>
    rw [leftColumnType_of_isShared shared]
    rw [isShared_of_keys? isKeys, JoinRequest.isSharedKey, Option.any_eq_true] at shared
    obtain ⟨key, isOn, isKey⟩ := shared
    rw [right_of_keys? isKeys isOn] at inRight
    exact .sharedKey key rightType isOn isKey inRight
  | false =>
    rw [leftColumnType_of_not_isShared shared]
    exact .other (notKey_of_isShared isKeys shared)

theorem rightColumnName_cases (columns : Columns) (name : Literal) :
    columns.contains name = false ∧ rightColumnName columns name = name ∨
      columns.contains name = true ∧ rightColumnName columns name = renamed name := by
  unfold rightColumnName
  cases columns.contains name with
  | true => exact .inr ⟨rfl, rfl⟩
  | false => exact .inl ⟨rfl, rfl⟩

theorem fromRight_placed (isKeys : request.keys? = some keys) (how : Text) (columns : Columns)
    {column : Literal × ColumnType} (notShared : keys.isShared column.1 = false) :
    FromRight request.on how column
      (rightColumnName columns column.1,
        nullableWhen (JoinKind.ofName how).keepsLeft column.2) := by
  rw [nullableWhen_keepsLeft]
  refine .column _ (notKey_of_isShared isKeys notShared) ?_
  rcases rightColumnName_cases columns column.1 with ⟨_, isName⟩ | ⟨_, isRenamed⟩
  · exact .inl isName
  · exact .inr isRenamed

/-- Where the columns of a joined frame come from. -/
def HasOrigin (left right : Frame) (on : Option Literal) (how : Text)
    (result : Literal × ColumnType) : Prop :=
  (∃ column ∈ left.columns.entries, FromLeft right on how column result) ∨
    ∃ column ∈ right.columns.entries, FromRight on how column result

variable {left : Frame} {columns : Columns} {how : Text}

theorem hasOrigin_addRightColumn (isKeys : request.keys? = some keys)
    (origins : ∀ result ∈ columns.entries, HasOrigin left right request.on how result)
    {column : Literal × ColumnType} (inRight : column ∈ right.columns.entries) :
    ∀ result ∈ (addRightColumn keys (.ofName how) columns column).entries,
      HasOrigin left right request.on how result := by
  intro result member
  unfold addRightColumn at member
  split at member
  · exact origins result member
  next notShared =>
    have placed := fromRight_placed isKeys how columns (by simpa using notShared)
    rcases Table.mem_entries_insert member with old | ⟨isType, isNamed⟩
    · exact origins result old
    · have isName : result.1 = rightColumnName columns column.1 := by
        rcases isNamed with isNew | ⟨isOld, same⟩
        · exact isNew
        · -- only a renamed column finds its name taken, and that name is a text
          rcases rightColumnName_cases columns column.1 with ⟨absent, isName⟩ | ⟨_, isRenamed⟩
          · obtain ⟨entry, isEntry, isResult⟩ := List.mem_map.mp isOld
            have differs := Table.contains_eq_false_iff.mp absent entry isEntry
            rw [isResult, ← isName, same] at differs
            cases differs
          · rw [isRenamed] at same ⊢
            exact Literal.eq_text_of_beq same
      refine .inr ⟨column, inRight, ?_⟩
      rw [← isName, ← isType] at placed
      exact placed

theorem hasOrigin_joinedColumns (isKeys : request.keys? = some keys)
    (inRight : right.column? keys.right = some rightType) :
    ∀ result ∈ (joinedColumns keys (.ofName how) rightType left right).entries,
      HasOrigin left right request.on how result := by
  have general : ∀ (entries : List (Literal × ColumnType)) (columns : Columns),
      (∀ column ∈ entries, column ∈ right.columns.entries) →
      (∀ result ∈ columns.entries, HasOrigin left right request.on how result) →
      ∀ result ∈ (entries.foldl (addRightColumn keys (.ofName how)) columns).entries,
        HasOrigin left right request.on how result := by
    intro entries
    induction entries with
    | nil => exact fun _ _ origins => origins
    | cons column rest inRest =>
      intro columns included origins
      exact inRest _ (fun other later => included other (List.mem_cons_of_mem _ later))
        (hasOrigin_addRightColumn isKeys origins (included column List.mem_cons_self))
  refine general right.columns.entries _ (fun _ member => member) fun result member => ?_
  obtain ⟨column, inLeft, rfl⟩ := List.mem_map.mp member
  exact .inl ⟨column, inLeft, fromLeft_leftColumnType isKeys inRight how column⟩

end Origins

/-! ## Places -/

section Places

variable {keys : JoinKeys} {kind : JoinKind} {columns : Columns}

theorem keys_prefix_addRightColumn (columns : Columns) (column : Literal × ColumnType) :
    columns.keys <+: (addRightColumn keys kind columns column).keys := by
  unfold addRightColumn
  split
  · exact List.prefix_rfl
  · exact Table.keys_prefix_insert _ _ _

theorem names_prefix_joinedColumns (rightType : ColumnType) (left right : Frame) :
    left.names <+: (joinedColumns keys kind rightType left right).keys := by
  have general : ∀ (entries : List (Literal × ColumnType)) (columns : Columns),
      columns.keys <+: (entries.foldl (addRightColumn keys kind) columns).keys := by
    intro entries
    induction entries with
    | nil => exact fun _ => List.prefix_rfl
    | cons column rest inRest =>
      exact fun columns => (keys_prefix_addRightColumn columns column).trans (inRest _)
  have fromStart := general right.columns.entries
    (left.columns.mapValues (leftColumnType keys kind rightType))
  rw [Table.keys_mapValues] at fromStart
  exact fromStart

end Places

/-- A join is refused for the first reason that there is: no keys, a key that its side lacks, or
keys of different types. It breaks off if that cannot be told, or a column cannot be renamed, since
a number is too long to be written. Otherwise the names of its result begin with those of the left
frame, in order, and each column has the type that its origin dictates, where no type is made
nullable twice. -/
theorem join_fails_iff_and_columns_have_origins (left right : Frame)
    (on leftOn rightOn : Option Literal) (how : Text) :
    ((∃ error, Obstacle left right on leftOn rightOn error) ↔
      Unjoinable left right on leftOn rightOn) ∧
    (∀ error,
      join left right { on, leftOn, rightOn, kind := .ofName how } = .error (.refused error) ↔
        Obstacle left right on leftOn rightOn error ∧ error.isWritable = true) ∧
    (join left right { on, leftOn, rightOn, kind := .ofName how } = .error .longNumber ↔
      (∃ error, Obstacle left right on leftOn rightOn error ∧ error.isWritable = false) ∨
      (¬ Unjoinable left right on leftOn rightOn ∧ RenamesLong left right on)) ∧
    (∀ frame, join left right { on, leftOn, rightOn, kind := .ofName how } = .ok frame →
      left.names <+: frame.names ∧
      ∀ result ∈ frame.columns.entries, HasOrigin left right on how result) ∧
    ∀ type : ColumnType,
      type.makeNullable = if type.isNullable then type else .nullable type := by
  refine ⟨exists_obstacle_iff, fun _ => join_eq_refused_iff, join_eq_longNumber_iff,
    fun frame succeeded => ?_, fun type => ?_⟩
  · obtain ⟨keys, leftType, rightType, isKeys, _, inRight, _, _, rfl⟩ :=
      join_eq_ok_iff.mp succeeded
    exact ⟨names_prefix_joinedColumns rightType left right,
      hasOrigin_joinedColumns isKeys inRight⟩
  · cases type <;> rfl

def suffixedLeft : Frame :=
  .ofList [(.text "k", .int64), (.text "v", .nullable .utf8)]

def suffixedRight : Frame :=
  .ofList [(.text "v", .float64), (.text "k", .nullable .int64), (.text "v_right", .boolean)]

def suffixedResult : Frame where
  columns := joinedColumns (.shared (.text "k")) .right (.nullable .int64) suffixedLeft
    suffixedRight

theorem suffixedResult_has_origins :
    join suffixedLeft suffixedRight { on := some (.text "k"), kind := .ofName "right" } =
      .ok suffixedResult ∧
    suffixedResult.names.map Literal.display = ["k", "v", "v_right", "v_right_right"] ∧
    suffixedLeft.names <+: suffixedResult.names ∧
    HasOrigin suffixedLeft suffixedRight (some (.text "k")) "right"
      (.text "k", .nullable .int64) := by
  have joins : join suffixedLeft suffixedRight
      { on := some (.text "k"), kind := .ofName "right" } = .ok suffixedResult := rfl
  obtain ⟨_, _, _, columns, _⟩ := join_fails_iff_and_columns_have_origins suffixedLeft
    suffixedRight (some (.text "k")) none none "right"
  obtain ⟨names, origins⟩ := columns suffixedResult joins
  exact ⟨joins, by decide +kernel, names, origins _ List.mem_cons_self⟩

def longName : Literal :=
  .int (Magnitude.powerOfTen Literal.wholeDigitLimit)

def keyed (type : ColumnType) : Frame :=
  .ofList [(.text "k", type), (longName, .utf8)]

def longDecimal : ColumnType :=
  .decimal (Magnitude.powerOfTen Literal.wholeDigitLimit) 0

/-- A key that is missing and key types that differ, where neither can be told, and a column that
cannot be renamed, although no reason stands against the join. -/
theorem longNumbers_stop_joins :
    (Unjoinable suffixedLeft suffixedRight (some longName) none none ∧
      join suffixedLeft suffixedRight { on := some longName } = .error .longNumber) ∧
    (Unjoinable (keyed .int64) (keyed longDecimal) (some (.text "k")) none none ∧
      join (keyed .int64) (keyed longDecimal) { on := some (.text "k") } = .error .longNumber) ∧
    ¬ Unjoinable (keyed .int64) (keyed .int64) (some (.text "k")) none none ∧
    join (keyed .int64) (keyed .int64) { on := some (.text "k") } = .error .longNumber := by
  have missing : Obstacle suffixedLeft suffixedRight (some longName) none none
      (.leftKeyMissing longName) := .leftKeyMissing _ longName rfl rfl (by decide +kernel)
  have differ : Obstacle (keyed .int64) (keyed longDecimal) (some (.text "k")) none none
      (.keyTypes (.text "k") .int64 (.text "k") longDecimal) :=
    .keyTypes _ _ _ _ rfl rfl (by decide +kernel) (by decide +kernel) (by decide +kernel)
  have joinable : ¬ Unjoinable (keyed .int64) (keyed .int64) (some (.text "k")) none none := by
    have inFrame : (keyed .int64).column? (.text "k") = some .int64 := by decide +kernel
    intro unjoinable
    cases unjoinable with
    | noKeys noShared => cases noShared
    | leftKeyMissing _ _ isLeft _ absent | rightKeyMissing _ _ _ isLeft absent =>
      cases isLeft
      rw [hasColumn_of_column? inFrame] at absent
      cases absent
    | keyTypes _ _ _ _ isLeft isRight inLeft inRight differ =>
      cases isLeft
      cases isRight
      cases inFrame.symm.trans inLeft
      cases inFrame.symm.trans inRight
      cases differ
  have renames : RenamesLong (keyed .int64) (keyed .int64) (some (.text "k")) := by
    have member : (longName, ColumnType.utf8) ∈ (keyed .int64).columns.entries :=
      List.mem_cons_of_mem _ List.mem_cons_self
    have inFrame := Frame.hasColumn_of_mem member
    exact ⟨longName, List.mem_map_of_mem member, inFrame, by decide +kernel, by decide +kernel⟩
  exact ⟨⟨exists_obstacle_iff.mp ⟨_, missing⟩,
      join_eq_longNumber_iff.mpr (.inl ⟨_, missing, by decide +kernel⟩)⟩,
    ⟨exists_obstacle_iff.mp ⟨_, differ⟩,
      join_eq_longNumber_iff.mpr (.inl ⟨_, differ, by decide +kernel⟩)⟩,
    joinable, join_eq_longNumber_iff.mpr (.inr ⟨joinable, renames⟩)⟩

/-! ## Columns that are kept -/

def addedColumns (on : Option Literal) (entries : List (Literal × ColumnType)) :
    List (Literal × ColumnType) :=
  entries.filter fun column => !on.any fun key => column.1 == key

/-- All columns of both frames are in a joined one: there are as many, less one for the key that
both share; the left ones come first, and those of the right frame follow in their order. -/
structure KeepsColumns (left right : Frame) (on : Option Literal) (how : Text) (frame : Frame) :
    Prop where
  count : frame.columns.size + (if on.isSome then 1 else 0) =
    left.columns.size + right.columns.size
  lefts : List.Forall₂ (FromLeft right on how) left.columns.entries
    (frame.columns.entries.take left.columns.size)
  rights : List.Forall₂ (FromRight on how) (addedColumns on right.columns.entries)
    (frame.columns.entries.drop left.columns.size)

/-- Whether each right column finds a free name at its turn: its own, or else the one that it is
renamed to. The shared key needs none. -/
def namesFree (on : Option Literal) : (taken right : List Literal) → Bool
  | _, [] => true
  | taken, name :: rest =>
    if on.any fun key => name == key then namesFree on taken rest
    else if taken.any (· == name) then
      !taken.any (· == renamed name) && namesFree on (taken ++ [renamed name]) rest
    else namesFree on (taken ++ [name]) rest

section Kept

variable {request : JoinRequest} {keys : JoinKeys} {kind : JoinKind} {columns : Columns}
  {column : Literal × ColumnType} {rest : List (Literal × ColumnType)}

theorem addRightColumn_of_isShared (shared : keys.isShared column.1 = true) :
    addRightColumn keys kind columns column = columns :=
  if_pos shared

theorem addRightColumn_of_not_isShared (notShared : keys.isShared column.1 = false) :
    addRightColumn keys kind columns column =
      columns.insert (rightColumnName columns column.1)
        (nullableWhen kind.keepsLeft column.2) :=
  if_neg (by simp [notShared])

theorem addedColumns_cons_of_isShared (isKeys : request.keys? = some keys)
    (shared : keys.isShared column.1 = true) :
    addedColumns request.on (column :: rest) = addedColumns request.on rest := by
  rw [isShared_of_keys? isKeys, JoinRequest.isSharedKey] at shared
  simp [addedColumns, shared]

theorem addedColumns_cons_of_not_isShared (isKeys : request.keys? = some keys)
    (notShared : keys.isShared column.1 = false) :
    addedColumns request.on (column :: rest) = column :: addedColumns request.on rest := by
  rw [isShared_of_keys? isKeys, JoinRequest.isSharedKey] at notShared
  simp [addedColumns, notShared]

theorem namesFree_cons (isKeys : request.keys? = some keys) (columns : Columns)
    (column : Literal × ColumnType) (names : List Literal) :
    namesFree request.on columns.keys (column.1 :: names) =
      if keys.isShared column.1 then namesFree request.on columns.keys names
      else !columns.contains (rightColumnName columns column.1) &&
        namesFree request.on (columns.keys ++ [rightColumnName columns column.1]) names := by
  rw [namesFree, isShared_of_keys? isKeys, JoinRequest.isSharedKey]
  simp only [← Table.contains_eq_any_keys]
  rcases rightColumnName_cases columns column.1 with ⟨absent, isName⟩ | ⟨present, isRenamed⟩
  · simp [isName, absent]
  · simp [isRenamed, present]

theorem entries_foldl_of_namesFree (isKeys : request.keys? = some keys) (how : Text)
    {entries : List (Literal × ColumnType)}
    (free : namesFree request.on columns.keys (entries.map (·.1)) = true) :
    ∃ placed, (entries.foldl (addRightColumn keys (.ofName how)) columns).entries =
        columns.entries ++ placed ∧
      List.Forall₂ (FromRight request.on how) (addedColumns request.on entries) placed := by
  induction entries generalizing columns with
  | nil => exact ⟨[], (List.append_nil _).symm, .nil⟩
  | cons column rest inRest =>
    rw [List.map_cons, namesFree_cons isKeys] at free
    rw [List.foldl_cons]
    cases shared : keys.isShared column.1 with
    | true =>
      rw [addRightColumn_of_isShared shared, addedColumns_cons_of_isShared isKeys shared]
      exact inRest (by simpa [shared] using free)
    | false =>
      rw [addRightColumn_of_not_isShared shared, addedColumns_cons_of_not_isShared isKeys shared]
      obtain ⟨absent, freeAfter⟩ : columns.contains (rightColumnName columns column.1) = false ∧
          namesFree request.on (columns.keys ++ [rightColumnName columns column.1])
            (rest.map (·.1)) = true := by
        simpa [shared] using free
      rw [← Table.keys_insert_of_absent absent
        (nullableWhen (JoinKind.ofName how).keepsLeft column.2)] at freeAfter
      obtain ⟨placed, isResult, origins⟩ := inRest freeAfter
      refine ⟨_ :: placed, ?_, .cons (fromRight_placed isKeys how columns shared) origins⟩
      rw [isResult, Table.entries_insert_of_absent absent, List.append_assoc]
      rfl

theorem size_addRightColumn_le (keys : JoinKeys) (kind : JoinKind) (columns : Columns)
    (column : Literal × ColumnType) :
    (addRightColumn keys kind columns column).size ≤ columns.size + 1 := by
  unfold addRightColumn
  split
  · omega
  · rw [Table.size_insert]
    split <;> omega

theorem size_foldl_le (isKeys : request.keys? = some keys) (kind : JoinKind)
    (entries : List (Literal × ColumnType)) (columns : Columns) :
    (entries.foldl (addRightColumn keys kind) columns).size ≤
      columns.size + (addedColumns request.on entries).length := by
  induction entries generalizing columns with
  | nil => exact Nat.le_refl _
  | cons column rest inRest =>
    have after := inRest (addRightColumn keys kind columns column)
    rw [List.foldl_cons]
    cases shared : keys.isShared column.1 with
    | true =>
      rw [addRightColumn_of_isShared shared] at after ⊢
      rwa [addedColumns_cons_of_isShared isKeys shared]
    | false =>
      have step := size_addRightColumn_le keys kind columns column
      rw [addedColumns_cons_of_not_isShared isKeys shared, List.length_cons]
      omega

theorem namesFree_of_size_foldl (isKeys : request.keys? = some keys)
    {entries : List (Literal × ColumnType)}
    (size : (entries.foldl (addRightColumn keys kind) columns).size =
      columns.size + (addedColumns request.on entries).length) :
    namesFree request.on columns.keys (entries.map (·.1)) = true := by
  induction entries generalizing columns with
  | nil => rfl
  | cons column rest inRest =>
    rw [List.map_cons, namesFree_cons isKeys]
    rw [List.foldl_cons] at size
    cases shared : keys.isShared column.1 with
    | true =>
      rw [addRightColumn_of_isShared shared, addedColumns_cons_of_isShared isKeys shared] at size
      simpa using inRest size
    | false =>
      rw [addRightColumn_of_not_isShared shared, addedColumns_cons_of_not_isShared isKeys shared,
        List.length_cons] at size
      have bound := size_foldl_le isKeys kind rest
        (columns.insert (rightColumnName columns column.1) (nullableWhen kind.keepsLeft column.2))
      have step := columns.size_insert (rightColumnName columns column.1)
        (nullableWhen kind.keepsLeft column.2)
      cases present : columns.contains (rightColumnName columns column.1) with
      | true =>
        -- the column that was there is overwritten, and the ones that follow cannot make up for it
        rw [present, if_pos rfl] at step
        omega
      | false =>
        rw [present, if_neg Bool.false_ne_true] at step
        have sizeAfter : (rest.foldl (addRightColumn keys kind) (columns.insert
            (rightColumnName columns column.1) (nullableWhen kind.keepsLeft column.2))).size =
            (columns.insert (rightColumnName columns column.1)
              (nullableWhen kind.keepsLeft column.2)).size +
                (addedColumns request.on rest).length := by omega
        have freeAfter := inRest sizeAfter
        rw [Table.keys_insert_of_absent present] at freeAfter
        simpa using freeAfter

theorem length_addedColumns {right : Frame} {rightType : ColumnType}
    (isKeys : request.keys? = some keys) (inRight : right.column? keys.right = some rightType) :
    (addedColumns request.on right.columns.entries).length + (if request.on.isSome then 1 else 0) =
      right.columns.size := by
  cases isOn : request.on with
  | none => simp [addedColumns, Table.size]
  | some key =>
    rw [right_of_keys? isKeys isOn] at inRight
    have present : right.columns.contains key = true := by
      rw [Table.contains_eq]
      exact Option.isSome_of_eq_some inRight
    exact Table.length_filter_other_keys present

variable {left right : Frame} {rightType : ColumnType}

theorem entries_joinedColumns (isKeys : request.keys? = some keys) (how : Text)
    (free : namesFree request.on left.names right.names = true) :
    ∃ placed, (joinedColumns keys (.ofName how) rightType left right).entries =
        (left.columns.mapValues (leftColumnType keys (.ofName how) rightType)).entries ++ placed ∧
      List.Forall₂ (FromRight request.on how) (addedColumns request.on right.columns.entries)
        placed := by
  refine entries_foldl_of_namesFree isKeys how ?_
  rw [Table.keys_mapValues]
  exact free

theorem namesFree_of_size_joinedColumns (isKeys : request.keys? = some keys)
    (size : (joinedColumns keys kind rightType left right).size =
      left.columns.size + (addedColumns request.on right.columns.entries).length) :
    namesFree request.on left.names right.names = true := by
  have startSize : (left.columns.mapValues (leftColumnType keys kind rightType)).size =
      left.columns.size := List.length_map _
  rw [← startSize] at size
  have free := namesFree_of_size_foldl isKeys size
  rw [Table.keys_mapValues] at free
  exact free

end Kept

/-- A join keeps all columns of both frames exactly when each right column finds a free name:
where the name of a right column is taken, and the one that it is renamed to as well, the
column that has this name is overwritten. -/
theorem join_keeps_columns_iff {left right frame : Frame} {on leftOn rightOn : Option Literal}
    {how : Text}
    (succeeded : join left right { on, leftOn, rightOn, kind := .ofName how } = .ok frame) :
    KeepsColumns left right on how frame ↔ namesFree on left.names right.names = true := by
  obtain ⟨keys, leftType, rightType, isKeys, _, inRight, _, _, rfl⟩ :=
    join_eq_ok_iff.mp succeeded
  have rightCount : (addedColumns on right.columns.entries).length +
      (if on.isSome then 1 else 0) = right.columns.size := length_addedColumns isKeys inRight
  constructor
  · intro keeps
    have count : (joinedColumns keys (.ofName how) rightType left right).size +
      (if on.isSome then 1 else 0) = left.columns.size + right.columns.size := keeps.count
    have size : (joinedColumns keys (.ofName how) rightType left right).size =
      left.columns.size + (addedColumns on right.columns.entries).length := by omega
    exact namesFree_of_size_joinedColumns isKeys size
  · intro free
    obtain ⟨placed, isResult, origins⟩ := entries_joinedColumns isKeys how free
    have placedCount : (addedColumns on right.columns.entries).length = placed.length :=
      origins.length_eq
    have startSize : left.columns.size =
      (left.columns.mapValues (leftColumnType keys (.ofName how) rightType)).entries.length :=
      (List.length_map _).symm
    refine ⟨?_, ?_, ?_⟩
    · show List.length _ + _ = _
      rw [isResult, List.length_append, ← startSize]
      omega
    · rw [isResult, startSize, List.take_left]
      refine List.forall₂_map_right_iff.mpr (List.forall₂_same.mpr fun column _ => ?_)
      exact fromLeft_leftColumnType isKeys inRight how column
    · rw [isResult, startSize, List.drop_left]
      exact origins

theorem suffixedResult_keeps_columns :
    join suffixedLeft suffixedRight { on := some (.text "k"), kind := .ofName "right" } =
      .ok suffixedResult ∧
    KeepsColumns suffixedLeft suffixedRight (some (.text "k")) "right" suffixedResult := by
  have joins : join suffixedLeft suffixedRight
      { on := some (.text "k"), kind := .ofName "right" } = .ok suffixedResult := rfl
  exact ⟨joins, (join_keeps_columns_iff joins).mpr (by decide +kernel)⟩

def oneColumn (key : Text) : Frame :=
  .ofList [(.text key, .int64), (.text "v", .utf8)]

def crowded : Frame :=
  .ofList [(.text "k", .int64), (.text "v_right", .boolean), (.text "v", .float64)]

/-- The new name of `v` is that of another left column, of a right column that came before it,
or of the shared key: each is overwritten. -/
theorem joins_overwrite_columns :
    (∃ frame, join crowded (oneColumn "k") { on := some (.text "k"), kind := .ofName "inner" } =
        .ok frame ∧
      frame.columns.size = 3 ∧ frame.column? (.text "v_right") = some .utf8 ∧
      ¬ KeepsColumns crowded (oneColumn "k") (some (.text "k")) "inner" frame) ∧
    (∃ frame, join (oneColumn "k") crowded { on := some (.text "k"), kind := .ofName "inner" } =
        .ok frame ∧
      frame.columns.size = 3 ∧ frame.column? (.text "v_right") = some .float64 ∧
      ¬ KeepsColumns (oneColumn "k") crowded (some (.text "k")) "inner" frame) ∧
    ∃ frame, join (oneColumn "v_right") (oneColumn "v_right")
        { on := some (.text "v_right"), kind := .ofName "inner" } = .ok frame ∧
      frame.columns.size = 2 ∧ frame.column? (.text "v_right") = some .utf8 ∧
      ¬ KeepsColumns (oneColumn "v_right") (oneColumn "v_right") (some (.text "v_right")) "inner"
        frame := by
  refine ⟨⟨_, rfl, rfl, rfl, fun keeps => ?_⟩, ⟨_, rfl, rfl, rfl, fun keeps => ?_⟩,
    ⟨_, rfl, rfl, rfl, fun keeps => ?_⟩⟩
  all_goals exact absurd keeps.count (by decide +kernel)

end FrameCheck.Typing
