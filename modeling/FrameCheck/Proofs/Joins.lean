import FrameCheck.Proofs.Alike
import FrameCheck.Typing.Join

/-!
Joins, case by case: when they fail, and which labels and columns they come to.
-/

namespace FrameCheck.Typing

/-! ## Columns of a join that succeeds -/

def addRightColumn (keys : JoinKeys) (kind : JoinKind) (columns : Columns)
    (column : Literal × ColumnType) : Columns :=
  if keys.isShared column.1 then columns
  else columns.insert (rightColumnName columns column.1) (nullableWhen kind.keepsLeft column.2)

def joinedColumns (keys : JoinKeys) (kind : JoinKind) (rightKeyType : ColumnType)
    (left right : Frame) : Columns :=
  right.columns.entries.foldl (addRightColumn keys kind)
    (left.columns.mapValues (leftColumnType keys kind rightKeyType))

def JoinKeys.renamesWritable (keys : JoinKeys) (left right : Frame) : Bool :=
  right.names.all fun name => name.isWritable || keys.isShared name || !left.hasColumn name

section Place

variable {keys : JoinKeys} {kind : JoinKind} {columns : Columns} {column : Literal × ColumnType}

theorem text_beq_of_not_isWritable (text : Text) {label : Literal}
    (long : label.isWritable = false) : (Literal.text text == label) = false := by
  cases label with
  | int value => exact Literal.beq_eq_false_iff.mpr nofun
  | _ => cases long

/-- Only texts and the name of the column itself are new, so that other long labels are there as
they were. -/
theorem contains_addRightColumn_of_not_isWritable {label : Literal}
    (long : label.isWritable = false) (different : (column.1 == label) = false) :
    (addRightColumn keys kind columns column).contains label = columns.contains label := by
  have notName : (rightColumnName columns column.1 == label) = false := by
    unfold rightColumnName
    split
    · exact text_beq_of_not_isWritable _ long
    · exact different
  unfold addRightColumn
  split
  · rfl
  · rw [Table.contains_insert, notName, Bool.false_or]

theorem placeRightColumn_eq :
    placeRightColumn keys kind columns column =
      if column.1.isWritable || keys.isShared column.1 || !columns.contains column.1 then
        .ok (addRightColumn keys kind columns column)
      else .error .longNumber := by
  unfold placeRightColumn addRightColumn
  cases keys.isShared column.1 <;> cases columns.contains column.1 <;>
    cases column.1.isWritable <;> rfl

/-- By induction over the right columns: a long label that stands among the columns has been there
from the start, since the right columns before it have other labels. -/
theorem foldlM_placeRightColumn (entries : List (Literal × ColumnType)) (columns : Columns)
    (distinct : entries.Pairwise fun first second => (first.1 == second.1) = false) :
    entries.foldlM (placeRightColumn keys kind) columns =
      if entries.all fun column =>
          column.1.isWritable || keys.isShared column.1 || !columns.contains column.1 then
        .ok (entries.foldl (addRightColumn keys kind) columns)
      else .error .longNumber := by
  induction entries generalizing columns with
  | nil => rfl
  | cons first rest inRest =>
    obtain ⟨others, restDistinct⟩ := List.pairwise_cons.mp distinct
    rw [List.foldlM_cons, placeRightColumn_eq, List.all_cons]
    cases first.1.isWritable || keys.isShared first.1 || !columns.contains first.1 with
    | false => rfl
    | true =>
      show rest.foldlM (placeRightColumn keys kind) (addRightColumn keys kind columns first) = _
      have sameTests : (rest.all fun column => column.1.isWritable || keys.isShared column.1 ||
          !(addRightColumn keys kind columns first).contains column.1) =
          rest.all fun column =>
            column.1.isWritable || keys.isShared column.1 || !columns.contains column.1 := by
        rw [Bool.eq_iff_iff, List.all_eq_true, List.all_eq_true]
        refine forall₂_congr fun column member => ?_
        cases long : column.1.isWritable with
        | true => simp only [Bool.true_or]
        | false =>
          rw [contains_addRightColumn_of_not_isWritable long (others column member)]
      rw [inRest _ restDistinct, sameTests]
      rfl

theorem placeRightColumns_eq (rightKeyType : ColumnType) (left right : Frame) :
    right.columns.entries.foldlM (placeRightColumn keys kind)
        (left.columns.mapValues (leftColumnType keys kind rightKeyType)) =
      if keys.renamesWritable left right then .ok (joinedColumns keys kind rightKeyType left right)
      else .error .longNumber := by
  rw [foldlM_placeRightColumn _ _ right.columns.distinct]
  simp only [JoinKeys.renamesWritable, Frame.names, Table.keys, List.all_map, Function.comp_def,
    Frame.hasColumn, Table.contains_mapValues]
  rfl

end Place

/-! ## Outcomes -/

theorem join_eq (left right : Frame) (request : JoinRequest) :
    join left right request =
      match request.keys? with
      | none => .error JoinError.noKeys.failure
      | some keys =>
        match left.column? keys.left with
        | none => .error (JoinError.leftKeyMissing keys.left).failure
        | some leftType =>
          match right.column? keys.right with
          | none => .error (JoinError.rightKeyMissing keys.right).failure
          | some rightType =>
            if leftType.base.same rightType.base then
              if keys.renamesWritable left right then
                .ok { columns := joinedColumns keys request.kind rightType left right }
              else .error .longNumber
            else .error (JoinError.keyTypes keys.left leftType keys.right rightType).failure := by
  unfold join
  cases request.keys? with
  | none => rfl
  | some keys =>
    simp only
    cases left.column? keys.left with
    | none => rfl
    | some leftType =>
      simp only
      cases right.column? keys.right with
      | none => rfl
      | some rightType =>
        simp only [placeRightColumns_eq]
        cases leftType.base.same rightType.base with
        | false => rfl
        | true => cases keys.renamesWritable left right <;> rfl

theorem JoinRequest.mem_names_of_keys? {request : JoinRequest} {keys : JoinKeys}
    (isKeys : request.keys? = some keys) {name : Literal}
    (isKey : name = keys.left ∨ name = keys.right) :
    name ∈ request.on.toList ++ (request.leftOn.toList ++ request.rightOn.toList) := by
  unfold JoinRequest.keys? at isKeys
  split at isKeys
  next shared isOn =>
    cases isKeys
    have equal : name = shared := isKey.elim id id
    simp [isOn, equal]
  next leftName rightName isOn isLeft isRight =>
    cases isKeys
    have equal : name = leftName ∨ name = rightName := isKey
    simpa [isOn, isLeft, isRight, eq_comm] using equal
  · cases isKeys

theorem join_eq_ok_iff {left right frame : Frame} {request : JoinRequest} :
    join left right request = .ok frame ↔
      ∃ keys leftType rightType, request.keys? = some keys ∧
        left.column? keys.left = some leftType ∧ right.column? keys.right = some rightType ∧
        leftType.base.same rightType.base = true ∧ keys.renamesWritable left right = true ∧
        frame = { columns := joinedColumns keys request.kind rightType left right } := by
  rw [join_eq]
  constructor
  · intro succeeded
    split at succeeded
    · cases succeeded
    next keys isKeys =>
      split at succeeded
      · cases succeeded
      next leftType isLeft =>
        split at succeeded
        · cases succeeded
        next rightType isRight =>
          split at succeeded
          next fits =>
            split at succeeded
            next writable =>
              cases succeeded
              exact ⟨keys, leftType, rightType, isKeys, isLeft, isRight, fits, writable, rfl⟩
            · cases succeeded
          · cases succeeded
  · rintro ⟨keys, leftType, rightType, isKeys, isLeft, isRight, fits, writable, rfl⟩
    simp only [isKeys, isLeft, isRight, fits, writable, if_true]

theorem exists_of_join_ok {left right frame : Frame} {request : JoinRequest}
    (succeeded : join left right request = .ok frame) :
    ∃ keys rightType, request.keys? = some keys ∧
      frame = { columns := joinedColumns keys request.kind rightType left right } := by
  obtain ⟨keys, _, rightType, isKeys, _, _, _, _, isFrame⟩ := join_eq_ok_iff.mp succeeded
  exact ⟨keys, rightType, isKeys, isFrame⟩

/-! ## Labels -/

theorem mem_keys_addRightColumn {keys : JoinKeys} {kind : JoinKind} {columns : Columns}
    {column : Literal × ColumnType} {label : Literal}
    (member : label ∈ (addRightColumn keys kind columns column).keys) :
    label ∈ columns.keys ∨ label = column.1 ∨ ∃ text, label = .text text := by
  unfold addRightColumn at member
  split at member
  · exact .inl member
  · rcases Table.mem_keys_insert member with before | isNew
    · exact .inl before
    · unfold rightColumnName at isNew
      split at isNew
      · exact .inr (.inr ⟨_, isNew⟩)
      · exact .inr (.inl isNew)

theorem mem_keys_joinedColumns {keys : JoinKeys} {kind : JoinKind} {rightType : ColumnType}
    {left right : Frame} {label : Literal}
    (member : label ∈ (joinedColumns keys kind rightType left right).keys) :
    label ∈ left.names ∨ label ∈ right.names ∨ ∃ text, label = .text text := by
  have general : ∀ (entries : List (Literal × ColumnType)) (columns : Columns),
      label ∈ (entries.foldl (addRightColumn keys kind) columns).keys →
        label ∈ columns.keys ∨ label ∈ entries.map (·.1) ∨ ∃ text, label = .text text := by
    intro entries
    induction entries with
    | nil => exact fun columns inColumns => .inl inColumns
    | cons entry rest inRest =>
      intro columns inAll
      rcases inRest (addRightColumn keys kind columns entry) inAll with inFirst | later | isText
      · rcases mem_keys_addRightColumn inFirst with before | isNew | isText
        · exact .inl before
        · exact .inr (.inl (by simp [isNew]))
        · exact .inr (.inr isText)
      · exact .inr (.inl (List.mem_cons_of_mem _ later))
      · exact .inr (.inr isText)
  rcases general right.columns.entries _ member with inLeft | inRight | isText
  · rw [Table.keys_mapValues] at inLeft
    exact .inl inLeft
  · exact .inr (.inl inRight)
  · exact .inr (.inr isText)

end FrameCheck.Typing
