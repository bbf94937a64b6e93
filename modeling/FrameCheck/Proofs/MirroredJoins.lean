import FrameCheck.Proofs.JoinColumns

/-!
Joins of two frames the other way round. Where the frames have no name in common but the key that
they share, nothing is renamed: each column of the result stands under its own name, with the
type that its side gives it. A join that keeps all rows of one side is then the same, up to the
order of columns, as the join of the exchanged frames that keeps the rows of the other side. An
inner join is not: its shared key has the type of the left frame, which may differ in nulls.
-/

namespace FrameCheck.Typing

/-! ## Requests the other way round -/

def JoinKeys.mirrored : JoinKeys → JoinKeys
  | .shared name => .shared name
  | .separate left right => .separate right left

def JoinKind.mirrored : JoinKind → JoinKind
  | .inner => .inner
  | .left => .right
  | .right => .left
  | .full => .full

def JoinRequest.mirrored (request : JoinRequest) : JoinRequest where
  on := request.on
  leftOn := request.rightOn
  rightOn := request.leftOn
  kind := request.kind.mirrored

@[simp] theorem JoinKeys.left_mirrored (keys : JoinKeys) : keys.mirrored.left = keys.right := by
  cases keys <;> rfl

@[simp] theorem JoinKeys.right_mirrored (keys : JoinKeys) : keys.mirrored.right = keys.left := by
  cases keys <;> rfl

@[simp] theorem JoinKeys.isShared_mirrored (keys : JoinKeys) (name : Literal) :
    keys.mirrored.isShared name = keys.isShared name := by
  cases keys <;> rfl

@[simp] theorem JoinKind.keepsLeft_mirrored (kind : JoinKind) :
    kind.mirrored.keepsLeft = kind.keepsRight := by
  cases kind <;> rfl

@[simp] theorem JoinKind.keepsRight_mirrored (kind : JoinKind) :
    kind.mirrored.keepsRight = kind.keepsLeft := by
  cases kind <;> rfl

theorem JoinRequest.keys?_mirrored (request : JoinRequest) :
    request.mirrored.keys? = request.keys?.map JoinKeys.mirrored := by
  obtain ⟨on, leftOn, rightOn, kind⟩ := request
  cases on <;> cases leftOn <;> cases rightOn <;> rfl

theorem Unjoinable.symm {left right : Frame} {on leftOn rightOn : Option Literal}
    (unjoinable : Unjoinable left right on leftOn rightOn) :
    Unjoinable right left on rightOn leftOn := by
  cases unjoinable with
  | noKeys noShared notBoth => exact .noKeys noShared notBoth.symm
  | leftKeyMissing leftKey rightKey isLeft isRight absent =>
    exact .rightKeyMissing rightKey leftKey isRight isLeft absent
  | rightKeyMissing leftKey rightKey isLeft isRight absent =>
    exact .leftKeyMissing rightKey leftKey isRight isLeft absent
  | keyTypes leftKey rightKey leftType rightType isLeft isRight inLeft inRight differ =>
    refine .keyTypes rightKey leftKey rightType leftType isRight isLeft inRight inLeft ?_
    rw [← Bool.not_eq_true, ColumnType.same_iff] at differ ⊢
    exact fun alike => differ alike.symm

/-! ## Frames without common names -/

/-- Whether the frames have no name in common but the key that they share. -/
def apart (on : Option Literal) (left right : Frame) : Bool :=
  left.names.all fun name => !right.hasColumn name || on.any fun key => name == key

def JoinKeys.Divide (keys : JoinKeys) (left right : Frame) : Prop :=
  ∀ label, left.hasColumn label = true → right.hasColumn label = true →
    keys.isShared label = true

section Divided

variable {keys : JoinKeys} {kind : JoinKind} {left right : Frame}

theorem JoinKeys.Divide.symm (divide : keys.Divide left right) :
    keys.mirrored.Divide right left := by
  intro label inRight inLeft
  rw [isShared_mirrored]
  exact divide label inLeft inRight

theorem JoinKeys.isShared_congr (keys : JoinKeys) {first second : Literal}
    (same : (first == second) = true) : keys.isShared first = keys.isShared second := by
  cases keys with
  | shared key => exact BEq.congr_left same
  | separate _ _ => rfl

theorem divide_of_apart {request : JoinRequest} (isKeys : request.keys? = some keys)
    (isApart : apart request.on left right = true) : keys.Divide left right := by
  intro label inLeft inRight
  obtain ⟨entry, member, same⟩ := List.any_eq_true.mp inLeft
  have holds := List.all_eq_true.mp isApart entry.1 (List.mem_map_of_mem member)
  rw [Frame.hasColumn_congr same, inRight] at holds
  rw [← keys.isShared_congr same, isShared_of_keys? isKeys]
  exact holds

theorem isClear_of_divide (divide : keys.Divide left right) : keys.isClear left right = true := by
  refine List.all_eq_true.mpr fun name member => ?_
  obtain ⟨column, isColumn, rfl⟩ := List.mem_map.mp member
  cases inLeft : left.hasColumn column.1 with
  | false => simp
  | true => simp [divide column.1 inLeft (Frame.hasColumn_of_mem isColumn)]

theorem renamesWritable_of_divide (divide : keys.Divide left right) :
    keys.renamesWritable left right = true := by
  refine List.all_eq_true.mpr fun name member => ?_
  obtain ⟨column, isColumn, rfl⟩ := List.mem_map.mp member
  cases inLeft : left.hasColumn column.1 with
  | false => simp
  | true => simp [divide column.1 inLeft (Frame.hasColumn_of_mem isColumn)]

theorem placedColumns_of_divide (divide : keys.Divide left right) :
    placedColumns keys kind left right.columns.entries =
      (right.columns.entries.filter fun column => !keys.isShared column.1).map
        fun column => (column.1, nullableWhen kind.keepsLeft column.2) := by
  refine List.map_congr_left fun column member => ?_
  obtain ⟨isEntry, notShared⟩ := List.mem_filter.mp member
  have inRight : right.hasColumn column.1 = true := Frame.hasColumn_of_mem isEntry
  have notLeft : left.columns.contains column.1 = false := by
    rw [← Bool.not_eq_true]
    intro inLeft
    simp [divide column.1 inLeft inRight] at notShared
  simp [placed, rightColumnName, notLeft]

/-- Each column of the result is found under its own name: the shared key as the left frame has
it, and the others on the side that they come from. -/
theorem get?_joinedColumns_of_divide (divide : keys.Divide left right) (rightType : ColumnType)
    (label : Literal) :
    (joinedColumns keys kind rightType left right).get? label =
      if keys.isShared label then
        (left.column? label).map (leftColumnType keys kind rightType label)
      else
        ((right.column? label).map (nullableWhen kind.keepsLeft)).or
          ((left.column? label).map (nullableWhen kind.keepsRight)) := by
  have distinct : (placedColumns keys kind left right.columns.entries).Pairwise
      fun first second => (first.1 == second.1) = false := by
    rw [placedColumns_of_divide divide]
    exact List.pairwise_map.mpr (right.columns.distinct.filter _)
  have others : Table.lookup label
      (right.columns.entries.filter fun column => !keys.isShared column.1) =
        if !keys.isShared label then right.column? label else none := by
    refine Table.lookup_filter (fun name => !keys.isShared name) (fun first second same => ?_) _ _
    rw [keys.isShared_congr same]
  rw [joinedColumns_of_clear (isClear_of_divide divide), Table.get?_insertAll_of_distinct distinct,
    placedColumns_of_divide divide, Table.lookup_map, others,
    Table.get?_mapValues leftColumnType_congr]
  cases shared : keys.isShared label with
  | true => simp [Frame.column?]
  | false =>
    have unshared : leftColumnType keys kind rightType label = nullableWhen kind.keepsRight := by
      funext type
      simp [leftColumnType, shared]
    simp [unshared, Frame.column?]

/-! ## Mirror images -/

theorem makeNullable_eq (type : ColumnType) : type.makeNullable = .nullable type.base := by
  cases type <;> rfl

theorem makeNullable_alike_of_base {first second : ColumnType}
    (bases : first.base.Alike second.base) : first.makeNullable.Alike second.makeNullable := by
  rw [makeNullable_eq, makeNullable_eq]
  unfold ColumnType.Alike at bases ⊢
  simp only [ColumnType.canonical, bases]

theorem sharedKey_mirrored (notInner : kind ≠ .inner) {leftType rightType : ColumnType}
    (bases : leftType.base.Alike rightType.base) {label : Literal}
    (shared : keys.isShared label = true) :
    (leftColumnType keys kind rightType label leftType).Alike
      (leftColumnType keys.mirrored kind.mirrored leftType label rightType) := by
  unfold leftColumnType
  rw [keys.isShared_mirrored, if_pos shared, if_pos shared]
  cases kind with
  | inner => exact absurd rfl notInner
  | left => exact .refl leftType
  | right => exact .refl rightType
  | full => exact makeNullable_alike_of_base bases

theorem or_comm_of_not_both {first second : Option α}
    (notBoth : first.isSome = true → second.isSome = true → False) :
    first.or second = second.or first := by
  cases first with
  | none => simp
  | some value =>
    cases second with
    | none => rfl
    | some other => exact (notBoth rfl rfl).elim

theorem column?_of_isShared {label key : Literal}
    (shared : (JoinKeys.shared key).isShared label = true)
    (frame : Frame) : frame.column? label = frame.column? key :=
  Table.get?_congr shared frame.columns

theorem joinedColumns_mirrored (divide : keys.Divide left right) (notInner : kind ≠ .inner)
    {leftType rightType : ColumnType} (inLeft : left.column? keys.left = some leftType)
    (inRight : right.column? keys.right = some rightType)
    (bases : leftType.base.Alike rightType.base) :
    Table.Agrees ColumnType.Alike (joinedColumns keys kind rightType left right)
      (joinedColumns keys.mirrored kind.mirrored leftType right left) := by
  intro label
  rw [get?_joinedColumns_of_divide divide, get?_joinedColumns_of_divide divide.symm,
    keys.isShared_mirrored]
  cases shared : keys.isShared label with
  | true =>
    have key := sharedKey_mirrored notInner bases shared
    cases keys with
    | separate _ _ => cases shared
    | shared name =>
      rw [if_pos rfl, if_pos rfl, column?_of_isShared shared left, column?_of_isShared shared right]
      simp only [JoinKeys.left, JoinKeys.right] at inLeft inRight
      rw [inLeft, inRight]
      exact .some key
  | false =>
    rw [if_neg Bool.false_ne_true, if_neg Bool.false_ne_true, kind.keepsLeft_mirrored,
      kind.keepsRight_mirrored, or_comm_of_not_both]
    · cases ((left.column? label).map _).or _ with
      | none => exact .none
      | some type => exact .some (.refl type)
    · intro fromRight fromLeft
      rw [Option.isSome_map, Frame.column?, ← Table.contains_eq] at fromRight fromLeft
      rw [divide label fromLeft fromRight] at shared
      cases shared

end Divided

def SameOutcome : Except (Failure JoinError) Frame → Except (Failure JoinError) Frame → Prop :=
  ResultsAlike (fun _ _ => True) fun first second => first.same second = true

theorem sameOutcome_mirrored (request : JoinRequest) {left right : Frame}
    (isApart : apart request.on left right = true) (notInner : request.kind ≠ .inner) :
    SameOutcome (join left right request) (join right left request.mirrored) := by
  cases result : join left right request with
  | error failure =>
    have unjoinable : Unjoinable left right request.on request.leftOn request.rightOn := by
      by_contra joinable
      obtain ⟨keys, _, isKeys, _, joined⟩ := join_eq_of_joinable joinable
      rw [renamesWritable_of_divide (divide_of_apart isKeys isApart), result] at joined
      cases joined
    obtain ⟨error, obstacle⟩ := exists_obstacle_iff.mpr unjoinable.symm
    have failed : join right left request.mirrored = .error error.failure :=
      join_of_obstacle obstacle
    rw [failed]
    exact .error trivial
  | ok frame =>
    obtain ⟨keys, leftType, rightType, isKeys, inLeft, inRight, fits, _, rfl⟩ :=
      join_eq_ok_iff.mp result
    have divide := divide_of_apart isKeys isApart
    have bases := ColumnType.same_iff.mp fits
    have succeeded : join right left request.mirrored = .ok
        { columns := joinedColumns keys.mirrored request.kind.mirrored leftType right left } := by
      refine join_eq_ok_iff.mpr ⟨keys.mirrored, rightType, leftType, ?_, ?_, ?_, ?_,
        renamesWritable_of_divide divide.symm, rfl⟩
      · rw [request.keys?_mirrored, isKeys]
        rfl
      · rw [keys.left_mirrored]
        exact inRight
      · rw [keys.right_mirrored]
        exact inLeft
      · exact ColumnType.same_iff.mpr bases.symm
    have columns := joinedColumns_mirrored divide notInner inLeft inRight bases
    rw [succeeded]
    refine .ok ?_
    rw [Frame.same, Bool.and_eq_true]
    exact ⟨Frame.sameColumns_iff.mpr columns, rfl⟩

/-- Left and right joins are mirror images of each other, and full joins of themselves, where the
frames have no name in common but the key that they share. -/
theorem join_mirrored (left right : Frame) (on leftOn rightOn : Option Literal)
    (isApart : apart on left right = true) :
    SameOutcome (join left right { on, leftOn, rightOn, kind := .ofName "left" })
      (join right left { on, leftOn := rightOn, rightOn := leftOn, kind := .ofName "right" }) ∧
    SameOutcome (join left right { on, leftOn, rightOn, kind := .ofName "full" })
      (join right left { on, leftOn := rightOn, rightOn := leftOn, kind := .ofName "full" }) := by
  have isRight : JoinKind.ofName "right" = .right := rfl
  have isFull : JoinKind.ofName "full" = .full := rfl
  rw [isRight, isFull]
  exact ⟨sameOutcome_mirrored { on, leftOn, rightOn, kind := .left } isApart nofun,
    sameOutcome_mirrored { on, leftOn, rightOn, kind := .full } isApart nofun⟩

def members : Frame :=
  .ofList [(.text "name", .utf8), (.text "k", .int64)]

def scores : Frame :=
  .ofList [(.text "k", .nullable .int64), (.text "score", .float64)]

theorem members_scores_mirrored :
    apart (some (.text "k")) members scores = true ∧
    ∃ frame other,
      join members scores { on := some (.text "k"), kind := .ofName "left" } = .ok frame ∧
      join scores members { on := some (.text "k"), kind := .ofName "right" } = .ok other ∧
      frame.names.map Literal.display = ["name", "k", "score"] ∧
      other.names.map Literal.display = ["k", "score", "name"] ∧
      frame.column? (.text "k") = some .int64 ∧ frame.same other = true := by
  have isApart : apart (some (.text "k")) members scores = true := by decide +kernel
  obtain ⟨sides, _⟩ := join_mirrored members scores (some (.text "k")) none none isApart
  refine ⟨isApart, _, _, rfl, rfl, by decide +kernel, by decide +kernel, rfl, ?_⟩
  cases sides with
  | ok same => exact same

end FrameCheck.Typing
