import FrameCheck.Proofs.Canonical
import FrameCheck.Proofs.Joins
import FrameCheck.Proofs.PlainFrames

/-!
Joins and the order of columns. A column of the right frame is renamed when its name is taken
at its turn, so that the result may depend on the order of the right columns: a renamed column
can take the name of a later one. Clear joins are those where this cannot happen. Their result
is the same for all orders.
-/

namespace FrameCheck.Typing

def renamed (name : Literal) : Literal :=
  .text (name.display ++ "_right")

/-- No column of the right frame is renamed to the name of another one of them, unless the left
frame has that name too. -/
def JoinKeys.isClear (keys : JoinKeys) (left right : Frame) : Bool :=
  right.names.all fun name =>
    keys.isShared name || !left.hasColumn name || !right.hasColumn (renamed name) ||
      keys.isShared (renamed name) || left.hasColumn (renamed name)

/-- A join that fails, or comes to the same columns for all orders of columns. -/
def isClearJoin (left right : Frame) (request : JoinRequest) : Bool :=
  match join left right request, request.keys? with
  | .ok _, some keys => keys.isClear left right
  | _, _ => true

/-! ## Columns of a clear join -/

section Columns

variable {keys : JoinKeys} {kind : JoinKind} {left right : Frame}

def placed (kind : JoinKind) (left : Frame) (column : Literal × ColumnType) :
    Literal × ColumnType :=
  (rightColumnName left.columns column.1, nullableWhen kind.keepsLeft column.2)

def placedColumns (keys : JoinKeys) (kind : JoinKind) (left : Frame)
    (entries : List (Literal × ColumnType)) : List (Literal × ColumnType) :=
  (entries.filter fun column => !keys.isShared column.1).map (placed kind left)

/-- In a clear join, the name that a right column takes is not that of another right column,
unless the left frame has it. -/
theorem left_hasColumn_of_placed (clear : keys.isClear left right = true)
    {column other : Literal × ColumnType} (member : column ∈ right.columns.entries)
    (otherMember : other ∈ right.columns.entries) (notShared : keys.isShared column.1 = false)
    (otherNotShared : keys.isShared other.1 = false) (different : (column.1 == other.1) = false)
    (taken : (rightColumnName left.columns column.1 == other.1) = true) :
    left.hasColumn other.1 = true := by
  unfold rightColumnName at taken
  split at taken
  next inLeft =>
    have holds := List.all_eq_true.mp clear column.1 (List.mem_map_of_mem member)
    have renamedThere : right.hasColumn (renamed column.1) = true := by
      rw [Frame.hasColumn, Table.contains_eq, renamed, Table.get?_congr taken,
        Table.get?_of_mem otherMember]
      rfl
    have renamedNotShared : keys.isShared (renamed column.1) = false := by
      cases keys with
      | separate _ _ => rfl
      | shared key =>
        show (renamed column.1 == key) = false
        rw [renamed, BEq.congr_left taken]
        exact otherNotShared
    have inLeft' : left.hasColumn column.1 = true := inLeft
    simp only [notShared, inLeft', renamedThere, renamedNotShared, Bool.false_or, Bool.not_true,
      Bool.or_false] at holds
    rw [Frame.hasColumn, Table.contains_eq, renamed, Table.get?_congr taken,
      ← Table.contains_eq] at holds
    exact holds
  next => simp [different] at taken

/-- In a clear join, a right column is renamed when the left frame has its name, whatever
columns were added before. -/
theorem foldl_addRightColumn (clear : keys.isClear left right = true)
    {entries : List (Literal × ColumnType)} (included : ∀ column ∈ entries,
      column ∈ right.columns.entries)
    (distinct : entries.Pairwise fun first second => (first.1 == second.1) = false)
    {columns : Columns} (taken : ∀ column ∈ entries, keys.isShared column.1 = false →
      columns.contains column.1 = left.hasColumn column.1) :
    entries.foldl (addRightColumn keys kind) columns =
      columns.insertAll (placedColumns keys kind left entries) := by
  induction entries generalizing columns with
  | nil => rfl
  | cons column rest inRest =>
    rw [List.pairwise_cons] at distinct
    have member := included column List.mem_cons_self
    have inOthers := fun {columns} => @inRest
      (fun other isOther => included other (List.mem_cons_of_mem _ isOther)) distinct.2 columns
    rw [List.foldl_cons]
    cases shared : keys.isShared column.1 with
    | true =>
      have same : placedColumns keys kind left (column :: rest) =
          placedColumns keys kind left rest := by simp [placedColumns, shared]
      rw [same, addRightColumn, if_pos shared]
      exact inOthers fun other isOther => taken other (List.mem_cons_of_mem _ isOther)
    | false =>
      have next : placedColumns keys kind left (column :: rest) =
          placed kind left column :: placedColumns keys kind left rest := by
        simp [placedColumns, shared]
      have sameName : rightColumnName columns column.1 = rightColumnName left.columns column.1 := by
        have here : columns.contains column.1 = left.columns.contains column.1 :=
          taken column List.mem_cons_self shared
        rw [rightColumnName, rightColumnName, here]
      rw [next, addRightColumn, if_neg (by simp [shared]), sameName]
      refine inOthers fun other isOther otherNotShared => ?_
      have before := taken other (List.mem_cons_of_mem _ isOther) otherNotShared
      rw [Table.contains_insert, before]
      cases isTaken : rightColumnName left.columns column.1 == other.1 with
      | false => rfl
      | true =>
        have inLeft := left_hasColumn_of_placed clear member
          (included other (List.mem_cons_of_mem _ isOther)) shared otherNotShared
          (distinct.1 other isOther) isTaken
        simp [inLeft]

theorem joinedColumns_of_clear (clear : keys.isClear left right = true) (rightType : ColumnType) :
    joinedColumns keys kind rightType left right =
      (left.columns.mapValues (leftColumnType keys kind rightType)).insertAll
        (placedColumns keys kind left right.columns.entries) := by
  refine foldl_addRightColumn clear (fun _ member => member) right.columns.distinct ?_
  intro column _ _
  rw [Table.contains_mapValues]
  rfl

theorem eq_of_renamed {first second : Literal} (firstText : first.IsText)
    (secondText : second.IsText) (same : (renamed first == renamed second) = true) :
    first = second := by
  obtain ⟨left, rfl⟩ := firstText
  obtain ⟨right, rfl⟩ := secondText
  have values := Literal.beq_iff.mp same
  simp only [renamed, Literal.value, Literal.display, Literal.Value.text.injEq] at values
  have points : left.points ++ (Text.ofString "_right").points =
      right.points ++ (Text.ofString "_right").points := congrArg Text.points values
  have equal := List.append_cancel_right points
  cases left
  cases right
  simp_all

theorem distinct_placedColumns (clear : keys.isClear left right = true) (plain : right.Plain) :
    (placedColumns keys kind left right.columns.entries).Pairwise
      fun first second => (first.1 == second.1) = false := by
  refine List.pairwise_map.mpr ((right.columns.distinct.filter _).imp_of_mem ?_)
  intro first second firstMember secondMember different
  obtain ⟨inFirst, firstShared⟩ := List.mem_filter.mp firstMember
  obtain ⟨inSecond, secondShared⟩ := List.mem_filter.mp secondMember
  simp only [Bool.not_eq_true'] at firstShared secondShared
  show (rightColumnName left.columns first.1 == rightColumnName left.columns second.1) = false
  cases firstLeft : left.columns.contains first.1 with
  | false =>
    have keptName : rightColumnName left.columns first.1 = first.1 := by
      simp [rightColumnName, firstLeft]
    rw [keptName, BEq.comm, ← Bool.not_eq_true]
    intro taken
    have inLeft := left_hasColumn_of_placed clear inSecond inFirst secondShared firstShared
      (by rw [BEq.comm]; exact different) taken
    simp [Frame.hasColumn, firstLeft] at inLeft
  | true =>
    cases secondLeft : left.columns.contains second.1 with
    | false =>
      have keptName : rightColumnName left.columns second.1 = second.1 := by
        simp [rightColumnName, secondLeft]
      rw [keptName, ← Bool.not_eq_true]
      intro taken
      have inLeft := left_hasColumn_of_placed clear inFirst inSecond firstShared secondShared
        different taken
      simp [Frame.hasColumn, secondLeft] at inLeft
    | true =>
      rw [rightColumnName, rightColumnName, if_pos firstLeft, if_pos secondLeft, ← Bool.not_eq_true]
      intro same
      have equal := eq_of_renamed (plain _ (List.mem_map_of_mem inFirst))
        (plain _ (List.mem_map_of_mem inSecond)) same
      simp [equal] at different

end Columns

/-! ## Joins of frames that are alike -/

section Alike

variable {keys : JoinKeys} {kind : JoinKind} {left right otherLeft otherRight : Frame}

theorem nullableWhen_alike (condition : Bool) {type other : ColumnType} (alike : type.Alike other) :
    (nullableWhen condition type).Alike (nullableWhen condition other) := by
  unfold nullableWhen
  split
  · exact alike.makeNullable
  · exact alike

theorem leftColumnType_alike (name : Literal) {rightType otherRightType type other : ColumnType}
    (rightTypes : rightType.Alike otherRightType) (types : type.Alike other) :
    (leftColumnType keys kind rightType name type).Alike
      (leftColumnType keys kind otherRightType name other) := by
  unfold leftColumnType
  split
  · split
    · exact types.makeNullable
    · exact rightTypes
    · exact types
    · exact types
  · exact nullableWhen_alike _ types

theorem leftColumnType_congr {rightType : ColumnType} (first second : Literal) (type : ColumnType)
    (same : (first == second) = true) :
    leftColumnType keys kind rightType first type =
      leftColumnType keys kind rightType second type := by
  have shared : keys.isShared first = keys.isShared second := by
    cases keys with
    | shared key => exact BEq.congr_left same
    | separate _ _ => rfl
  unfold leftColumnType
  rw [shared]

theorem exists_mem_of_alike (alike : right.Alike otherRight) (plain : right.Plain)
    {column : Literal × ColumnType} (member : column ∈ right.columns.entries) :
    ∃ type, (column.1, type) ∈ otherRight.columns.entries ∧ column.2.Alike type := by
  have related := alike column.1
  rw [Table.get?_of_mem member] at related
  cases found : otherRight.columns.get? column.1 with
  | none =>
    rw [found] at related
    cases related
  | some type =>
    rw [found] at related
    have isText := plain column.1 (List.mem_map_of_mem member)
    cases related with
    | some types => exact ⟨type, Frame.mem_entries_of_column? isText found, types⟩

theorem isClear_of_alike (lefts : left.Alike otherLeft) (rights : right.Alike otherRight)
    (plain : right.Plain) (clear : keys.isClear otherLeft otherRight = true) :
    keys.isClear left right = true := by
  refine List.all_eq_true.mpr fun name member => ?_
  obtain ⟨column, inRight, rfl⟩ := List.mem_map.mp member
  obtain ⟨type, inOther, _⟩ := exists_mem_of_alike rights plain inRight
  have inNames : column.1 ∈ otherRight.names := List.mem_map.mpr ⟨_, inOther, rfl⟩
  have holds := List.all_eq_true.mp clear column.1 inNames
  simpa only [lefts.hasColumn, rights.hasColumn] using holds

theorem lookup_placedColumns (lefts : left.Alike otherLeft) (rights : right.Alike otherRight)
    (plain : right.Plain) (otherPlain : otherRight.Plain)
    (clear : keys.isClear otherLeft otherRight = true) {label : Literal} {type : ColumnType}
    (found : Table.lookup label (placedColumns keys kind left right.columns.entries) =
      some type) :
    ∃ other, Table.lookup label (placedColumns keys kind otherLeft otherRight.columns.entries) =
      some other ∧ type.Alike other := by
  obtain ⟨entry, member, isLabel, rfl⟩ := Table.exists_of_lookup found
  obtain ⟨column, isColumn, rfl⟩ := List.mem_map.mp member
  obtain ⟨inRight, notShared⟩ := List.mem_filter.mp isColumn
  obtain ⟨otherType, inOther, types⟩ := exists_mem_of_alike rights plain inRight
  have otherPlaced : placed kind otherLeft (column.1, otherType) ∈
      placedColumns keys kind otherLeft otherRight.columns.entries :=
    List.mem_map_of_mem (List.mem_filter.mpr ⟨inOther, notShared⟩)
  have sameName : (placed kind otherLeft (column.1, otherType)).1 =
      (placed kind left column).1 := by
    have agrees := lefts.contains column.1
    simp only [placed, rightColumnName, agrees]
  refine ⟨(placed kind otherLeft (column.1, otherType)).2, ?_, nullableWhen_alike _ types⟩
  rw [← Table.lookup_congr isLabel, ← sameName]
  exact Table.lookup_of_mem (distinct_placedColumns clear otherPlain) otherPlaced

theorem joinedColumns_alike (lefts : left.Alike otherLeft) (rights : right.Alike otherRight)
    (plain : right.Plain) (otherPlain : otherRight.Plain)
    {rightType otherRightType : ColumnType} (rightTypes : rightType.Alike otherRightType)
    (clear : keys.isClear otherLeft otherRight = true) :
    Table.Agrees ColumnType.Alike (joinedColumns keys kind rightType left right)
      (joinedColumns keys kind otherRightType otherLeft otherRight) := by
  have leftClear := isClear_of_alike lefts rights plain clear
  rw [joinedColumns_of_clear leftClear, joinedColumns_of_clear clear]
  intro label
  rw [Table.get?_insertAll_of_distinct (distinct_placedColumns leftClear plain),
    Table.get?_insertAll_of_distinct (distinct_placedColumns clear otherPlain),
    Table.get?_mapValues leftColumnType_congr, Table.get?_mapValues leftColumnType_congr]
  have placedAlike : Option.Rel ColumnType.Alike
      (Table.lookup label (placedColumns keys kind left right.columns.entries))
      (Table.lookup label (placedColumns keys kind otherLeft otherRight.columns.entries)) := by
    refine Table.rel_of_answers ?_ fun type found => ?_
    · exact fun type found => lookup_placedColumns lefts rights plain otherPlain clear found
    · obtain ⟨other, isFound, _⟩ :=
        lookup_placedColumns lefts.symm rights.symm otherPlain plain leftClear found
      exact ⟨other, isFound⟩
  have leftAlike := lefts label
  generalize Table.lookup label (placedColumns keys kind left right.columns.entries) = first at *
  generalize Table.lookup label (placedColumns keys kind otherLeft otherRight.columns.entries) =
    second at *
  generalize left.columns.get? label = leftType at *
  generalize otherLeft.columns.get? label = otherLeftType at *
  cases placedAlike with
  | some types => exact .some types
  | none =>
    cases leftAlike with
    | none => exact .none
    | some types => exact .some (leftColumnType_alike label rightTypes types)

theorem isClear_of_isClearJoin {frame : Frame} {request : JoinRequest}
    (clear : isClearJoin left right request = true) (isKeys : request.keys? = some keys)
    (succeeded : join left right request = .ok frame) : keys.isClear left right = true := by
  simpa [isClearJoin, succeeded, isKeys] using clear

theorem join_alike {request : JoinRequest} (lefts : left.Alike otherLeft)
    (rights : right.Alike otherRight) (plain : right.Plain) (otherPlain : otherRight.Plain)
    (clear : isClearJoin otherLeft otherRight request = true) :
    ResultsAlike Failure.Alike Frame.Alike (join left right request)
      (join otherLeft otherRight request) := by
  cases isKeys : request.keys? with
  | none =>
    simp only [join_eq, isKeys]
    exact .error rfl
  | some keys =>
    have otherJoin := join_eq otherLeft otherRight request
    rw [otherJoin, join_eq]
    simp only [isKeys, Analysis.renamesWritable_of_plain plain,
      Analysis.renamesWritable_of_plain otherPlain, if_true] at otherJoin ⊢
    have leftTypes := lefts.column? keys.left
    generalize left.column? keys.left = leftType? at leftTypes
    generalize otherLeft.column? keys.left = otherLeftType? at leftTypes otherJoin
    cases leftTypes with
    | none => exact .error rfl
    | @some leftType otherLeftType leftTypes =>
      have rightTypes := rights.column? keys.right
      generalize right.column? keys.right = rightType? at rightTypes
      generalize otherRight.column? keys.right = otherRightType? at rightTypes otherJoin
      cases rightTypes with
      | none => exact .error rfl
      | @some rightType otherRightType rightTypes =>
        have sameTest := leftTypes.base.same rightTypes.base
        simp only [sameTest] at otherJoin ⊢
        split
        next fits =>
          simp only [fits, if_true] at otherJoin
          have isClear := isClear_of_isClearJoin clear isKeys otherJoin
          exact .ok (joinedColumns_alike lefts rights plain otherPlain rightTypes isClear)
        next =>
          refine .error (Failure.alike_of ?_)
          rw [JoinError.isWritable, JoinError.isWritable, leftTypes.isWritable,
            rightTypes.isWritable]

end Alike

end FrameCheck.Typing
