import FrameCheck.Proofs.Canonical
import FrameCheck.Proofs.PlainFrames

/-!
Frame operations on frames that are alike. Grouped aggregation and column expressions look for
columns by name only, so that their results are alike, and they find fault with as many things.
The same holds of the arguments of functions with a signature.
-/

namespace FrameCheck

theorem ResultsAlike.foldlM {ε : Type u} {α : Type v} {β : Type w} {failures : ε → ε → Prop}
    {related : β → β → Prop} {leftStep rightStep : β → α → Except ε β} (items : List α)
    (step : ∀ item ∈ items, ∀ left right, related left right →
      ResultsAlike failures related (leftStep left item) (rightStep right item))
    {left right : β} (start : related left right) :
    ResultsAlike failures related (items.foldlM leftStep left) (items.foldlM rightStep right) := by
  induction items generalizing left right with
  | nil => exact .ok start
  | cons first rest inRest =>
    rw [List.foldlM_cons, List.foldlM_cons]
    refine (step first List.mem_cons_self left right start).bind fun _ _ => inRest ?_
    exact fun item member => step item (List.mem_cons_of_mem _ member)

namespace Typing

/-! ## Grouped aggregation -/

theorem isSummable_canonical (type : ColumnType) :
    isSummable type.canonical = isSummable type := by
  cases type with
  | scalar kind => rfl
  | _ => rfl

theorem isNumeric_alike {type other : ColumnType} (alike : type.Alike other) :
    isNumeric type = isNumeric other := by
  unfold isNumeric
  rw [← isSummable_canonical type.base, ← isSummable_canonical other.base]
  exact congrArg isSummable alike.base

theorem resultType_alike (aggregation : Aggregation) {type other : ColumnType}
    (alike : type.Alike other) :
    ResultsAlike Failure.Alike ColumnType.Alike (aggregation.resultType type)
      (aggregation.resultType other) := by
  have numeric := isNumeric_alike alike
  cases aggregation with
  | sum =>
    simp only [Aggregation.resultType, numeric]
    split
    · exact .ok alike
    · exact .error (Failure.alike_of alike.isWritable)
  | mean =>
    simp only [Aggregation.resultType, numeric, alike.isNullable]
    split
    · exact .ok (.refl _)
    · exact .error (Failure.alike_of alike.isWritable)
  | count | nUnique => exact .ok (.refl _)
  | list => exact .ok alike.list
  | first | last | min | max => exact .ok alike
  | unknown name => exact .error rfl

section Aggregate

variable {frame other : Frame}

theorem addKey_alike (alike : frame.Alike other) (key : Literal) (left right : Columns)
    (columns : Table.Agrees ColumnType.Alike left right) :
    ResultsAlike Failure.Alike (Table.Agrees ColumnType.Alike) (addKey frame left key)
      (addKey other right key) := by
  unfold addKey
  have types := alike.column? key
  generalize frame.column? key = type? at types
  generalize other.column? key = otherType? at types
  cases types with
  | none => exact .error rfl
  | some types => exact .ok (columns.insert key types)

theorem addAggregation_alike (alike : frame.Alike other) (item : AggregationColumn)
    (left right : Columns) (columns : Table.Agrees ColumnType.Alike left right) :
    ResultsAlike Failure.Alike (Table.Agrees ColumnType.Alike) (addAggregation frame left item)
      (addAggregation other right item) := by
  unfold addAggregation
  have types := alike.column? item.column
  generalize frame.column? item.column = type? at types
  generalize other.column? item.column = otherType? at types
  cases types with
  | none => exact .error rfl
  | some types =>
    refine (resultType_alike item.aggregation types).bind fun _ _ results => ?_
    exact .ok (columns.insert item.outputName results)

theorem aggregate_alike (alike : frame.Alike other) (keys : List Literal)
    (items : List AggregationColumn) :
    ResultsAlike Failure.Alike Frame.Alike (aggregate frame keys items)
      (aggregate other keys items) := by
  have empty : Table.Agrees ColumnType.Alike (Table.empty : Columns) .empty := .refl .refl _
  refine (ResultsAlike.foldlM keys (fun key _ => addKey_alike alike key) empty).bind
    fun _ _ keyColumns => ?_
  refine (ResultsAlike.foldlM items (fun item _ => addAggregation_alike alike item)
    keyColumns).bind fun _ _ columns => ?_
  exact .ok columns

end Aggregate

/-! ## Types that are asked for -/

theorem serves_alike {type other : ColumnType} (alike : type.Alike other) (expected : ColumnType) :
    serves type expected = serves other expected := by
  unfold serves
  rw [alike.same (.refl expected)]
  split
  · rfl
  · cases expected with
    | nullable inner => simp only [alike.isNullable, alike.same (.refl inner)]
    | _ => rfl

theorem frameServes_alike {frame other : Frame} (alike : frame.Alike other) (expected : Frame) :
    frameServes frame expected = frameServes other expected := by
  unfold frameServes
  congr 1
  funext column
  have types := alike.column? column.1
  generalize frame.column? column.1 = type? at types
  generalize other.column? column.1 = otherType? at types
  cases types with
  | none => rfl
  | some types => exact serves_alike types column.2

end Typing

namespace Analysis

open Syntax Typing

/-! ## Column expressions -/

structure OutputColumn.Alike (left right : OutputColumn) : Prop where
  name : left.name = right.name
  type : Option.Rel ColumnType.Alike left.type right.type

abbrev NamedAlike (first second : ColumnNotFound) : Prop :=
  first.name = second.name

section Columns

variable {frame other : Frame}

theorem plainColumn_alike (alike : frame.Alike other) (label : Literal) (expression : Expr) :
    ResultsAlike NamedAlike OutputColumn.Alike (plainColumn frame label expression)
      (plainColumn other label expression) := by
  unfold plainColumn
  split
  next name isName =>
    split
    · exact .ok ⟨rfl, .none⟩
    · unfold columnType
      have types := alike.column? name
      generalize frame.column? name = type? at types
      generalize other.column? name = otherType? at types
      cases types with
      | none => exact .error rfl
      | some types => exact .ok ⟨rfl, .some types⟩
  next =>
    split
    · split
      · exact .ok ⟨rfl, .some (.refl _)⟩
      · exact .ok ⟨rfl, .none⟩
    · exact .ok ⟨rfl, .none⟩

theorem arithmeticColumn_alike (label : Literal) {left right : OutputColumn}
    (alike : left.Alike right) :
    (arithmeticColumn label left).Alike (arithmeticColumn label right) := by
  obtain ⟨name, type?⟩ := left
  obtain ⟨otherName, otherType?⟩ := right
  obtain ⟨names, types⟩ := alike
  cases types with
  | none => exact ⟨rfl, .none⟩
  | some types => exact ⟨congrArg (preferredName label) names, .some types⟩

theorem columnUnder_alike (alike : frame.Alike other) (label : Literal) (expression : Expr) :
    ResultsAlike NamedAlike OutputColumn.Alike (columnUnder frame label expression)
      (columnUnder other label expression) := by
  fun_induction columnUnder frame label expression with
  | case1 label inner leftLabel others keywords operator right inLeft =>
    rw [columnUnder]
    exact inLeft.bind fun _ _ columns => .ok (arithmeticColumn_alike label columns)
  | case2 label left operator right notAlias inLeft =>
    rw [columnUnder]
    · exact inLeft.bind fun _ _ columns => .ok (arithmeticColumn_alike label columns)
    · exact notAlias
  | case3 label expression notAlias notBinary =>
    rw [columnUnder]
    · exact plainColumn_alike alike label expression
    · exact notAlias
    · exact notBinary

/-- Arguments yield columns that are alike, and look for the same ones in vain. -/
theorem outputColumns_alike (alike : frame.Alike other) (arguments : List Expr) :
    List.Forall₂ (fun left right => left.1 = right.1 ∧ ColumnType.Alike left.2 right.2)
      (outputColumns frame arguments).1 (outputColumns other arguments).1 ∧
    List.Forall₂ NamedAlike (outputColumns frame arguments).2
      (outputColumns other arguments).2 := by
  induction arguments with
  | nil => exact ⟨.nil, .nil⟩
  | cons first rest inRest =>
    have firstAlike : ResultsAlike NamedAlike OutputColumn.Alike (outputColumn frame first)
        (outputColumn other first) := columnUnder_alike alike _ _
    simp only [outputColumns]
    generalize outputColumn frame first = result at firstAlike
    generalize outputColumn other first = otherResult at firstAlike
    cases firstAlike with
    | error names => exact ⟨inRest.1, .cons names inRest.2⟩
    | @ok column otherColumn columns =>
      obtain ⟨name, type?⟩ := column
      obtain ⟨otherName, otherType?⟩ := otherColumn
      obtain ⟨names, types⟩ := columns
      dsimp only at names types
      subst names
      cases types with
      | none => exact inRest
      | some types =>
        dsimp only
        split
        · exact inRest
        · exact ⟨.cons ⟨rfl, types⟩ inRest.1, inRest.2⟩

end Columns

/-! ## Arguments -/

abbrev ArgumentsAlike (left right : List (Option Frame)) : Prop :=
  List.Forall₂ (Option.Rel Frame.Alike) left right

theorem argumentProblems_length {frame other : Frame} (alike : frame.Alike other)
    (parameter : Text) (expected : Frame) :
    (argumentProblems parameter frame expected).length =
      (argumentProblems parameter other expected).length := by
  unfold argumentProblems
  induction expected.columns.entries with
  | nil => rfl
  | cons column rest inRest =>
    rw [List.filterMap_cons, List.filterMap_cons]
    have types := alike.column? column.1
    generalize frame.column? column.1 = type? at types
    generalize other.column? column.1 = otherType? at types
    cases types with
    | none => simpa using inRest
    | some types =>
      simp only [serves_alike types]
      cases serves _ column.2 with
      | true => exact inRest
      | false => simpa using inRest

theorem callProblems_length (signature : Signature) (position : Nat)
    {arguments others : List (Option Frame)} (alike : ArgumentsAlike arguments others) :
    (callProblems signature position arguments).length =
      (callProblems signature position others).length := by
  induction alike generalizing position with
  | nil => rfl
  | @cons argument other rest otherRest argumentsAlike _ inRest =>
    simp only [callProblems, List.length_append, inRest (position + 1)]
    congr 1
    cases argumentsAlike with
    | none => rfl
    | some frames =>
      cases signature.parameterAt? position with
      | none => rfl
      | some parameter =>
        simp only [frameServes_alike frames]
        split
        · rfl
        · exact argumentProblems_length frames _ _

end Analysis

end FrameCheck
