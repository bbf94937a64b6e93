import FrameCheck.Proofs.ClearJoins
import FrameCheck.Proofs.Lockstep

/-!
Two walks from frames that are alike. They answer calls in different ways. Where the joins of
the second one are clear, they stay alike as long as the answers do.
-/

namespace FrameCheck

structure Frame.Paired (left right : Frame) : Prop where
  leftPlain : left.Plain
  rightPlain : right.Plain
  alike : left.Alike right

theorem Frame.Plain.paired {frame : Frame} (plain : frame.Plain) : frame.Paired frame :=
  ⟨plain, plain, .refl frame⟩

theorem Frame.Paired.symm {left right : Frame} (paired : left.Paired right) : right.Paired left :=
  ⟨paired.rightPlain, paired.leftPlain, paired.alike.symm⟩

namespace Analysis

open Syntax Typing

/-! ## Pairs of walks -/

/-- Frames are alike, and as many problems are noted. Of what the first walk remembers a property
holds. -/
def pairing (memory : Memo → Prop) : Comparison where
  frames := Frame.Paired
  problems left right := left.length = right.length
  memory := memory
  note lengths further := by simp [lengths, further]

abbrev Walk.Paired (memory : Memo → Prop) (left right : Walk) : Prop :=
  left.Compares (pairing memory) right

def clearCheck (registry : Registry) (leftHelper rightHelper : HelperCall)
    (clearCall : ClearCall) : Check registry leftHelper rightHelper where
  expression expression _ right := clearExpr registry rightHelper clearCall expression right = true
  expressions expressions _ right :=
    clearAll registry rightHelper clearCall expressions right = true
  effects effects _ right := clearEffects registry rightHelper clearCall effects right = true
  call info _ arguments _ right := clearCall info arguments right = true
  join _ _ otherLeft otherRight keywords :=
    isClearJoin otherLeft otherRight (joinRequest keywords) = true
  aggregate _ _ _ _ := True
  columns _ _ _ := True
  arguments_of clear registered := by
    simp only [clearExpr, registered, Bool.and_eq_true] at clear
    exact clear.1
  call_of clear registered untyped _ rightRun := by
    simp only [clearExpr, registered, untyped, rightRun, Bool.and_eq_true] at clear
    exact clear.2
  grouped_of clear := by
    rwa [clearExpr] at clear
  aggregate_of _ _ _ := trivial
  receiver_of := by
    intro receiver method arguments keywords left right notAgg clear
    by_cases isJoin : method = "join"
    · subst isJoin
      cases arguments with
      | nil =>
        rw [clearExpr] at clear
        all_goals simp_all
      | cons rightOperand others =>
        simp only [clearExpr, Bool.and_eq_true] at clear
        exact clear.1
    · rw [clearExpr] at clear
      all_goals simp_all
  right_of clear _ rightRun := by
    simp only [clearExpr, rightRun, Bool.and_eq_true] at clear
    exact clear.2.1
  join_of clear _ rightRun _ lastRun := by
    simp only [clearExpr, rightRun, lastRun, Bool.and_eq_true] at clear
    exact clear.2.2
  columns_of _ _ _ _ := trivial
  first_of clear := by
    simp only [clearAll, Bool.and_eq_true] at clear
    exact clear.1
  rest_of clear _ rightRun := by
    simp only [clearAll, rightRun, Bool.and_eq_true] at clear
    exact clear.2
  value_of clear := by
    simp only [clearEffects, Bool.and_eq_true, Option.all_eq_true] at clear
    exact clear.1
  later_of clear _ rightRun := by
    simp only [clearEffects, rightRun, Bool.and_eq_true] at clear
    exact clear.2

/-! ## Frame operations -/

section Operations

variable {allowed : Fault → Prop} {memory : Memo → Prop} {left right : Walk}

theorem joinCall_paired {leftFrame rightFrame otherLeft otherRight : Frame}
    {keywords : List Keyword} (lefts : leftFrame.Paired otherLeft)
    (rights : rightFrame.Paired otherRight)
    (clear : isClearJoin otherLeft otherRight (joinRequest keywords) = true)
    (paired : left.Paired memory right) :
    Walker.Follows allowed (joinCall leftFrame rightFrame keywords) left
      (joinCall otherLeft otherRight keywords) right ((pairing memory).AnswerBy Frame.Alike) := by
  have joined := join_alike lefts.alike rights.alike rights.leftPlain rights.rightPlain clear
  exact attempt_follows joined (fun _ _ => RefusedWith.of_alike) paired

theorem aggregateCall_paired {frame other : Frame} (frames : frame.Paired other)
    (keys items : List Expr) (paired : left.Paired memory right) :
    Walker.Follows allowed (aggregateCall frame keys items) left (aggregateCall other keys items)
      right ((pairing memory).AnswerBy Frame.Alike) := by
  have results := aggregate_alike frames.alike (groupKeys keys) (items.filterMap aggregationColumn?)
  exact attempt_follows results (fun _ _ => RefusedWith.of_alike) paired

/-- Where the columns that are looked for in vain are the same, the messages can be written for
a plain frame if they can for another one. -/
theorem unknownColumns_writableWith {condition : Prop} {frame other : Frame} (plain : frame.Plain)
    {arguments : List Expr} (every : ∀ argument ∈ arguments, argument.Every (Admitted condition))
    (missing : List.Forall₂ NamedAlike (outputColumns frame arguments).2
      (outputColumns other arguments).2) :
    List.Forall₂ Problem.WritableWith ((outputColumns frame arguments).2.map .unknownColumn)
      ((outputColumns other arguments).2.map .unknownColumn) := by
  have available : ∀ error ∈ (outputColumns frame arguments).2, error.available = frame.names :=
    fun error isMissing => ((outputColumns_admitted plain every).2 error isMissing).2
  rw [List.forall₂_map_left_iff, List.forall₂_map_right_iff]
  refine ((List.forall₂_and_left _ _).mpr ⟨available, missing⟩).imp ?_
  rintro error otherError ⟨isAvailable, names⟩ writable
  rw [Problem.isWritable, ColumnNotFound.isWritable, Bool.and_eq_true] at writable ⊢
  refine ⟨names ▸ writable.1, ?_⟩
  rw [isAvailable, List.all_eq_true]
  exact fun label inFrame => (plain label inFrame).isWritable

theorem selectCall_paired {condition : Prop} {frame other : Frame} (frames : frame.Paired other)
    {arguments : List Expr} (every : ∀ argument ∈ arguments, argument.Every (Admitted condition))
    (paired : left.Paired memory right) :
    Walker.Follows allowed (selectCall frame arguments) left (selectCall other arguments) right
      ((pairing memory).AnswerBy Frame.Alike) := by
  obtain ⟨columns, missing⟩ := outputColumns_alike frames.alike arguments
  have problems := unknownColumns_writableWith frames.leftPlain every missing
  refine (report_follows problems paired).bind fun _ _ _ _ _ _ afterPaired => ?_
  refine .pure ⟨?_, afterPaired⟩
  have lengths := columns.length_eq
  split
  next isEmpty =>
    rw [if_pos (by simp_all)]
    exact .none
  next notEmpty =>
    rw [if_neg (by
      intro isEmpty
      simp_all)]
    exact .some ((Table.Agrees.refl .refl _).insertAll columns)

theorem withColumnsCall_paired {condition : Prop} {frame other : Frame}
    (frames : frame.Paired other) {arguments : List Expr}
    (every : ∀ argument ∈ arguments, argument.Every (Admitted condition))
    (paired : left.Paired memory right) :
    Walker.Follows allowed (withColumnsCall frame arguments) left
      (withColumnsCall other arguments) right ((pairing memory).AnswerBy Frame.Alike) := by
  obtain ⟨columns, missing⟩ := outputColumns_alike frames.alike arguments
  have problems := unknownColumns_writableWith frames.leftPlain every missing
  refine (report_follows problems paired).bind fun _ _ _ _ _ _ afterPaired => ?_
  exact .pure ⟨.some (Table.Agrees.insertAll frames.alike columns), afterPaired⟩

theorem forall₂_alike {left right : List (Option Frame)}
    (paired : List.Forall₂ (Option.Rel Frame.Paired) left right) : ArgumentsAlike left right := by
  refine paired.imp fun first second frames => ?_
  cases frames with
  | none => exact .none
  | some frames => exact .some frames.alike

theorem operations_follow_paired {condition : Prop} {registry : Registry}
    {leftHelper rightHelper : HelperCall} {clearCall : ClearCall} :
    OperationsFollow allowed (pairing memory) (Admitted condition)
      (clearCheck registry leftHelper rightHelper clearCall) where
  join every _ _ _ _ lefts rights clear _ _ paired :=
    operation_follows Frame.Paired.mk
      (operations_keep_plain.join every lefts.leftPlain rights.leftPlain _)
      (operations_keep_plain.join every lefts.rightPlain rights.rightPlain _)
      (joinCall_paired lefts rights clear paired)
  aggregate every _ _ frames _ _ _ paired :=
    operation_follows Frame.Paired.mk
      (operations_keep_plain.aggregate every frames.leftPlain _)
      (operations_keep_plain.aggregate every frames.rightPlain _)
      (aggregateCall_paired frames _ _ paired)
  select every _ _ frames _ _ _ paired :=
    operation_follows Frame.Paired.mk
      (operations_keep_plain.select every frames.leftPlain _)
      (operations_keep_plain.select every frames.rightPlain _)
      (selectCall_paired frames (fun _ member => every.argument member) paired)
  withColumns every _ _ frames _ _ _ paired :=
    operation_follows Frame.Paired.mk
      (operations_keep_plain.withColumns every frames.leftPlain _)
      (operations_keep_plain.withColumns every frames.rightPlain _)
      (withColumnsCall_paired frames (fun _ member => every.argument member) paired)
  call signature _ _ arguments _ _ lengths := by
    have further := callProblems_length signature 0 (forall₂_alike arguments)
    exact (pairing memory).note lengths further

end Operations

end Analysis

end FrameCheck
