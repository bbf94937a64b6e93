import FrameCheck.Proofs.Calls
import FrameCheck.Proofs.Steps

/-!
What finding frames changes in a walk. Problems are added to those that are there, and results
are remembered; variables and the returned frame stay as they are. A call of a function without
a signature adds no problem: those that are noted in its body are dropped with the walk through
it.
-/

namespace FrameCheck.Analysis

open Syntax Typing

/-! ## Walks that go on -/

/-- Whether a problem is one of the hints of a function. No such problem is noted in a body. -/
def Problem.isOfHint : Problem → Bool
  | .parameterSchema _ _ | .returnSchema _ => true
  | _ => false

def Walk.Grows (walk after : Walk) : Prop :=
  ∃ added, after.problems = walk.problems ++ added ∧
    ∀ problem ∈ added, problem.isOfHint = false

structure Walk.Extends (walk after : Walk) : Prop where
  frames : after.frames = walk.frames
  returned : after.returned = walk.returned
  grows : walk.Grows after

namespace Walk

variable {first second third : Walk}

theorem Grows.of_eq (same : second.problems = first.problems) : first.Grows second :=
  ⟨[], by simp [same], by simp⟩

theorem Grows.trans (firstGrows : first.Grows second) (secondGrows : second.Grows third) :
    first.Grows third := by
  obtain ⟨early, isEarly, ofBody⟩ := firstGrows
  obtain ⟨late, isLate, lateOfBody⟩ := secondGrows
  refine ⟨early ++ late, by rw [isLate, isEarly, List.append_assoc], ?_⟩
  intro problem member
  rcases List.mem_append.mp member with isEarly | isLate
  · exact ofBody problem isEarly
  · exact lateOfBody problem isLate

theorem Extends.refl (walk : Walk) : walk.Extends walk :=
  ⟨rfl, rfl, .of_eq rfl⟩

theorem Extends.trans (firstExtends : first.Extends second) (secondExtends : second.Extends third) :
    first.Extends third :=
  ⟨secondExtends.frames.trans firstExtends.frames,
    secondExtends.returned.trans firstExtends.returned,
    firstExtends.grows.trans secondExtends.grows⟩

end Walk

/-! ## Frame operations -/

def Walker.Extending (step : Walker α) : Prop :=
  ∀ walk, Walker.Yields AnyFault step walk fun _ after => walk.Extends after

namespace Walker.Extending

theorem pure (value : α) : Extending (Pure.pure value) :=
  fun walk => .refl walk

theorem throw (fault : Fault) : Extending (MonadExcept.throw fault : Walker α) :=
  fun _ => trivial

theorem bind {step : Walker α} {next : α → Walker β} (first : Extending step)
    (second : ∀ value, Extending (next value)) : Extending (step >>= next) := by
  intro walk
  refine (first walk).bind fun value middle extended => ?_
  exact (second value middle).mono fun _ _ further => extended.trans further

theorem onFrame {step : Walker (Option Frame)} {next : Frame → Walker (Option Frame)}
    (first : Extending step) (second : ∀ frame, Extending (next frame)) :
    Extending (Walker.onFrame step next) := by
  refine first.bind fun frame => ?_
  cases frame with
  | none => exact .pure none
  | some frame => exact second frame

theorem ok {step : Walker α} (extending : Extending step) {walk after : Walk} {value : α}
    (result : step walk = .ok value after) : walk.Extends after := by
  have yields := extending walk
  unfold Yields at yields
  rwa [result] at yields

end Walker.Extending

theorem note_extending {problems : List Problem}
    (ofBody : ∀ problem ∈ problems, problem.isOfHint = false) :
    Walker.Extending (Walker.note problems) :=
  fun _ => ⟨rfl, rfl, problems, rfl, ofBody⟩

theorem report_extending {problems : List Problem}
    (ofBody : ∀ problem ∈ problems, problem.isOfHint = false) :
    Walker.Extending (Walker.report problems) := by
  unfold Walker.report
  split
  · exact note_extending ofBody
  · exact .throw .longNumber

theorem attempt_extending {ε : Type} {result : Except (Failure ε) Frame} {note : ε → Problem}
    (ofBody : ∀ error, (note error).isOfHint = false) :
    Walker.Extending (Walker.attempt (result.mapError (.map note))) := by
  cases result with
  | ok frame => exact .pure (some frame)
  | error failure =>
    cases failure with
    | refused error =>
      refine (note_extending fun noted member => ?_).bind fun _ => .pure none
      rw [List.mem_singleton.mp member]
      exact ofBody error
    | longNumber => exact .throw .longNumber

theorem joinCall_extending (left right : Frame) (keywords : List Keyword) :
    Walker.Extending (joinCall left right keywords) :=
  attempt_extending fun _ => rfl

theorem aggregateCall_extending (frame : Frame) (keys items : List Expr) :
    Walker.Extending (aggregateCall frame keys items) :=
  attempt_extending fun _ => rfl

theorem unknownColumns_ofBody (missing : List ColumnNotFound) :
    ∀ problem ∈ missing.map Problem.unknownColumn, problem.isOfHint = false := by
  intro problem member
  obtain ⟨error, _, rfl⟩ := List.mem_map.mp member
  rfl

theorem selectCall_extending (frame : Frame) (arguments : List Expr) :
    Walker.Extending (selectCall frame arguments) :=
  (report_extending (unknownColumns_ofBody _)).bind fun _ => .pure _

theorem withColumnsCall_extending (frame : Frame) (arguments : List Expr) :
    Walker.Extending (withColumnsCall frame arguments) :=
  (report_extending (unknownColumns_ofBody _)).bind fun _ => .pure _

/-! ## Calls -/

theorem argumentProblems_ofBody (parameter : Text) (actual expected : Frame) :
    ∀ problem ∈ argumentProblems parameter actual expected, problem.isOfHint = false := by
  intro problem member
  obtain ⟨column, _, isProblem⟩ := List.mem_filterMap.mp member
  split at isProblem
  · cases isProblem
    rfl
  · split at isProblem
    · cases isProblem
    · cases isProblem
      rfl

theorem callProblems_ofBody (signature : Signature) (position : Nat)
    (arguments : List (Option Frame)) :
    ∀ problem ∈ callProblems signature position arguments, problem.isOfHint = false := by
  induction arguments generalizing position with
  | nil => simp [callProblems]
  | cons argument rest inRest =>
    intro problem member
    unfold callProblems at member
    rcases List.mem_append.mp member with here | later
    · split at here
      · split at here
        · cases here
        · exact argumentProblems_ofBody _ _ _ problem here
      · cases here
    · exact inRest (position + 1) problem later

/-- A call of a function without a signature changes only what its caller remembers. -/
theorem callHelper_eq_ok {registry : Registry} {depth : Nat} {info : FunctionInfo}
    {arguments : List (Option Frame)} {walk after : Walk} {frame : Option Frame}
    (result : callHelper registry depth info arguments walk = .ok frame after) :
    ∃ memo, after = { walk with memo := memo } := by
  rw [callHelper_eq_callsWith] at result
  cases depth with
  | zero => cases result
  | succ depth =>
    cases isOrdered : ordered arguments with
    | false =>
      rw [callsWith_of_unordered isOrdered] at result
      cases result
    | true =>
      rw [callsWith_of_ordered isOrdered] at result
      split at result
      · cases result
        exact ⟨walk.memo, rfl⟩
      · cases walked : walkBlock registry (callsWith Memo.find? registry depth)
            info.definition.body (callStart info arguments walk) with
        | error fault inner =>
          rw [enter_of_error walked] at result
          cases result
        | ok _ inner =>
          rw [enter_of_ok walked] at result
          cases result
          exact ⟨_, rfl⟩

theorem callHelper_extending (registry : Registry) (depth : Nat) (info : FunctionInfo)
    (arguments : List (Option Frame)) :
    Walker.Extending (callHelper registry depth info arguments) := by
  intro walk
  unfold Walker.Yields
  split
  next frame after result =>
    obtain ⟨memo, rfl⟩ := callHelper_eq_ok result
    exact ⟨rfl, rfl, .of_eq rfl⟩
  next => trivial

section Walks

variable {registry : Registry} {helper : HelperCall}

theorem functionCall_extending (helps : ∀ info arguments, Walker.Extending (helper info arguments))
    (info : FunctionInfo) (arguments : List (Option Frame)) :
    Walker.Extending (functionCall helper info arguments) := by
  unfold functionCall
  split
  · exact (note_extending (callProblems_ofBody _ _ _)).bind fun _ => .pure _
  · exact helps info arguments

theorem infer_extending (helps : ∀ info arguments, Walker.Extending (helper info arguments)) :
    (∀ expression : Expr, Walker.Extending (infer registry helper expression)) ∧
    ∀ expressions : List Expr, Walker.Extending (inferAll registry helper expressions) := by
  apply inferInduction registry
  case name =>
    intro identifier walk
    rw [Walker.Yields, infer_name]
    exact .refl walk
  case known =>
    intro function info arguments keywords registered inArguments
    rw [infer_known helper registered]
    exact inArguments.bind fun frames => functionCall_extending helps info frames
  case aggregation =>
    intro grouped keys keyKeywords items keywords inGrouped
    rw [infer_aggregation]
    exact .onFrame inGrouped fun frame => aggregateCall_extending frame keys items
  case join =>
    intro receiver right others keywords inReceiver inRight
    rw [infer_join]
    exact .onFrame inReceiver fun left => .onFrame inRight fun rightFrame =>
      joinCall_extending left rightFrame keywords
  case select =>
    intro receiver arguments keywords inReceiver
    rw [infer_select]
    exact .onFrame inReceiver fun frame => selectCall_extending frame arguments
  case withColumns =>
    intro receiver arguments keywords inReceiver
    rw [infer_withColumns]
    exact .onFrame inReceiver fun frame => withColumnsCall_extending frame arguments
  case otherMethod =>
    intro receiver method arguments keywords isOther inReceiver
    rw [infer_otherMethod helper isOther]
    exact .onFrame inReceiver fun _ => .pure none
  case frameless =>
    intro expression frameless
    rw [infer_of_isFrameless helper frameless]
    exact .pure none
  case nil =>
    rw [inferAll]
    exact .pure []
  case cons =>
    intro first rest inFirst inRest
    rw [inferAll]
    exact inFirst.bind fun frame => inRest.bind fun frames => .pure (frame :: frames)

end Walks

/-! ## Effects -/

def Walk.assigned (walk : Walk) (name : Text) : Option Frame → Walk
  | some frame => { walk with frames := walk.frames.insert name frame }
  | none => walk

theorem assign_eq_ok (name : Text) (frame : Option Frame) (walk : Walk) :
    Walker.assign name frame walk = .ok ⟨⟩ (walk.assigned name frame) := by
  cases frame <;> rfl

section Effects

variable {registry : Registry} {depth : Nat} {walk after : Walk}

theorem infer_extends {value : Expr} {frame : Option Frame}
    (result : infer registry (callHelper registry depth) value walk = .ok frame after) :
    walk.Extends after :=
  ((infer_extending (callHelper_extending registry depth)).1 value).ok result

theorem run_assign_iff {helper : HelperCall} {name : Text} {value : Expr} :
    (Effect.assign name value).run registry helper walk = .ok ⟨⟩ after ↔
      ∃ frame middle, infer registry helper value walk = .ok frame middle ∧
        after = middle.assigned name frame := by
  rw [Effect.run, Steps.bind_eq_ok_iff]
  refine exists₂_congr fun frame middle => and_congr_right fun _ => ?_
  rw [assign_eq_ok, EStateM.Result.ok.injEq, and_iff_right rfl]
  exact eq_comm

theorem run_give_iff {helper : HelperCall} {value : Expr} :
    (Effect.give value).run registry helper walk = .ok ⟨⟩ after ↔
      ∃ frame middle, infer registry helper value walk = .ok frame middle ∧
        after = { middle with returned := frame } := by
  rw [Effect.run, Steps.bind_eq_ok_iff]
  refine exists₂_congr fun frame middle => and_congr_right fun _ => ?_
  show EStateM.Result.ok PUnit.unit { middle with returned := frame } = _ ↔ _
  rw [EStateM.Result.ok.injEq, and_iff_right rfl]
  exact eq_comm

theorem run_declare_iff {helper : HelperCall} {name : Text} {hint : Expr} :
    (Effect.declare name hint).run registry helper walk = .ok ⟨⟩ after ↔
      after = walk.assigned name (declaredFrame? hint) := by
  rw [Effect.run, assign_eq_ok, EStateM.Result.ok.injEq, and_iff_right rfl]
  exact eq_comm

theorem Walk.problems_assigned (walk : Walk) (name : Text) (frame : Option Frame) :
    (walk.assigned name frame).problems = walk.problems := by
  cases frame <;> rfl

theorem Walk.returned_assigned (walk : Walk) (name : Text) (frame : Option Frame) :
    (walk.assigned name frame).returned = walk.returned := by
  cases frame <;> rfl

theorem returned_of_run {effect : Effect} (notGive : ∀ value, effect ≠ .give value)
    (result : effect.run registry (callHelper registry depth) walk = .ok ⟨⟩ after) :
    after.returned = walk.returned := by
  cases effect with
  | declare name hint => rw [run_declare_iff.mp result, Walk.returned_assigned]
  | assign name value =>
    obtain ⟨frame, middle, found, rfl⟩ := run_assign_iff.mp result
    rw [Walk.returned_assigned, (infer_extends found).returned]
  | give value => exact absurd rfl (notGive value)

theorem run_grows {effect : Effect}
    (result : effect.run registry (callHelper registry depth) walk = .ok ⟨⟩ after) :
    walk.Grows after := by
  cases effect with
  | declare name hint =>
    rw [run_declare_iff.mp result]
    exact .of_eq (walk.problems_assigned _ _)
  | assign name value =>
    obtain ⟨frame, middle, found, rfl⟩ := run_assign_iff.mp result
    exact (infer_extends found).grows.trans (.of_eq (middle.problems_assigned _ _))
  | give value =>
    obtain ⟨frame, middle, found, rfl⟩ := run_give_iff.mp result
    exact (infer_extends found).grows.trans (.of_eq rfl)

theorem runEffects_grows {effects : List Effect}
    (result : runEffects registry (callHelper registry depth) effects walk = .ok ⟨⟩ after) :
    walk.Grows after := by
  induction effects generalizing walk with
  | nil =>
    cases result
    exact .of_eq rfl
  | cons effect rest inRest =>
    obtain ⟨_, middle, first, others⟩ := Steps.bind_eq_ok_iff.mp result
    exact (run_grows first).trans (inRest others)

end Effects

end FrameCheck.Analysis
