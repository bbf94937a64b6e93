import FrameCheck.Proofs.CallGraph
import FrameCheck.Proofs.Expressions
import FrameCheck.Proofs.Steps

/-!
Properties of frames that a walk keeps. A property that frame operations keep, and that
declared frames have, holds of every frame that a walk comes to: of its variables and of what
it returns. What a walk remembers changes in calls of functions without a signature only, so
that a property of it is kept when these calls keep it.

A walk may break off. The laws below are relative to the faults that are allowed.
-/

namespace FrameCheck.Analysis

open Syntax Typing

/-! ## Steps of a walk -/

/-- A step comes to a value and a walk with a property, or to a fault that is allowed. -/
def Walker.Yields (allowed : Fault → Prop) (step : Walker α) (walk : Walk)
    (outcome : α → Walk → Prop) : Prop :=
  match step walk with
  | .ok value after => outcome value after
  | .error fault _ => allowed fault

abbrev AnyFault : Fault → Prop := fun _ => True

abbrev NoFault : Fault → Prop := fun _ => False

namespace Walker.Yields

variable {allowed : Fault → Prop} {walk : Walk}

theorem pure {value : α} {outcome : α → Walk → Prop} (holds : outcome value walk) :
    Yields allowed (Pure.pure value) walk outcome :=
  holds

theorem modify {change : Walk → Walk} {outcome : PUnit → Walk → Prop}
    (holds : outcome ⟨⟩ (change walk)) :
    Yields allowed (modifyGet fun before => (⟨⟩, change before)) walk outcome :=
  holds

theorem throw {fault : Fault} {outcome : α → Walk → Prop} (tolerated : allowed fault) :
    Yields allowed (MonadExcept.throw fault) walk outcome :=
  tolerated

theorem bind {step : Walker α} {next : α → Walker β} {middle : α → Walk → Prop}
    {outcome : β → Walk → Prop} (first : Yields allowed step walk middle)
    (second : ∀ value after, middle value after → Yields allowed (next value) after outcome) :
    Yields allowed (step >>= next) walk outcome := by
  unfold Yields at first ⊢
  simp only [Bind.bind, EStateM.bind]
  cases result : step walk with
  | ok value after =>
    rw [result] at first
    exact second value after first
  | error fault after =>
    rw [result] at first
    exact first

theorem mono {step : Walker α} {weaker stronger : α → Walk → Prop}
    (holds : Yields allowed step walk stronger)
    (implies : ∀ value after, stronger value after → weaker value after) :
    Yields allowed step walk weaker := by
  unfold Yields at holds ⊢
  cases result : step walk with
  | ok value after =>
    rw [result] at holds
    exact implies value after holds
  | error fault after =>
    rw [result] at holds
    exact holds

theorem weaken {other : Fault → Prop} {step : Walker α} {outcome : α → Walk → Prop}
    (yields : Yields allowed step walk outcome)
    (tolerates : ∀ fault, allowed fault → other fault) : Yields other step walk outcome := by
  unfold Yields at yields ⊢
  cases result : step walk with
  | ok value after =>
    rw [result] at yields
    exact yields
  | error fault after =>
    rw [result] at yields
    exact tolerates fault yields

theorem exists_ok {step : Walker α} {outcome : α → Walk → Prop}
    (yields : Yields allowed step walk outcome) (never : ∀ fault, ¬ allowed fault) :
    ∃ value after, step walk = .ok value after ∧ outcome value after := by
  unfold Yields at yields
  cases result : step walk with
  | ok value after =>
    rw [result] at yields
    exact ⟨value, after, rfl, yields⟩
  | error fault after =>
    rw [result] at yields
    exact absurd yields (never fault)

end Walker.Yields

/-! ## Walks -/

structure Walk.Holds (property : Frame → Prop) (memory : Memo → Prop) (walk : Walk) : Prop where
  frames : ∀ name frame, walk.frames.get? name = some frame → property frame
  returned : ∀ frame ∈ walk.returned, property frame
  memo : memory walk.memo

def Walk.Noted (walk after : Walk) : Prop :=
  ∃ problems, after = { walk with problems := problems }

namespace Walk.Holds

variable {property : Frame → Prop} {memory : Memo → Prop} {walk after : Walk}

theorem of_noted (holds : walk.Holds property memory) (noted : walk.Noted after) :
    after.Holds property memory := by
  obtain ⟨problems, rfl⟩ := noted
  exact ⟨holds.frames, holds.returned, holds.memo⟩

theorem setVariable (holds : walk.Holds property memory) (name : Text) {frame : Frame}
    (frameHolds : property frame) :
    Walk.Holds property memory { walk with frames := walk.frames.insert name frame } := by
  refine ⟨fun other found isFound => ?_, holds.returned, holds.memo⟩
  rw [Table.get?_insert] at isFound
  split at isFound
  · cases isFound
    exact frameHolds
  · exact holds.frames other found isFound

theorem setReturned (holds : walk.Holds property memory) {returned : Option Frame}
    (returnedHolds : ∀ frame ∈ returned, property frame) :
    Walk.Holds property memory { walk with returned := returned } :=
  ⟨holds.frames, returnedHolds, holds.memo⟩

end Walk.Holds

/-! ## Frame operations -/

def Walker.YieldsFrame (allowed : Fault → Prop) (property : Frame → Prop)
    (step : Walker (Option Frame)) (walk : Walk) : Prop :=
  Walker.Yields allowed step walk fun result after =>
    (∀ frame ∈ result, property frame) ∧ walk.Noted after

/-- The frame operations of expressions keep a property of frames, given what the parts of
the expressions are. -/
structure OperationsKeep (allowed : Fault → Prop) (property : Frame → Prop)
    (admitted : Expr → Prop) : Prop where
  join : ∀ {receiver right : Expr} {others : List Expr} {keywords : List Keyword},
    (Expr.call (.attribute receiver "join") (right :: others) keywords).Every admitted →
    ∀ {leftFrame rightFrame : Frame}, property leftFrame → property rightFrame →
    ∀ walk, Walker.YieldsFrame allowed property (joinCall leftFrame rightFrame keywords) walk
  aggregate : ∀ {grouped : Expr} {keys items : List Expr} {keyKeywords keywords : List Keyword},
    (Expr.call (.attribute (.call (.attribute grouped "group_by") keys keyKeywords) "agg") items
      keywords).Every admitted →
    ∀ {frame : Frame}, property frame →
    ∀ walk, Walker.YieldsFrame allowed property (aggregateCall frame keys items) walk
  select : ∀ {receiver : Expr} {arguments : List Expr} {keywords : List Keyword},
    (Expr.call (.attribute receiver "select") arguments keywords).Every admitted →
    ∀ {frame : Frame}, property frame →
    ∀ walk, Walker.YieldsFrame allowed property (selectCall frame arguments) walk
  withColumns : ∀ {receiver : Expr} {arguments : List Expr} {keywords : List Keyword},
    (Expr.call (.attribute receiver "with_columns") arguments keywords).Every admitted →
    ∀ {frame : Frame}, property frame →
    ∀ walk, Walker.YieldsFrame allowed property (withColumnsCall frame arguments) walk

theorem OperationsKeep.weaken {allowed other : Fault → Prop} {property : Frame → Prop}
    {admitted : Expr → Prop} (operations : OperationsKeep allowed property admitted)
    (tolerates : ∀ fault, allowed fault → other fault) :
    OperationsKeep other property admitted where
  join every _ _ left right walk :=
    Walker.Yields.weaken (operations.join every left right walk) tolerates
  aggregate every _ frame walk :=
    Walker.Yields.weaken (operations.aggregate every frame walk) tolerates
  select every _ frame walk :=
    Walker.Yields.weaken (operations.select every frame walk) tolerates
  withColumns every _ frame walk :=
    Walker.Yields.weaken (operations.withColumns every frame walk) tolerates

section Operations

variable {allowed : Fault → Prop} {property : Frame → Prop}

theorem report_noted {problems : List Problem}
    (long : problems.all Problem.isWritable = false → allowed .longNumber) (walk : Walk) :
    Walker.Yields allowed (Walker.report problems) walk fun _ after => walk.Noted after := by
  unfold Walker.report
  split
  · exact .modify ⟨_, rfl⟩
  next unwritable => exact .throw (long (Bool.eq_false_iff.mpr unwritable))

theorem attempt_noted {ε : Type} {result : Except (Failure ε) Frame} {note : ε → Problem}
    (long : result = .error .longNumber → allowed .longNumber)
    (holds : ∀ frame, result = .ok frame → property frame) (walk : Walk) :
    Walker.YieldsFrame allowed property (Walker.attempt (result.mapError (.map note))) walk := by
  cases result with
  | ok frame => exact .pure ⟨by simpa using holds frame rfl, walk.problems, rfl⟩
  | error failure =>
    cases failure with
    | refused error =>
      have noted : Walker.Yields allowed (Walker.note [note error]) walk
          fun _ after => walk.Noted after := .modify ⟨_, rfl⟩
      exact noted.bind fun _ after noted => .pure ⟨by simp, noted⟩
    | longNumber => exact .throw (long rfl)

section Columns

variable {frame : Frame} {arguments : List Expr}
  (long : ((outputColumns frame arguments).2.map .unknownColumn).all Problem.isWritable = false →
    allowed .longNumber)

include long

theorem selectCall_noted (holds : property (.ofList (outputColumns frame arguments).1))
    (walk : Walk) :
    Walker.YieldsFrame allowed property (selectCall frame arguments) walk := by
  refine (report_noted long walk).bind fun _ after noted => ?_
  refine .pure ⟨fun result isResult => ?_, noted⟩
  split at isResult
  · cases isResult
  · cases isResult
    exact holds

theorem withColumnsCall_noted
    (holds : property { columns := frame.columns.insertAll (outputColumns frame arguments).1 })
    (walk : Walk) :
    Walker.YieldsFrame allowed property (withColumnsCall frame arguments) walk := by
  refine (report_noted long walk).bind fun _ after noted => ?_
  refine .pure ⟨fun result isResult => ?_, noted⟩
  cases isResult
  exact holds

end Columns

theorem operations_keep_any (long : allowed .longNumber) :
    OperationsKeep allowed (fun _ => True) fun _ => True where
  join _ _ _ _ _ walk := attempt_noted (fun _ => long) (fun _ _ => trivial) walk
  aggregate _ _ _ walk := attempt_noted (fun _ => long) (fun _ _ => trivial) walk
  select _ _ _ walk := selectCall_noted (fun _ => long) trivial walk
  withColumns _ _ _ walk := withColumnsCall_noted (fun _ => long) trivial walk

end Operations

def HelperKeeps (allowed : Fault → Prop) (property : Frame → Prop) (memory : Memo → Prop)
    (helper : HelperCall) (info : FunctionInfo) : Prop :=
  ∀ arguments walk, (∀ argument ∈ arguments, ∀ frame ∈ argument, property frame) →
    walk.Holds property memory →
    Walker.Yields allowed (helper info arguments) walk fun result after =>
      (∀ frame ∈ result, property frame) ∧ after.Holds property memory

def Registry.ReturnsHold (property : Frame → Prop) (registry : Registry) : Prop :=
  ∀ name info, registry.get? name = some info →
    ∀ signature ∈ info.signature, ∀ frame ∈ signature.returns, property frame

section Walks

variable {allowed : Fault → Prop} {property : Frame → Prop} {memory : Memo → Prop}
  {admitted : Expr → Prop} {registry : Registry} {helper : HelperCall}

/-- An expression is admitted, and a function without a signature that it calls keeps the
property. -/
def Answered (allowed : Fault → Prop) (property : Frame → Prop) (memory : Memo → Prop)
    (admitted : Expr → Prop) (registry : Registry) (helper : HelperCall) (expression : Expr) :
    Prop :=
  admitted expression ∧
    ∀ name info, calledName? expression = some name → registry.Untyped name info →
      HelperKeeps allowed property memory helper info

theorem functionCall_yields {name : Text} {info : FunctionInfo}
    (registered : registry.get? name = some info) (returns : registry.ReturnsHold property)
    (keeps : info.signature = none → HelperKeeps allowed property memory helper info)
    {arguments : List (Option Frame)} {walk : Walk}
    (argumentsHold : ∀ argument ∈ arguments, ∀ frame ∈ argument, property frame)
    (holds : walk.Holds property memory) :
    Walker.Yields allowed (functionCall helper info arguments) walk fun result after =>
      (∀ frame ∈ result, property frame) ∧ after.Holds property memory := by
  unfold functionCall
  split
  next signature isSigned =>
    have noted : Walker.Yields allowed (Walker.note (callProblems signature 0 arguments)) walk
        fun _ after => after.Holds property memory := holds.of_noted ⟨_, rfl⟩
    refine noted.bind fun _ after afterHolds => ?_
    exact .pure ⟨returns name info registered signature isSigned, afterHolds⟩
  next isUntyped => exact keeps isUntyped arguments walk argumentsHold holds

theorem continue_yields {step : Walker (Option Frame)} {next : Frame → Walker (Option Frame)}
    {walk : Walk}
    (first : Walker.Yields allowed step walk fun result after =>
      (∀ frame ∈ result, property frame) ∧ after.Holds property memory)
    (second : ∀ frame after, property frame → after.Holds property memory →
      Walker.Yields allowed (next frame) after fun result last =>
        (∀ frame ∈ result, property frame) ∧ last.Holds property memory) :
    Walker.Yields allowed (Walker.onFrame step next) walk fun result after =>
      (∀ frame ∈ result, property frame) ∧ after.Holds property memory := by
  refine first.bind fun result after holds => ?_
  cases result with
  | none => exact .pure ⟨by simp, holds.2⟩
  | some frame => exact second frame after (holds.1 frame rfl) holds.2

theorem operation_yields {step : Walker (Option Frame)} {walk : Walk}
    (operation : Walker.YieldsFrame allowed property step walk)
    (holds : walk.Holds property memory) :
    Walker.Yields allowed step walk fun result after =>
      (∀ frame ∈ result, property frame) ∧ after.Holds property memory :=
  operation.mono fun _ _ outcome => ⟨outcome.1, holds.of_noted outcome.2⟩

theorem infer_yields (operations : OperationsKeep allowed property admitted)
    (returns : registry.ReturnsHold property) :
    (∀ expression : Expr,
      expression.Every (Answered allowed property memory admitted registry helper) →
      ∀ walk : Walk, walk.Holds property memory →
      Walker.Yields allowed (infer registry helper expression) walk fun result after =>
        (∀ frame ∈ result, property frame) ∧ after.Holds property memory) ∧
    (∀ expressions : List Expr,
      (∀ expression ∈ expressions,
        expression.Every (Answered allowed property memory admitted registry helper)) →
      ∀ walk : Walk, walk.Holds property memory →
      Walker.Yields allowed (inferAll registry helper expressions) walk fun results after =>
        (∀ result ∈ results, ∀ frame ∈ result, property frame) ∧ after.Holds property memory) := by
  apply inferInduction registry
  case name =>
    intro identifier _ walk holds
    rw [Walker.Yields, infer_name]
    exact ⟨holds.frames identifier, holds⟩
  case known =>
    intro function info arguments keywords registered inArguments every walk holds
    rw [infer_known helper registered]
    have argumentsYield := inArguments (fun _ member => every.argument member) walk holds
    refine argumentsYield.bind fun frames after outcome => ?_
    refine functionCall_yields registered returns (fun untyped => ?_) outcome.1 outcome.2
    exact every.self.2 function info rfl ⟨registered, untyped⟩
  case aggregation =>
    intro grouped keys keyKeywords items keywords inGrouped every walk holds
    rw [infer_aggregation]
    have groupedYields := inGrouped every.function.object.function.object walk holds
    refine continue_yields groupedYields fun frame after frameHolds afterHolds => ?_
    exact operation_yields (operations.aggregate (every.mono fun _ part => part.1) frameHolds after)
      afterHolds
  case join =>
    intro receiver right others keywords inReceiver inRight every walk holds
    rw [infer_join]
    refine continue_yields (inReceiver every.function.object walk holds)
      fun left after leftHolds afterHolds => ?_
    refine continue_yields (inRight (every.argument List.mem_cons_self) after afterHolds)
      fun rightFrame last rightHolds lastHolds => ?_
    exact operation_yields
      (operations.join (every.mono fun _ part => part.1) leftHolds rightHolds last) lastHolds
  case select =>
    intro receiver arguments keywords inReceiver every walk holds
    rw [infer_select]
    refine continue_yields (inReceiver every.function.object walk holds)
      fun frame after frameHolds afterHolds => ?_
    exact operation_yields (operations.select (every.mono fun _ part => part.1) frameHolds after)
      afterHolds
  case withColumns =>
    intro receiver arguments keywords inReceiver every walk holds
    rw [infer_withColumns]
    refine continue_yields (inReceiver every.function.object walk holds)
      fun frame after frameHolds afterHolds => ?_
    exact operation_yields
      (operations.withColumns (every.mono fun _ part => part.1) frameHolds after) afterHolds
  case otherMethod =>
    intro receiver method arguments keywords isOther inReceiver every walk holds
    rw [infer_otherMethod helper isOther]
    refine continue_yields (inReceiver every.function.object walk holds)
      fun frame after _ afterHolds => ?_
    exact .pure ⟨by simp, afterHolds⟩
  case frameless =>
    intro expression frameless _ walk holds
    rw [infer_of_isFrameless helper frameless]
    exact .pure ⟨by simp, holds⟩
  case nil =>
    intro _ walk holds
    rw [inferAll]
    exact .pure ⟨by simp, holds⟩
  case cons =>
    intro first rest inFirst inRest every walk holds
    rw [inferAll]
    refine (inFirst (every first List.mem_cons_self) walk holds).bind
      fun frame after outcome => ?_
    refine (inRest (fun expression member => every expression (List.mem_cons_of_mem _ member))
      after outcome.2).bind fun frames last lastOutcome => ?_
    refine .pure ⟨fun result member => ?_, lastOutcome.2⟩
    rcases List.mem_cons.mp member with rfl | later
    · exact outcome.1
    · exact lastOutcome.1 result later

theorem assign_yields {walk : Walk} (holds : walk.Holds property memory) (name : Text)
    {frame? : Option Frame} (frameHolds : ∀ frame ∈ frame?, property frame) :
    Walker.Yields allowed (Walker.assign name frame?) walk
      fun _ after => after.Holds property memory := by
  cases frame? with
  | none => exact .pure holds
  | some frame => exact .modify (holds.setVariable name (frameHolds frame rfl))

theorem run_yields (operations : OperationsKeep allowed property admitted)
    (returns : registry.ReturnsHold property)
    (declared : ∀ hint, ∀ frame ∈ declaredFrame? hint, property frame)
    {effect : Effect}
    (answered : ∀ value ∈ effect.value?,
      value.Every (Answered allowed property memory admitted registry helper))
    {walk : Walk} (holds : walk.Holds property memory) :
    Walker.Yields allowed (effect.run registry helper) walk
      fun _ after => after.Holds property memory := by
  cases effect with
  | declare name hint => exact assign_yields holds name (declared hint)
  | assign name value =>
    have yields := (infer_yields operations returns).1 value (answered value rfl) walk holds
    exact yields.bind fun frame after outcome => assign_yields outcome.2 name outcome.1
  | give value =>
    have yields := (infer_yields operations returns).1 value (answered value rfl) walk holds
    exact yields.bind fun frame after outcome => .modify (outcome.2.setReturned outcome.1)

theorem runEffects_yields (operations : OperationsKeep allowed property admitted)
    (returns : registry.ReturnsHold property)
    (declared : ∀ hint, ∀ frame ∈ declaredFrame? hint, property frame)
    {effects : List Effect}
    (answered : ∀ effect ∈ effects, ∀ value ∈ effect.value?,
      value.Every (Answered allowed property memory admitted registry helper))
    {walk : Walk} (holds : walk.Holds property memory) :
    Walker.Yields allowed (runEffects registry helper effects) walk
      fun _ after => after.Holds property memory := by
  induction effects generalizing walk with
  | nil => exact .pure holds
  | cons effect rest inRest =>
    have step := run_yields operations returns declared
      (answered effect List.mem_cons_self) holds
    refine step.bind fun _ after afterHolds => ?_
    exact inRest (fun other member => answered other (List.mem_cons_of_mem _ member)) afterHolds

theorem walkBlock_yields (operations : OperationsKeep allowed property admitted)
    (returns : registry.ReturnsHold property)
    (declared : ∀ hint, ∀ frame ∈ declaredFrame? hint, property frame)
    {block : List Stmt}
    (answered : ∀ part ∈ blockParts block,
      Answered allowed property memory admitted registry helper part)
    {walk : Walk} (holds : walk.Holds property memory) :
    Walker.Yields allowed (walkBlock registry helper block) walk
      fun _ after => after.Holds property memory := by
  rw [walkBlock_eq_runEffects]
  refine runEffects_yields operations returns declared ?_ holds
  intro effect member value asked part inValue
  exact answered part (mem_blockParts_of_effect asked inValue block member)

end Walks

end FrameCheck.Analysis
