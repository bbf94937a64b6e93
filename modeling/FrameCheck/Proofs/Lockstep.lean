import FrameCheck.Proofs.Alike
import FrameCheck.Proofs.Invariants
import FrameCheck.Proofs.Steps

/-!
Two walks through the same expressions, step by step. They may start from different frames and
answer calls in different ways. How their frames compare is a parameter, and so is what is asked
of the places that both come to; what is left to show is that the comparison is kept by single
frame operations and by calls of functions without a signature. Then the first walk goes through
whatever the second one goes through, and the two compare at the end.
-/

namespace FrameCheck.Analysis

open Syntax Typing

/-! ## Pairs of steps -/

/-- When the second of two steps comes to a value, so does the first one, and something holds of
both; or the first one breaks off with a fault that is allowed. -/
def Walker.Follows (allowed : Fault → Prop) (left : Walker α) (leftWalk : Walk)
    (right : Walker α) (rightWalk : Walk) (outcome : α → Walk → α → Walk → Prop) : Prop :=
  ∀ rightValue rightAfter, right rightWalk = .ok rightValue rightAfter →
    Walker.Yields allowed left leftWalk fun leftValue leftAfter =>
      outcome leftValue leftAfter rightValue rightAfter

namespace Walker.Follows

variable {allowed : Fault → Prop} {leftWalk rightWalk : Walk}

theorem of_ok {left right : Walker α} {outcome : α → Walk → α → Walk → Prop}
    (follows : Follows allowed left leftWalk right rightWalk outcome)
    {leftValue rightValue : α} {leftAfter rightAfter : Walk}
    (leftRun : left leftWalk = .ok leftValue leftAfter)
    (rightRun : right rightWalk = .ok rightValue rightAfter) :
    outcome leftValue leftAfter rightValue rightAfter := by
  have yields := follows rightValue rightAfter rightRun
  unfold Walker.Yields at yields
  rwa [leftRun] at yields

theorem pure {left right : α} {outcome : α → Walk → α → Walk → Prop}
    (holds : outcome left leftWalk right rightWalk) :
    Follows allowed (Pure.pure left) leftWalk (Pure.pure right) rightWalk outcome := by
  intro rightValue rightAfter rightRun
  cases rightRun
  exact .pure holds

theorem modify {leftChange rightChange : Walk → Walk}
    {outcome : PUnit → Walk → PUnit → Walk → Prop}
    (holds : outcome ⟨⟩ (leftChange leftWalk) ⟨⟩ (rightChange rightWalk)) :
    Follows allowed (modifyGet fun before => (⟨⟩, leftChange before)) leftWalk
      (modifyGet fun before => (⟨⟩, rightChange before)) rightWalk outcome := by
  intro rightValue rightAfter rightRun
  cases rightRun
  exact .modify holds

theorem bind {left right : Walker α} {leftNext rightNext : α → Walker β}
    {middle : α → Walk → α → Walk → Prop} {outcome : β → Walk → β → Walk → Prop}
    (first : Follows allowed left leftWalk right rightWalk middle)
    (second : ∀ leftValue leftAfter rightValue rightAfter,
      left leftWalk = .ok leftValue leftAfter → right rightWalk = .ok rightValue rightAfter →
      middle leftValue leftAfter rightValue rightAfter →
      Follows allowed (leftNext leftValue) leftAfter (rightNext rightValue) rightAfter outcome) :
    Follows allowed (left >>= leftNext) leftWalk (right >>= rightNext) rightWalk outcome := by
  intro rightValue rightAfter rightRun
  obtain ⟨rightMiddle, rightHalf, rightFirst, rightSecond⟩ := Steps.bind_eq_ok_iff.mp rightRun
  have yields := first rightMiddle rightHalf rightFirst
  unfold Walker.Yields at yields ⊢
  cases leftRun : left leftWalk with
  | ok leftMiddle leftHalf =>
    rw [leftRun] at yields
    rw [Steps.bind_of_ok leftRun]
    exact second _ _ _ _ leftRun rightFirst yields rightValue rightAfter rightSecond
  | error fault after =>
    rw [leftRun] at yields
    rw [Steps.bind_of_error leftRun]
    exact yields

end Walker.Follows

/-! ## Pairs of walks -/

/-- How two walks compare: by their frames, by the problems that they have noted, and by what
the first one remembers. It makes no difference if both note as many further problems. -/
structure Comparison where
  frames : Frame → Frame → Prop
  problems : List Problem → List Problem → Prop
  memory : Memo → Prop
  note : ∀ {left right first second : List Problem}, problems left right →
    first.length = second.length → problems (left ++ first) (right ++ second)

structure Walk.Compares (comparison : Comparison) (left right : Walk) : Prop where
  frames : Table.Agrees comparison.frames left.frames right.frames
  returned : Option.Rel comparison.frames left.returned right.returned
  problems : comparison.problems left.problems right.problems
  memo : comparison.memory left.memo

def Comparison.AnswerBy (comparison : Comparison) (related : Frame → Frame → Prop)
    (leftFrame : Option Frame) (left : Walk) (rightFrame : Option Frame) (right : Walk) : Prop :=
  Option.Rel related leftFrame rightFrame ∧ left.Compares comparison right

abbrev Comparison.Answer (comparison : Comparison) : Option Frame → Walk → Option Frame → Walk →
    Prop :=
  comparison.AnswerBy comparison.frames

abbrev Comparison.Arguments (comparison : Comparison) (left right : List (Option Frame)) : Prop :=
  List.Forall₂ (Option.Rel comparison.frames) left right

namespace Walk.Compares

variable {comparison : Comparison} {left right : Walk}

theorem setVariable (compares : left.Compares comparison right) (name : Text)
    {first second : Frame} (frames : comparison.frames first second) :
    Walk.Compares comparison { left with frames := left.frames.insert name first }
      { right with frames := right.frames.insert name second } :=
  { compares with frames := compares.frames.insert name frames }

theorem setReturned (compares : left.Compares comparison right) {first second : Option Frame}
    (frames : Option.Rel comparison.frames first second) :
    Walk.Compares comparison { left with returned := first } { right with returned := second } :=
  { compares with returned := frames }

theorem setProblems (compares : left.Compares comparison right) {first second : List Problem}
    (problems : comparison.problems first second) :
    Walk.Compares comparison { left with problems := first } { right with problems := second } :=
  { compares with problems := problems }

end Walk.Compares

/-! ## Problems and results -/

def Problem.WritableWith (first second : Problem) : Prop :=
  second.isWritable = true → first.isWritable = true

/-- Where the second failure is a refusal, so is the first. -/
def RefusedWith {ε : Type} (first second : Failure ε) : Prop :=
  second.isRefusal = true → first.isRefusal = true

theorem RefusedWith.of_alike {ε : Type} {first second : Failure ε} (alike : first.Alike second) :
    RefusedWith first second :=
  fun refused => alike.trans refused

section Results

variable {allowed : Fault → Prop} {comparison : Comparison} {related : Frame → Frame → Prop}
  {left right : Walk}

theorem report_follows {first second : List Problem}
    (problems : List.Forall₂ Problem.WritableWith first second)
    (compares : left.Compares comparison right) :
    Walker.Follows allowed (Walker.report first) left (Walker.report second) right
      fun _ leftAfter _ rightAfter => leftAfter.Compares comparison rightAfter := by
  have writable : second.all Problem.isWritable = true → first.all Problem.isWritable = true := by
    induction problems with
    | nil => exact id
    | cons problem _ inRest =>
      simp only [List.all_cons, Bool.and_eq_true]
      exact fun both => ⟨problem both.1, inRest both.2⟩
  intro _ rightAfter rightRun
  unfold Walker.report at rightRun ⊢
  split at rightRun
  next isWritable =>
    cases rightRun
    rw [if_pos (writable isWritable)]
    exact compares.setProblems (comparison.note compares.problems problems.length_eq)
  next => cases rightRun

theorem attempt_follows {ε : Type} {failures : Failure ε → Failure ε → Prop}
    {first second : Except (Failure ε) Frame} {note : ε → Problem}
    (results : ResultsAlike failures related first second)
    (failed : ∀ one other, failures one other → RefusedWith one other)
    (compares : left.Compares comparison right) :
    Walker.Follows allowed (Walker.attempt (first.mapError (.map note))) left
      (Walker.attempt (second.mapError (.map note))) right (comparison.AnswerBy related) := by
  cases results with
  | ok frames => exact .pure ⟨.some frames, compares⟩
  | @error one other failures =>
    have refused := failed one other failures
    cases other with
    | longNumber => exact fun _ _ rightRun => by cases rightRun
    | refused otherError =>
      cases one with
      | longNumber => exact absurd (refused rfl) Bool.false_ne_true
      | refused oneError =>
        have noted : Walker.Follows allowed (Walker.note [note oneError]) left
            (Walker.note [note otherError]) right
            fun _ leftAfter _ rightAfter => leftAfter.Compares comparison rightAfter :=
          .modify (compares.setProblems (comparison.note compares.problems rfl))
        exact noted.bind fun _ _ _ _ _ _ afterCompares => .pure ⟨.none, afterCompares⟩

theorem operation_follows {tolerated : Fault → Prop} {property : Frame → Prop}
    {leftStep rightStep : Walker (Option Frame)}
    (combine : ∀ {first second : Frame}, property first → property second →
      related first second → comparison.frames first second)
    (leftKeeps : Walker.YieldsFrame tolerated property leftStep left)
    (rightKeeps : Walker.YieldsFrame tolerated property rightStep right)
    (follows : Walker.Follows allowed leftStep left rightStep right
      (comparison.AnswerBy related)) :
    Walker.Follows allowed leftStep left rightStep right comparison.Answer := by
  intro rightResult rightAfter rightRun
  have yields := follows rightResult rightAfter rightRun
  unfold Walker.YieldsFrame Walker.Yields at *
  rw [rightRun] at rightKeeps
  cases leftRun : leftStep left with
  | error fault after =>
    rw [leftRun] at yields
    exact yields
  | ok leftResult leftAfter =>
    rw [leftRun] at yields leftKeeps
    obtain ⟨frames, compares⟩ := yields
    refine ⟨?_, compares⟩
    cases frames with
    | none => exact .none
    | some frames => exact .some (combine (leftKeeps.1 _ rfl) (rightKeeps.1 _ rfl) frames)

end Results

/-! ## What is asked of two walks -/

/-- What is asked of the places that two walks come to. The laws say that it is asked of all of
them: with an expression it is asked of its parts, from the walks that lead there, and of the
operations and calls that the parts lead to. -/
structure Check (registry : Registry) (leftHelper rightHelper : HelperCall) where
  expression : Expr → Walk → Walk → Prop
  expressions : List Expr → Walk → Walk → Prop
  effects : List Effect → Walk → Walk → Prop
  call : FunctionInfo → (left right : List (Option Frame)) → Walk → Walk → Prop
  join : (left right otherLeft otherRight : Frame) → List Keyword → Prop
  aggregate : (frame other : Frame) → (keys items : List Expr) → Prop
  columns : (frame other : Frame) → List Expr → Prop
  arguments_of : ∀ {function : String} {info : FunctionInfo} {arguments : List Expr}
    {keywords : List Keyword} {left right : Walk},
    expression (.call (.name function) arguments keywords) left right →
    registry.get? function = some info → expressions arguments left right
  call_of : ∀ {function : String} {info : FunctionInfo} {arguments : List Expr}
    {keywords : List Keyword} {left right leftAfter rightAfter : Walk}
    {leftFrames rightFrames : List (Option Frame)},
    expression (.call (.name function) arguments keywords) left right →
    registry.get? function = some info → info.signature = none →
    inferAll registry leftHelper arguments left = .ok leftFrames leftAfter →
    inferAll registry rightHelper arguments right = .ok rightFrames rightAfter →
    call info leftFrames rightFrames leftAfter rightAfter
  grouped_of : ∀ {grouped : Expr} {keys items : List Expr} {keyKeywords keywords : List Keyword}
    {left right : Walk},
    expression (.call (.attribute (.call (.attribute grouped "group_by") keys keyKeywords) "agg")
      items keywords) left right → expression grouped left right
  aggregate_of : ∀ {grouped : Expr} {keys items : List Expr}
    {keyKeywords keywords : List Keyword} {left right leftAfter rightAfter : Walk}
    {frame other : Frame},
    expression (.call (.attribute (.call (.attribute grouped "group_by") keys keyKeywords) "agg")
      items keywords) left right →
    infer registry leftHelper grouped left = .ok (some frame) leftAfter →
    infer registry rightHelper grouped right = .ok (some other) rightAfter →
    aggregate frame other keys items
  receiver_of : ∀ {receiver : Expr} {method : String} {arguments : List Expr}
    {keywords : List Keyword} {left right : Walk}, method ≠ "agg" →
    expression (.call (.attribute receiver method) arguments keywords) left right →
    expression receiver left right
  right_of : ∀ {receiver rightOperand : Expr} {others : List Expr} {keywords : List Keyword}
    {left right leftAfter rightAfter : Walk} {frame other : Frame},
    expression (.call (.attribute receiver "join") (rightOperand :: others) keywords) left right →
    infer registry leftHelper receiver left = .ok (some frame) leftAfter →
    infer registry rightHelper receiver right = .ok (some other) rightAfter →
    expression rightOperand leftAfter rightAfter
  join_of : ∀ {receiver rightOperand : Expr} {others : List Expr} {keywords : List Keyword}
    {left right leftAfter rightAfter leftLast rightLast : Walk}
    {leftFrame rightFrame otherLeft otherRight : Frame},
    expression (.call (.attribute receiver "join") (rightOperand :: others) keywords) left right →
    infer registry leftHelper receiver left = .ok (some leftFrame) leftAfter →
    infer registry rightHelper receiver right = .ok (some otherLeft) rightAfter →
    infer registry leftHelper rightOperand leftAfter = .ok (some rightFrame) leftLast →
    infer registry rightHelper rightOperand rightAfter = .ok (some otherRight) rightLast →
    join leftFrame rightFrame otherLeft otherRight keywords
  columns_of : ∀ {receiver : Expr} {method : String} {arguments : List Expr}
    {keywords : List Keyword} {left right leftAfter rightAfter : Walk} {frame other : Frame},
    method = "select" ∨ method = "with_columns" →
    expression (.call (.attribute receiver method) arguments keywords) left right →
    infer registry leftHelper receiver left = .ok (some frame) leftAfter →
    infer registry rightHelper receiver right = .ok (some other) rightAfter →
    columns frame other arguments
  first_of : ∀ {first : Expr} {rest : List Expr} {left right : Walk},
    expressions (first :: rest) left right → expression first left right
  rest_of : ∀ {first : Expr} {rest : List Expr} {left right leftAfter rightAfter : Walk}
    {leftFrame rightFrame : Option Frame},
    expressions (first :: rest) left right →
    infer registry leftHelper first left = .ok leftFrame leftAfter →
    infer registry rightHelper first right = .ok rightFrame rightAfter →
    expressions rest leftAfter rightAfter
  value_of : ∀ {effect : Effect} {rest : List Effect} {left right : Walk},
    effects (effect :: rest) left right → ∀ value ∈ effect.value?, expression value left right
  later_of : ∀ {effect : Effect} {rest : List Effect} {left right leftAfter rightAfter : Walk},
    effects (effect :: rest) left right →
    effect.run registry leftHelper left = .ok ⟨⟩ leftAfter →
    effect.run registry rightHelper right = .ok ⟨⟩ rightAfter →
    effects rest leftAfter rightAfter

namespace Check

variable {registry : Registry} {leftHelper rightHelper : HelperCall}

def flip (check : Check registry rightHelper leftHelper) :
    Check registry leftHelper rightHelper where
  expression expression left right := check.expression expression right left
  expressions expressions left right := check.expressions expressions right left
  effects effects left right := check.effects effects right left
  call info leftFrames rightFrames left right := check.call info rightFrames leftFrames right left
  join left right otherLeft otherRight := check.join otherLeft otherRight left right
  aggregate frame other := check.aggregate other frame
  columns frame other := check.columns other frame
  arguments_of := check.arguments_of
  call_of checked registered untyped leftRun rightRun :=
    check.call_of checked registered untyped rightRun leftRun
  grouped_of := check.grouped_of
  aggregate_of checked leftRun rightRun := check.aggregate_of checked rightRun leftRun
  receiver_of := check.receiver_of
  right_of checked leftRun rightRun := check.right_of checked rightRun leftRun
  join_of checked leftRun rightRun leftLast rightLast :=
    check.join_of checked rightRun leftRun rightLast leftLast
  columns_of isMethod checked leftRun rightRun := check.columns_of isMethod checked rightRun leftRun
  first_of := check.first_of
  rest_of checked leftRun rightRun := check.rest_of checked rightRun leftRun
  value_of := check.value_of
  later_of checked leftRun rightRun := check.later_of checked rightRun leftRun

def both (first second : Check registry leftHelper rightHelper) :
    Check registry leftHelper rightHelper where
  expression expression left right :=
    first.expression expression left right ∧ second.expression expression left right
  expressions expressions left right :=
    first.expressions expressions left right ∧ second.expressions expressions left right
  effects effects left right := first.effects effects left right ∧ second.effects effects left right
  call info leftFrames rightFrames left right :=
    first.call info leftFrames rightFrames left right ∧
      second.call info leftFrames rightFrames left right
  join left right otherLeft otherRight keywords :=
    first.join left right otherLeft otherRight keywords ∧
      second.join left right otherLeft otherRight keywords
  aggregate frame other keys items :=
    first.aggregate frame other keys items ∧ second.aggregate frame other keys items
  columns frame other arguments :=
    first.columns frame other arguments ∧ second.columns frame other arguments
  arguments_of checked registered :=
    checked.imp (first.arguments_of · registered) (second.arguments_of · registered)
  call_of checked registered untyped leftRun rightRun :=
    checked.imp (first.call_of · registered untyped leftRun rightRun)
      (second.call_of · registered untyped leftRun rightRun)
  grouped_of checked := checked.imp first.grouped_of second.grouped_of
  aggregate_of checked leftRun rightRun :=
    checked.imp (first.aggregate_of · leftRun rightRun) (second.aggregate_of · leftRun rightRun)
  receiver_of notAgg checked :=
    checked.imp (first.receiver_of notAgg) (second.receiver_of notAgg)
  right_of checked leftRun rightRun :=
    checked.imp (first.right_of · leftRun rightRun) (second.right_of · leftRun rightRun)
  join_of checked leftRun rightRun leftLast rightLast :=
    checked.imp (first.join_of · leftRun rightRun leftLast rightLast)
      (second.join_of · leftRun rightRun leftLast rightLast)
  columns_of isMethod checked leftRun rightRun :=
    checked.imp (first.columns_of isMethod · leftRun rightRun)
      (second.columns_of isMethod · leftRun rightRun)
  first_of checked := checked.imp first.first_of second.first_of
  rest_of checked leftRun rightRun :=
    checked.imp (first.rest_of · leftRun rightRun) (second.rest_of · leftRun rightRun)
  value_of checked value asked :=
    checked.imp (first.value_of · value asked) (second.value_of · value asked)
  later_of checked leftRun rightRun :=
    checked.imp (first.later_of · leftRun rightRun) (second.later_of · leftRun rightRun)

end Check

section Walks

variable {registry : Registry} {leftHelper rightHelper : HelperCall} {allowed : Fault → Prop}
  {comparison : Comparison} {admitted : Expr → Prop}
  {check : Check registry leftHelper rightHelper}

/-- The frame operations of expressions keep a comparison, where what is asked of them holds,
and so do the problems that signatures find with arguments. -/
structure OperationsFollow (allowed : Fault → Prop) (comparison : Comparison)
    (admitted : Expr → Prop) (check : Check registry leftHelper rightHelper) : Prop where
  join : ∀ {receiver right : Expr} {others : List Expr} {keywords : List Keyword},
    (Expr.call (.attribute receiver "join") (right :: others) keywords).Every admitted →
    ∀ {leftFrame rightFrame otherLeft otherRight : Frame},
    comparison.frames leftFrame otherLeft → comparison.frames rightFrame otherRight →
    check.join leftFrame rightFrame otherLeft otherRight keywords →
    ∀ {left right : Walk}, left.Compares comparison right →
    Walker.Follows allowed (joinCall leftFrame rightFrame keywords) left
      (joinCall otherLeft otherRight keywords) right comparison.Answer
  aggregate : ∀ {grouped : Expr} {keys items : List Expr} {keyKeywords keywords : List Keyword},
    (Expr.call (.attribute (.call (.attribute grouped "group_by") keys keyKeywords) "agg") items
      keywords).Every admitted →
    ∀ {frame other : Frame}, comparison.frames frame other →
    check.aggregate frame other keys items →
    ∀ {left right : Walk}, left.Compares comparison right →
    Walker.Follows allowed (aggregateCall frame keys items) left
      (aggregateCall other keys items) right comparison.Answer
  select : ∀ {receiver : Expr} {arguments : List Expr} {keywords : List Keyword},
    (Expr.call (.attribute receiver "select") arguments keywords).Every admitted →
    ∀ {frame other : Frame}, comparison.frames frame other → check.columns frame other arguments →
    ∀ {left right : Walk}, left.Compares comparison right →
    Walker.Follows allowed (selectCall frame arguments) left (selectCall other arguments) right
      comparison.Answer
  withColumns : ∀ {receiver : Expr} {arguments : List Expr} {keywords : List Keyword},
    (Expr.call (.attribute receiver "with_columns") arguments keywords).Every admitted →
    ∀ {frame other : Frame}, comparison.frames frame other → check.columns frame other arguments →
    ∀ {left right : Walk}, left.Compares comparison right →
    Walker.Follows allowed (withColumnsCall frame arguments) left
      (withColumnsCall other arguments) right comparison.Answer
  call : ∀ (signature : Signature) {left right : List (Option Frame)},
    comparison.Arguments left right → ∀ {first second : List Problem},
    comparison.problems first second →
    comparison.problems (first ++ callProblems signature 0 left)
      (second ++ callProblems signature 0 right)

def HelperFollows (allowed : Fault → Prop) (comparison : Comparison)
    (check : Check registry leftHelper rightHelper) (info : FunctionInfo) : Prop :=
  ∀ leftArguments rightArguments left right,
    comparison.Arguments leftArguments rightArguments → left.Compares comparison right →
    check.call info leftArguments rightArguments left right →
    Walker.Follows allowed (leftHelper info leftArguments) left (rightHelper info rightArguments)
      right comparison.Answer

def Followed (allowed : Fault → Prop) (comparison : Comparison) (admitted : Expr → Prop)
    (check : Check registry leftHelper rightHelper) (expression : Expr) : Prop :=
  admitted expression ∧
    ∀ name info, calledName? expression = some name → registry.Untyped name info →
      HelperFollows allowed comparison check info

abbrev Registry.ReturnsCompare (comparison : Comparison) (registry : Registry) : Prop :=
  registry.ReturnsHold fun frame => comparison.frames frame frame

/-! ## Expressions -/

theorem functionCall_follows (operations : OperationsFollow allowed comparison admitted check)
    (returns : registry.ReturnsCompare comparison) {name : Text} {info : FunctionInfo}
    (registered : registry.get? name = some info)
    (followed : info.signature = none → HelperFollows allowed comparison check info)
    {leftArguments rightArguments : List (Option Frame)} {left right : Walk}
    (arguments : comparison.Arguments leftArguments rightArguments)
    (compares : left.Compares comparison right)
    (checked : info.signature = none →
      check.call info leftArguments rightArguments left right) :
    Walker.Follows allowed (functionCall leftHelper info leftArguments) left
      (functionCall rightHelper info rightArguments) right comparison.Answer := by
  unfold functionCall
  split
  next signature isSigned =>
    have noted : Walker.Follows allowed (Walker.note (callProblems signature 0 leftArguments)) left
        (Walker.note (callProblems signature 0 rightArguments)) right
        fun _ leftAfter _ rightAfter => leftAfter.Compares comparison rightAfter :=
      .modify (compares.setProblems (operations.call signature arguments compares.problems))
    refine noted.bind fun _ _ _ _ _ _ afterCompares => .pure ⟨?_, afterCompares⟩
    cases isReturned : signature.returns with
    | none => exact .none
    | some frame => exact .some (returns name info registered signature isSigned frame isReturned)
  next isUntyped =>
    exact followed isUntyped leftArguments rightArguments left right arguments compares
      (checked isUntyped)

theorem continue_follows {leftStep rightStep : Walker (Option Frame)}
    {leftNext rightNext : Frame → Walker (Option Frame)} {left right : Walk}
    (first : Walker.Follows allowed leftStep left rightStep right comparison.Answer)
    (second : ∀ leftFrame leftAfter rightFrame rightAfter,
      leftStep left = .ok (some leftFrame) leftAfter →
      rightStep right = .ok (some rightFrame) rightAfter →
      comparison.frames leftFrame rightFrame → leftAfter.Compares comparison rightAfter →
      Walker.Follows allowed (leftNext leftFrame) leftAfter (rightNext rightFrame) rightAfter
        comparison.Answer) :
    Walker.Follows allowed (Walker.onFrame leftStep leftNext) left
      (Walker.onFrame rightStep rightNext) right comparison.Answer := by
  refine first.bind fun leftResult leftAfter rightResult rightAfter leftRun rightRun answer => ?_
  obtain ⟨frames, compares⟩ := answer
  cases frames with
  | none => exact .pure ⟨.none, compares⟩
  | some frames => exact second _ _ _ _ leftRun rightRun frames compares

theorem infer_follows (operations : OperationsFollow allowed comparison admitted check)
    (returns : registry.ReturnsCompare comparison) :
    (∀ expression : Expr,
      expression.Every (Followed allowed comparison admitted check) →
      ∀ left right : Walk, left.Compares comparison right →
      check.expression expression left right →
      Walker.Follows allowed (infer registry leftHelper expression) left
        (infer registry rightHelper expression) right comparison.Answer) ∧
    (∀ expressions : List Expr,
      (∀ expression ∈ expressions,
        expression.Every (Followed allowed comparison admitted check)) →
      ∀ left right : Walk, left.Compares comparison right →
      check.expressions expressions left right →
      Walker.Follows allowed (inferAll registry leftHelper expressions) left
        (inferAll registry rightHelper expressions) right
        fun leftFrames leftAfter rightFrames rightAfter =>
          comparison.Arguments leftFrames rightFrames ∧
            leftAfter.Compares comparison rightAfter) := by
  apply inferInduction registry
  case name =>
    intro identifier _ left right compares _ rightFrame rightAfter rightRun
    rw [infer_name] at rightRun
    cases rightRun
    rw [Walker.Yields, infer_name]
    exact ⟨compares.frames identifier, compares⟩
  case known =>
    intro function info arguments keywords registered inArguments every left right compares checked
    rw [infer_known leftHelper registered, infer_known rightHelper registered]
    have argumentsFollow := inArguments (fun _ member => every.argument member) left right compares
      (check.arguments_of checked registered)
    have followed : info.signature = none → HelperFollows allowed comparison check info :=
      fun untyped => every.self.2 function info rfl ⟨registered, untyped⟩
    refine argumentsFollow.bind fun leftFrames _ rightFrames _ leftRun rightRun answer => ?_
    exact functionCall_follows operations returns registered followed answer.1 answer.2
      fun untyped => check.call_of checked registered untyped leftRun rightRun
  case aggregation =>
    intro grouped keys keyKeywords items keywords inGrouped every left right compares checked
    rw [infer_aggregation, infer_aggregation]
    have groupedFollows := inGrouped every.function.object.function.object left right compares
      (check.grouped_of checked)
    refine continue_follows groupedFollows
      fun frame leftAfter other rightAfter leftRun rightRun frames afterCompares => ?_
    exact operations.aggregate (every.mono fun _ part => part.1) frames
      (check.aggregate_of checked leftRun rightRun) afterCompares
  case join =>
    intro receiver rightOperand others keywords inReceiver inRight every left right compares checked
    rw [infer_join, infer_join]
    refine continue_follows
      (inReceiver every.function.object left right compares (check.receiver_of (by simp) checked))
      fun leftFrame leftAfter otherLeft rightAfter leftRun rightRun lefts afterCompares => ?_
    refine continue_follows
      (inRight (every.argument List.mem_cons_self) leftAfter rightAfter afterCompares
        (check.right_of checked leftRun rightRun))
      fun rightFrame leftLast otherRight rightLast leftLastRun rightLastRun rights
        lastCompares => ?_
    exact operations.join (every.mono fun _ part => part.1) lefts rights
      (check.join_of checked leftRun rightRun leftLastRun rightLastRun) lastCompares
  case select =>
    intro receiver arguments keywords inReceiver every left right compares checked
    rw [infer_select, infer_select]
    refine continue_follows
      (inReceiver every.function.object left right compares (check.receiver_of (by simp) checked))
      fun frame leftAfter other rightAfter leftRun rightRun frames afterCompares => ?_
    exact operations.select (every.mono fun _ part => part.1) frames
      (check.columns_of (.inl rfl) checked leftRun rightRun) afterCompares
  case withColumns =>
    intro receiver arguments keywords inReceiver every left right compares checked
    rw [infer_withColumns, infer_withColumns]
    refine continue_follows
      (inReceiver every.function.object left right compares (check.receiver_of (by simp) checked))
      fun frame leftAfter other rightAfter leftRun rightRun frames afterCompares => ?_
    exact operations.withColumns (every.mono fun _ part => part.1) frames
      (check.columns_of (.inr rfl) checked leftRun rightRun) afterCompares
  case otherMethod =>
    intro receiver method arguments keywords isOther inReceiver every left right compares checked
    rw [infer_otherMethod leftHelper isOther, infer_otherMethod rightHelper isOther]
    have receiverFollows := inReceiver every.function.object left right compares
      (check.receiver_of (ne_agg_of_yieldsNothing isOther) checked)
    exact continue_follows receiverFollows
      fun _ _ _ _ _ _ _ afterCompares => .pure ⟨.none, afterCompares⟩
  case frameless =>
    intro expression frameless _ left right compares _
    rw [infer_of_isFrameless leftHelper frameless, infer_of_isFrameless rightHelper frameless]
    exact .pure ⟨.none, compares⟩
  case nil =>
    intro _ left right compares _
    rw [inferAll, inferAll]
    exact .pure ⟨.nil, compares⟩
  case cons =>
    intro first rest inFirst inRest every left right compares checked
    rw [inferAll, inferAll]
    refine (inFirst (every first List.mem_cons_self) left right compares
      (check.first_of checked)).bind
      fun leftFrame leftAfter rightFrame rightAfter leftRun rightRun answer => ?_
    refine (inRest (fun expression member => every expression (List.mem_cons_of_mem _ member))
      leftAfter rightAfter answer.2 (check.rest_of checked leftRun rightRun)).bind
      fun _ _ _ _ _ _ restAnswer => ?_
    exact .pure ⟨.cons answer.1 restAnswer.1, restAnswer.2⟩

/-! ## Effects -/

theorem assign_follows {left right : Walk} (compares : left.Compares comparison right)
    (name : Text) {first second : Option Frame}
    (frames : Option.Rel comparison.frames first second) :
    Walker.Follows allowed (Walker.assign name first) left (Walker.assign name second) right
      fun _ leftAfter _ rightAfter => leftAfter.Compares comparison rightAfter := by
  cases frames with
  | none => exact .pure compares
  | some frames => exact .modify (compares.setVariable name frames)

theorem run_follows (operations : OperationsFollow allowed comparison admitted check)
    (returns : registry.ReturnsCompare comparison)
    (declared : ∀ hint, ∀ frame ∈ declaredFrame? hint, comparison.frames frame frame)
    {effect : Effect}
    (followed : ∀ value ∈ effect.value?,
      value.Every (Followed allowed comparison admitted check))
    {left right : Walk} (compares : left.Compares comparison right)
    (checked : ∀ value ∈ effect.value?, check.expression value left right) :
    Walker.Follows allowed (effect.run registry leftHelper) left
      (effect.run registry rightHelper) right
      fun _ leftAfter _ rightAfter => leftAfter.Compares comparison rightAfter := by
  cases effect with
  | declare name hint =>
    refine assign_follows compares name ?_
    cases isDeclared : declaredFrame? hint with
    | none => exact .none
    | some frame => exact .some (declared hint frame isDeclared)
  | assign name value =>
    have answers := (infer_follows operations returns).1 value (followed value rfl) left right
      compares (checked value rfl)
    exact answers.bind fun _ _ _ _ _ _ answer => assign_follows answer.2 name answer.1
  | give value =>
    have answers := (infer_follows operations returns).1 value (followed value rfl) left right
      compares (checked value rfl)
    exact answers.bind fun _ _ _ _ _ _ answer => .modify (answer.2.setReturned answer.1)

theorem runEffects_follows (operations : OperationsFollow allowed comparison admitted check)
    (returns : registry.ReturnsCompare comparison)
    (declared : ∀ hint, ∀ frame ∈ declaredFrame? hint, comparison.frames frame frame)
    {effects : List Effect}
    (followed : ∀ effect ∈ effects, ∀ value ∈ effect.value?,
      value.Every (Followed allowed comparison admitted check))
    {left right : Walk} (compares : left.Compares comparison right)
    (checked : check.effects effects left right) :
    Walker.Follows allowed (runEffects registry leftHelper effects) left
      (runEffects registry rightHelper effects) right
      fun _ leftAfter _ rightAfter => leftAfter.Compares comparison rightAfter := by
  induction effects generalizing left right with
  | nil => exact .pure compares
  | cons effect rest inRest =>
    have step := run_follows operations returns declared (followed effect List.mem_cons_self)
      compares (check.value_of checked)
    refine step.bind fun _ leftAfter _ rightAfter leftRun rightRun afterCompares => ?_
    exact inRest (fun other member => followed other (List.mem_cons_of_mem _ member)) afterCompares
      (check.later_of checked leftRun rightRun)

theorem walkBlock_follows (operations : OperationsFollow allowed comparison admitted check)
    (returns : registry.ReturnsCompare comparison)
    (declared : ∀ hint, ∀ frame ∈ declaredFrame? hint, comparison.frames frame frame)
    {block : List Stmt}
    (followed : ∀ part ∈ blockParts block, Followed allowed comparison admitted check part)
    {left right : Walk} (compares : left.Compares comparison right)
    (checked : check.effects (blockEffects block) left right) :
    Walker.Follows allowed (walkBlock registry leftHelper block) left
      (walkBlock registry rightHelper block) right
      fun _ leftAfter _ rightAfter => leftAfter.Compares comparison rightAfter := by
  rw [walkBlock_eq_runEffects, walkBlock_eq_runEffects]
  refine runEffects_follows operations returns declared ?_ compares checked
  intro effect member value asked part inValue
  exact followed part (mem_blockParts_of_effect asked inValue block member)

end Walks

end FrameCheck.Analysis
