import FrameCheck.Proofs.ServingOperations
import FrameCheck.Proofs.Transparency

/-!
Two analyses in step: one of them starts from frames that serve for those of the other. The check
below follows both, without look-ups, and asks at every operation that both come to for what makes
the results serve: an operation that fails in the second analysis fails in the first one too, lists
gather columns that allow nulls in both or in neither, and the columns of joins keep their places.
Then the first analysis goes through wherever the second one does, with frames that serve.
-/

namespace FrameCheck

/-- A plain frame that serves for another one. -/
structure Frame.StandsFor (left right : Frame) : Prop where
  leftPlain : left.Plain
  rightPlain : right.Plain
  serves : Typing.frameServes left right = true

theorem Frame.Plain.standsFor {frame : Frame} (plain : frame.Plain) : frame.StandsFor frame :=
  ⟨plain, plain, Typing.frameServes_refl frame⟩

namespace Typing

/-! ## Operations in step -/

def isRefused : Except (Failure ε) α → Bool
  | .ok _ => false
  | .error failure => failure.isRefusal

/-- Whether the first of two joins fails with the second one, or keeps its places. -/
def joinInStep (left right otherLeft otherRight : Frame) (request : JoinRequest) : Bool :=
  match join otherLeft otherRight request with
  | .ok joined => request.keys?.all fun keys =>
      keys.keepsPlaces left right otherLeft otherRight joined
  | .error _ => isRefused (join left right request)

/-- Whether the first of two aggregations fails with the second one, or gathers alike. -/
def aggregationInStep (frame other : Frame) (keys : List Literal)
    (items : List AggregationColumn) : Bool :=
  match aggregate other keys items with
  | .ok _ => gathersAlike frame other items
  | .error _ => isRefused (aggregate frame keys items)

theorem exists_of_isRefused {result : Except (Failure ε) α} (refused : isRefused result = true) :
    ∃ failure, result = .error failure ∧ failure.isRefusal = true := by
  cases result with
  | ok value => cases refused
  | error failure => exact ⟨failure, rfl, refused⟩

/-- Results in step: both are values, and the first one serves; or both are failures, and the
first one is refused. -/
abbrev ResultsInStep {ε : Type} (first second : Except (Failure ε) Frame) : Prop :=
  ResultsAlike (fun failure _ => failure.isRefusal = true)
    (fun left right => frameServes left right = true) first second

theorem join_inStep {left right otherLeft otherRight : Frame} {request : JoinRequest}
    (lefts : left.StandsFor otherLeft) (rights : right.StandsFor otherRight)
    (clear : isClearJoin left right request = true)
    (otherClear : isClearJoin otherLeft otherRight request = true)
    (inStep : joinInStep left right otherLeft otherRight request = true) :
    ResultsInStep (join left right request) (join otherLeft otherRight request) := by
  unfold joinInStep at inStep
  cases otherJoin : join otherLeft otherRight request with
  | error otherError =>
    rw [otherJoin] at inStep
    obtain ⟨failure, failed, refused⟩ := exists_of_isRefused inStep
    rw [failed]
    exact .error refused
  | ok joined =>
    rw [otherJoin] at inStep
    have places : ∀ keys other, request.keys? = some keys →
        join otherLeft otherRight request = .ok other →
        keys.keepsPlaces left right otherLeft otherRight other = true := by
      intro keys other isKeys isOther
      rw [otherJoin] at isOther
      cases isOther
      simpa [isKeys] using inStep
    obtain ⟨frame, isFrame, serving⟩ := join_serves lefts.serves rights.serves rights.leftPlain
      rights.rightPlain clear otherClear places joined otherJoin
    rw [isFrame]
    exact .ok serving

theorem aggregate_inStep {frame other : Frame} (frames : frame.StandsFor other)
    {keys : List Literal} {items : List AggregationColumn}
    (inStep : aggregationInStep frame other keys items = true) :
    ResultsInStep (aggregate frame keys items) (aggregate other keys items) := by
  unfold aggregationInStep at inStep
  cases otherResult : aggregate other keys items with
  | error otherError =>
    rw [otherResult] at inStep
    obtain ⟨failure, failed, refused⟩ := exists_of_isRefused inStep
    rw [failed]
    exact .error refused
  | ok result =>
    rw [otherResult] at inStep
    obtain ⟨served, isServed, serving⟩ :=
      aggregate_serves frames.serves keys inStep result otherResult
    rw [isServed]
    exact .ok serving

end Typing

namespace Analysis

open Syntax Typing

/-- Whether no further columns are missing in the second of two frames. -/
def columnsInStep (frame other : Frame) (arguments : List Expr) : Bool :=
  decide ((outputColumns other arguments).2.length ≤ (outputColumns frame arguments).2.length)

/-! ## Walks in step -/

abbrev StepCall := FunctionInfo → (left right : List (Option Frame)) → Walk → Walk → Bool

mutual

def inStepExpr (registry : Registry) (leftHelper rightHelper : HelperCall)
    (inStepCall : StepCall) : Expr → Walk → Walk → Bool
  | .call (.name function) arguments _, left, right =>
    match registry.get? function with
    | some info =>
      inStepAll registry leftHelper rightHelper inStepCall arguments left right &&
        match info.signature, inferAll registry leftHelper arguments left,
          inferAll registry rightHelper arguments right with
        | none, .ok leftFrames leftAfter, .ok rightFrames rightAfter =>
          inStepCall info leftFrames rightFrames leftAfter rightAfter
        | _, _, _ => true
    | none => true
  | .call (.attribute (.call (.attribute grouped "group_by") keys _) "agg") items _, left, right =>
    inStepExpr registry leftHelper rightHelper inStepCall grouped left right &&
      match infer registry leftHelper grouped left, infer registry rightHelper grouped right with
      | .ok (some frame) _, .ok (some other) _ =>
        aggregationInStep frame other (groupKeys keys) (items.filterMap aggregationColumn?)
      | _, _ => true
  | .call (.attribute _ "agg") _ _, _, _ => true
  | .call (.attribute receiver "join") (rightOperand :: _) keywords, left, right =>
    inStepExpr registry leftHelper rightHelper inStepCall receiver left right &&
      match infer registry leftHelper receiver left, infer registry rightHelper receiver right with
      | .ok (some leftFrame) leftAfter, .ok (some otherLeft) rightAfter =>
        inStepExpr registry leftHelper rightHelper inStepCall rightOperand leftAfter rightAfter &&
          match infer registry leftHelper rightOperand leftAfter,
            infer registry rightHelper rightOperand rightAfter with
          | .ok (some rightFrame) _, .ok (some otherRight) _ =>
            joinInStep leftFrame rightFrame otherLeft otherRight (joinRequest keywords)
          | _, _ => true
      | _, _ => true
  | .call (.attribute receiver method) arguments _, left, right =>
    inStepExpr registry leftHelper rightHelper inStepCall receiver left right &&
      match infer registry leftHelper receiver left, infer registry rightHelper receiver right with
      | .ok (some frame) _, .ok (some other) _ =>
        (method != "select" && method != "with_columns") || columnsInStep frame other arguments
      | _, _ => true
  | _, _, _ => true

def inStepAll (registry : Registry) (leftHelper rightHelper : HelperCall)
    (inStepCall : StepCall) : List Expr → Walk → Walk → Bool
  | [], _, _ => true
  | first :: rest, left, right =>
    inStepExpr registry leftHelper rightHelper inStepCall first left right &&
      match infer registry leftHelper first left, infer registry rightHelper first right with
      | .ok _ leftAfter, .ok _ rightAfter =>
        inStepAll registry leftHelper rightHelper inStepCall rest leftAfter rightAfter
      | _, _ => true

end

def inStepEffects (registry : Registry) (leftHelper rightHelper : HelperCall)
    (inStepCall : StepCall) : List Effect → Walk → Walk → Bool
  | [], _, _ => true
  | effect :: rest, left, right =>
    (effect.value?.all fun value =>
      inStepExpr registry leftHelper rightHelper inStepCall value left right) &&
      match effect.run registry leftHelper left, effect.run registry rightHelper right with
      | .ok _ leftAfter, .ok _ rightAfter =>
        inStepEffects registry leftHelper rightHelper inStepCall rest leftAfter rightAfter
      | _, _ => true

def inStepCall (registry : Registry) : (depth : Nat) → StepCall
  | 0 => fun _ _ _ _ _ => true
  | depth + 1 => fun info leftArguments rightArguments left right =>
    inStepEffects registry (freshCalls registry depth) (freshCalls registry depth)
      (inStepCall registry depth) (blockEffects info.definition.body)
      (callStart info leftArguments left) (callStart info rightArguments right)

def inStepCheck (registry : Registry) (leftHelper rightHelper : HelperCall)
    (inStepCall : StepCall) : Check registry leftHelper rightHelper where
  expression expression left right :=
    inStepExpr registry leftHelper rightHelper inStepCall expression left right = true
  expressions expressions left right :=
    inStepAll registry leftHelper rightHelper inStepCall expressions left right = true
  effects effects left right :=
    inStepEffects registry leftHelper rightHelper inStepCall effects left right = true
  call info leftFrames rightFrames left right :=
    inStepCall info leftFrames rightFrames left right = true
  join left right otherLeft otherRight keywords :=
    joinInStep left right otherLeft otherRight (joinRequest keywords) = true
  aggregate frame other keys items :=
    aggregationInStep frame other (groupKeys keys) (items.filterMap aggregationColumn?) = true
  columns frame other arguments := columnsInStep frame other arguments = true
  arguments_of inStep registered := by
    simp only [inStepExpr, registered, Bool.and_eq_true] at inStep
    exact inStep.1
  call_of inStep registered untyped leftRun rightRun := by
    simp only [inStepExpr, registered, untyped, leftRun, rightRun, Bool.and_eq_true] at inStep
    exact inStep.2
  grouped_of inStep := by
    simp only [inStepExpr, Bool.and_eq_true] at inStep
    exact inStep.1
  aggregate_of inStep leftRun rightRun := by
    simp only [inStepExpr, leftRun, rightRun, Bool.and_eq_true] at inStep
    exact inStep.2
  receiver_of := by
    intro receiver method arguments keywords left right notAgg inStep
    by_cases isJoin : method = "join"
    · subst isJoin
      cases arguments with
      | nil =>
        rw [inStepExpr, Bool.and_eq_true] at inStep
        all_goals simp_all
      | cons rightOperand others =>
        simp only [inStepExpr, Bool.and_eq_true] at inStep
        exact inStep.1
    · rw [inStepExpr, Bool.and_eq_true] at inStep
      all_goals simp_all
  right_of inStep leftRun rightRun := by
    simp only [inStepExpr, leftRun, rightRun, Bool.and_eq_true] at inStep
    exact inStep.2.1
  join_of inStep leftRun rightRun leftLast rightLast := by
    simp only [inStepExpr, leftRun, rightRun, leftLast, rightLast, Bool.and_eq_true] at inStep
    exact inStep.2.2
  columns_of := by
    intro receiver method arguments keywords left right leftAfter rightAfter frame other isMethod
      inStep leftRun rightRun
    rcases isMethod with rfl | rfl
    all_goals
      rw [inStepExpr, leftRun, rightRun] at inStep
      all_goals simp_all
  first_of inStep := by
    simp only [inStepAll, Bool.and_eq_true] at inStep
    exact inStep.1
  rest_of inStep leftRun rightRun := by
    simp only [inStepAll, leftRun, rightRun, Bool.and_eq_true] at inStep
    exact inStep.2
  value_of inStep := by
    simp only [inStepEffects, Bool.and_eq_true, Option.all_eq_true] at inStep
    exact inStep.1
  later_of inStep leftRun rightRun := by
    simp only [inStepEffects, leftRun, rightRun, Bool.and_eq_true] at inStep
    exact inStep.2

/-! ## Frames that stand for others -/

def standing : Comparison where
  frames := Frame.StandsFor
  problems left right := right = [] → left = []
  memory _ := True
  note := by
    intro left right first second none lengths noneAfter
    obtain ⟨noneBefore, rfl⟩ := List.append_eq_nil_iff.mp noneAfter
    rw [none noneBefore, List.length_eq_zero_iff.mp lengths]
    rfl

def stepCheck (registry : Registry) (depth : Nat) :
    Check registry (freshCalls registry depth) (freshCalls registry depth) :=
  (clearCheck _ _ _ (clearCall registry depth)).flip.both
    ((clearCheck _ _ _ (clearCall registry depth)).both
      (inStepCheck _ _ _ (inStepCall registry depth)))

section Operations

variable {allowed : Fault → Prop} {condition : Prop} {left right : Walk}

theorem joinCall_stands {leftFrame rightFrame otherLeft otherRight : Frame}
    {keywords : List Keyword} (lefts : leftFrame.StandsFor otherLeft)
    (rights : rightFrame.StandsFor otherRight)
    (clear : isClearJoin leftFrame rightFrame (joinRequest keywords) = true)
    (otherClear : isClearJoin otherLeft otherRight (joinRequest keywords) = true)
    (inStep : joinInStep leftFrame rightFrame otherLeft otherRight (joinRequest keywords) = true)
    (compares : left.Compares standing right) :
    Walker.Follows allowed (joinCall leftFrame rightFrame keywords) left
      (joinCall otherLeft otherRight keywords) right
      (standing.AnswerBy fun first second => frameServes first second = true) :=
  attempt_follows (join_inStep lefts rights clear otherClear inStep)
    (fun _ _ refused _ => refused) compares

theorem aggregateCall_stands {frame other : Frame} (frames : frame.StandsFor other)
    {keys items : List Expr}
    (inStep : aggregationInStep frame other (groupKeys keys)
      (items.filterMap aggregationColumn?) = true)
    (compares : left.Compares standing right) :
    Walker.Follows allowed (aggregateCall frame keys items) left (aggregateCall other keys items)
      right (standing.AnswerBy fun first second => frameServes first second = true) :=
  attempt_follows (aggregate_inStep frames inStep) (fun _ _ refused _ => refused) compares

theorem selectCall_stands {frame other : Frame} (frames : frame.StandsFor other)
    {arguments : List Expr} (every : ∀ argument ∈ arguments, argument.Every (Admitted condition))
    (inStep : columnsInStep frame other arguments = true)
    (compares : left.Compares standing right) :
    Walker.Follows allowed (selectCall frame arguments) left (selectCall other arguments) right
      (standing.AnswerBy fun first second => frameServes first second = true) := by
  obtain ⟨columns, missing⟩ := outputColumns_serve frames.serves (of_decide_eq_true inStep)
  have problems := unknownColumns_writableWith frames.leftPlain every missing
  refine (report_follows problems compares).bind fun _ _ _ _ _ _ afterCompares => ?_
  refine .pure ⟨?_, afterCompares⟩
  have lengths := columns.length_eq
  split
  next isEmpty =>
    rw [if_pos (by simp_all)]
    exact .none
  next notEmpty =>
    rw [if_neg (by
      intro isEmpty
      simp_all)]
    exact .some (frameServes_insertAll columns (frameServes_refl _))

theorem withColumnsCall_stands {frame other : Frame} (frames : frame.StandsFor other)
    {arguments : List Expr} (every : ∀ argument ∈ arguments, argument.Every (Admitted condition))
    (inStep : columnsInStep frame other arguments = true)
    (compares : left.Compares standing right) :
    Walker.Follows allowed (withColumnsCall frame arguments) left
      (withColumnsCall other arguments) right
      (standing.AnswerBy fun first second => frameServes first second = true) := by
  obtain ⟨columns, missing⟩ := outputColumns_serve frames.serves (of_decide_eq_true inStep)
  have problems := unknownColumns_writableWith frames.leftPlain every missing
  refine (report_follows problems compares).bind fun _ _ _ _ _ _ afterCompares => ?_
  exact .pure ⟨.some (frameServes_insertAll columns frames.serves), afterCompares⟩

theorem arguments_serve {left right : List (Option Frame)}
    (arguments : standing.Arguments left right) :
    List.Forall₂ (Option.Rel fun first second => frameServes first second = true) left right := by
  refine arguments.imp fun first second frames => ?_
  cases frames with
  | none => exact .none
  | some frames => exact .some frames.serves

theorem operations_follow_standing {registry : Registry} {depth : Nat} :
    OperationsFollow allowed standing (Admitted condition) (stepCheck registry depth) where
  join every _ _ _ _ lefts rights checked _ _ compares :=
    operation_follows Frame.StandsFor.mk
      (operations_keep_plain.join every lefts.leftPlain rights.leftPlain _)
      (operations_keep_plain.join every lefts.rightPlain rights.rightPlain _)
      (joinCall_stands lefts rights checked.1 checked.2.1 checked.2.2 compares)
  aggregate every _ _ frames checked _ _ compares :=
    operation_follows Frame.StandsFor.mk
      (operations_keep_plain.aggregate every frames.leftPlain _)
      (operations_keep_plain.aggregate every frames.rightPlain _)
      (aggregateCall_stands frames checked.2.2 compares)
  select every _ _ frames checked _ _ compares :=
    operation_follows Frame.StandsFor.mk
      (operations_keep_plain.select every frames.leftPlain _)
      (operations_keep_plain.select every frames.rightPlain _)
      (selectCall_stands frames (fun _ member => every.argument member) checked.2.2 compares)
  withColumns every _ _ frames checked _ _ compares :=
    operation_follows Frame.StandsFor.mk
      (operations_keep_plain.withColumns every frames.leftPlain _)
      (operations_keep_plain.withColumns every frames.rightPlain _)
      (withColumnsCall_stands frames (fun _ member => every.argument member) checked.2.2 compares)
  call signature _ _ arguments _ _ none noneAfter := by
    obtain ⟨noneBefore, faultless⟩ := List.append_eq_nil_iff.mp noneAfter
    rw [none noneBefore, callProblems_serve signature 0 (arguments_serve arguments) faultless]
    rfl

end Operations

/-! ## Calls in step -/

section Scripts

variable {statements : List Stmt} {condition : Prop} {depth : Nat}

theorem block_stands (admitted : ∀ part ∈ blockParts statements, Admitted condition part)
    {definition : FunctionDefinition} (defined : definition ∈ functionsOf statements)
    (helps : ∀ name info, (registryOf statements).Untyped name info →
      HelperFollows NoFault standing (stepCheck (registryOf statements) depth) info)
    {left right : Walk} (compares : left.Compares standing right)
    (checked : (stepCheck (registryOf statements) depth).effects (blockEffects definition.body)
      left right) :
    Walker.Follows NoFault
      (walkBlock (registryOf statements) (freshCalls (registryOf statements) depth)
        definition.body) left
      (walkBlock (registryOf statements) (freshCalls (registryOf statements) depth)
        definition.body) right
      fun _ leftAfter _ rightAfter => leftAfter.Compares standing rightAfter := by
  have declared : ∀ hint, ∀ frame ∈ declaredFrame? hint, Frame.StandsFor frame frame :=
    fun hint frame isDeclared => (plain_of_declaredFrame? hint frame isDeclared).standsFor
  have operations : OperationsFollow NoFault standing (Admitted condition)
      (stepCheck (registryOf statements) depth) := operations_follow_standing
  refine walkBlock_follows operations ((sound_registryOf statements).returnsHold declared) declared
    (fun part inBody => ?_) compares checked
  exact ⟨admitted part (mem_blockParts_of_functionsOf defined inBody),
    fun name info _ untyped => helps name info untyped⟩

/-- Calls in step come to frames that stand for the others. The induction is on the number of
calls that may still be inside each other; in both walks it is the same. -/
theorem freshCalls_stand (admitted : ∀ part ∈ blockParts statements, Admitted condition part)
    (depth : Nat) {name : Text} {info : FunctionInfo}
    (untyped : (registryOf statements).Untyped name info) :
    HelperFollows NoFault standing (stepCheck (registryOf statements) depth) info := by
  induction depth generalizing name info with
  | zero =>
    intro _ _ _ _ _ _ _ _ _ rightRun
    cases rightRun
  | succ depth inDepth =>
    intro leftArguments rightArguments left right arguments compares checked rightResult rightAfter
      rightRun
    obtain ⟨smaller, rightInner, _, isDepth, rightWalked, rfl, rfl⟩ := exists_of_freshCalls rightRun
    cases isDepth
    have leftPlain : ArgumentsPlain leftArguments :=
      arguments_hold_of_related (fun frames => frames.leftPlain) arguments
    have body := block_stands admitted (mem_functionsOf_of_untyped untyped)
      (fun _ _ isUntyped => inDepth isUntyped)
      (callStart_compares info right arguments (fun _ => rfl) trivial) checked
    obtain ⟨_, leftInner, leftWalked, innerCompares⟩ :=
      (body _ _ rightWalked).exists_ok fun _ => id
    unfold Walker.Yields
    rw [freshCalls, callsWith_of_ordered (ordered_of_plain leftPlain)]
    simp only [Recall.never, enter_of_ok leftWalked]
    exact ⟨innerCompares.returned, compares.frames, compares.returned, compares.problems, trivial⟩

end Scripts

end Analysis

end FrameCheck
