import FrameCheck.Proofs.Calls
import FrameCheck.Proofs.Expressions
import FrameCheck.Proofs.Renaming
import FrameCheck.Proofs.Steps

/-!
Walks that correspond. Where an expression finds frames under its names in one walk, and its
renamed form finds the same frames under the new names in another, both come to the same frame,
note the same problems and remember the same results. Calls of functions without a signature
depend on what is remembered only, and more calls that may be inside each other change nothing,
unless there are too few of them.
-/

namespace FrameCheck.Analysis

open Syntax Typing

/-! ## Variables that are looked at -/

mutual

def frameVariables (registry : Registry) : Expr → List String
  | .name identifier => [identifier]
  | .call (.name function) arguments _ =>
    if registry.contains function then allFrameVariables registry arguments else []
  | .call (.attribute (.call (.attribute grouped "group_by") _ _) "agg") _ _ =>
    frameVariables registry grouped
  | .call (.attribute _ "agg") _ _ => []
  | .call (.attribute receiver "join") (right :: _) _ =>
    frameVariables registry receiver ++ frameVariables registry right
  | .call (.attribute receiver _) _ _ => frameVariables registry receiver
  | _ => []

def allFrameVariables (registry : Registry) : List Expr → List String
  | [] => []
  | first :: rest => frameVariables registry first ++ allFrameVariables registry rest

end

section FrameVariables

variable {registry : Registry}

theorem frameVariables_known {function : String} {info : FunctionInfo}
    (registered : registry.get? function = some info) (arguments : List Expr)
    (keywords : List Keyword) :
    frameVariables registry (.call (.name function) arguments keywords) =
      allFrameVariables registry arguments := by
  have isKnown : registry.contains function = true := by
    rw [Table.contains_eq, registered]
    rfl
  rw [frameVariables, if_pos isKnown]

theorem frameVariables_method {method : String} {arguments : List Expr} (notAgg : method ≠ "agg")
    (notJoin : ∀ right others, arguments = right :: others → method ≠ "join") (receiver : Expr)
    (keywords : List Keyword) :
    frameVariables registry (.call (.attribute receiver method) arguments keywords) =
      frameVariables registry receiver := by
  rw [frameVariables]
  · exact fun _ _ _ _ => notAgg
  · exact notAgg
  · exact notJoin

theorem frameVariables_otherMethod {method : String} {arguments : List Expr}
    (isOther : yieldsNothing method arguments = true) (receiver : Expr)
    (keywords : List Keyword) :
    frameVariables registry (.call (.attribute receiver method) arguments keywords) =
      frameVariables registry receiver := by
  refine frameVariables_method (ne_agg_of_yieldsNothing isOther) ?_ receiver keywords
  rintro right others rfl rfl
  simp [yieldsNothing] at isOther

theorem frameVariables_of_isFrameless {expression : Expr}
    (frameless : isFrameless registry expression = true) :
    frameVariables registry expression = [] := by
  unfold frameVariables
  split <;> simp_all [isFrameless]

theorem mem_parts_of_frameVariables (registry : Registry) (name : String) :
    (∀ expression, name ∈ frameVariables registry expression →
      .name name ∈ expression.parts) ∧
    ∀ expressions, name ∈ allFrameVariables registry expressions →
      .name name ∈ allParts expressions := by
  apply inferInduction registry
  case name => simp [frameVariables, Expr.parts]
  case known =>
    intro function info arguments keywords registered inArguments isLooked
    rw [frameVariables_known registered] at isLooked
    simp [Expr.parts, inArguments isLooked]
  case aggregation =>
    intro grouped keys keyKeywords items keywords inGrouped isLooked
    rw [frameVariables] at isLooked
    simp [Expr.parts, inGrouped isLooked]
  case join =>
    intro receiver right others keywords inReceiver inRight isLooked
    rw [frameVariables, List.mem_append] at isLooked
    rcases isLooked with looked | looked
    · simp [Expr.parts, inReceiver looked]
    · simp [Expr.parts, allParts, inRight looked]
  case select | withColumns =>
    intro receiver arguments keywords inReceiver isLooked
    rw [frameVariables_method (by simp) (by simp)] at isLooked
    simp [Expr.parts, inReceiver isLooked]
  case otherMethod =>
    intro receiver method arguments keywords isOther inReceiver isLooked
    rw [frameVariables_otherMethod isOther] at isLooked
    simp [Expr.parts, inReceiver isLooked]
  case frameless =>
    intro expression frameless isLooked
    rw [frameVariables_of_isFrameless frameless] at isLooked
    cases isLooked
  case nil => simp [allFrameVariables]
  case cons =>
    intro first rest inFirst inRest isLooked
    rw [allFrameVariables, List.mem_append] at isLooked
    rw [allParts, List.mem_append]
    exact isLooked.imp inFirst inRest

end FrameVariables

/-- New names that change neither which functions are called nor what is a column expression. -/
structure Registry.KeptBy (registry : Registry) (names : String → String) : Prop where
  functions : ∀ name : String, registry.get? (names name) = registry.get? name
  library : ∀ name, names name = "pl" ↔ name = "pl"

theorem Registry.keptBy_id (registry : Registry) : registry.KeptBy id :=
  ⟨fun _ => rfl, fun _ => Iff.rfl⟩

theorem isFrameless_rename {registry : Registry} {names : String → String}
    (kept : registry.KeptBy names) {expression : Expr}
    (frameless : isFrameless registry expression = true) :
    isFrameless registry (expression.rename names) = true := by
  generalize renamed : expression.rename names = other
  unfold isFrameless
  split
  · obtain ⟨_, rfl, _⟩ := name_of_rename renamed
    exact frameless
  · obtain ⟨_, _, _, rfl, isFunction, _⟩ := call_of_rename renamed
    obtain ⟨function, rfl, rfl⟩ := name_of_rename isFunction
    rw [Table.contains_eq, kept.functions, ← Table.contains_eq]
    exact frameless
  · obtain ⟨_, _, _, rfl, isFunction, _⟩ := call_of_rename renamed
    obtain ⟨_, rfl, isGrouped⟩ := attribute_of_rename isFunction
    obtain ⟨_, _, _, rfl, isMethod, _⟩ := call_of_rename isGrouped
    obtain ⟨_, rfl, _⟩ := attribute_of_rename isMethod
    exact frameless
  · rfl
  next notGrouped notAgg =>
    obtain ⟨_, _, _, rfl, isFunction, _⟩ := call_of_rename renamed
    obtain ⟨_, rfl, _⟩ := attribute_of_rename isFunction
    rw [isFrameless] at frameless
    · exact frameless
    · exact fun _ _ _ _ => notAgg
    · exact notAgg
  · rfl

theorem yieldsNothing_renameAll (method : String) (names : String → String)
    (arguments : List Expr) :
    yieldsNothing method (renameAll names arguments) = yieldsNothing method arguments := by
  cases arguments <;> rfl

/-! ## Steps that match -/

/-- Two steps come to the same value or to the same fault, with walks that are related. A first
step that breaks off with a fault that is excused matches anything. -/
inductive Matches (excused : Fault → Prop) (related : Walk → Walk → Prop) :
    (left right : EStateM.Result Fault Walk α) → Prop
  | ok (value : α) {left right : Walk} (walks : related left right) :
      Matches excused related (.ok value left) (.ok value right)
  | error (fault : Fault) {left right : Walk} (walks : related left right) :
      Matches excused related (.error fault left) (.error fault right)
  | excuse {fault : Fault} {left : Walk} {right : EStateM.Result Fault Walk α}
      (isExcused : excused fault) : Matches excused related (.error fault left) right

namespace Matches

variable {excused : Fault → Prop} {related : Walk → Walk → Prop}

theorem refl (result : EStateM.Result Fault Walk α) : Matches excused Eq result result := by
  cases result with
  | ok value walk => exact .ok value rfl
  | error fault walk => exact .error fault rfl

theorem mono {other : Walk → Walk → Prop} {left right : EStateM.Result Fault Walk α}
    (first : Matches excused related left right)
    (implies : ∀ {left right : Walk}, related left right → other left right) :
    Matches excused other left right := by
  cases first with
  | ok value walks => exact .ok value (implies walks)
  | error fault walks => exact .error fault (implies walks)
  | excuse isExcused => exact .excuse isExcused

theorem bind {left right : Walker α} {leftNext rightNext : α → Walker β}
    {leftWalk rightWalk : Walk} (first : Matches excused related (left leftWalk) (right rightWalk))
    (second : ∀ value leftAfter rightAfter, related leftAfter rightAfter →
      Matches excused related (leftNext value leftAfter) (rightNext value rightAfter)) :
    Matches excused related ((left >>= leftNext) leftWalk) ((right >>= rightNext) rightWalk) := by
  cases leftRun : left leftWalk with
  | ok value leftAfter =>
    rw [leftRun] at first
    rw [Steps.bind_of_ok leftRun]
    cases rightRun : right rightWalk with
    | ok other rightAfter =>
      rw [rightRun] at first
      rw [Steps.bind_of_ok rightRun]
      cases first with
      | ok _ walks => exact second value leftAfter rightAfter walks
    | error fault rightAfter =>
      rw [rightRun] at first
      cases first
  | error fault leftAfter =>
    rw [leftRun] at first
    rw [Steps.bind_of_error leftRun]
    cases rightRun : right rightWalk with
    | ok other rightAfter =>
      rw [rightRun] at first
      cases first with
      | excuse isExcused => exact .excuse isExcused
    | error other rightAfter =>
      rw [rightRun] at first
      rw [Steps.bind_of_error rightRun]
      cases first with
      | error _ walks => exact .error fault walks
      | excuse isExcused => exact .excuse isExcused

theorem onFrame {left right : Walker (Option Frame)}
    {leftNext rightNext : Frame → Walker (Option Frame)} {leftWalk rightWalk : Walk}
    (first : Matches excused related (left leftWalk) (right rightWalk))
    (second : ∀ frame leftAfter rightAfter, related leftAfter rightAfter →
      Matches excused related (leftNext frame leftAfter) (rightNext frame rightAfter)) :
    Matches excused related (Walker.onFrame left leftNext leftWalk)
      (Walker.onFrame right rightNext rightWalk) := by
  refine first.bind fun frame leftAfter rightAfter walks => ?_
  cases frame with
  | none => exact .ok none walks
  | some frame => exact second frame leftAfter rightAfter walks

end Matches

/-! ## Correspondences -/

/-- How two walks correspond: what the first one has under a name that counts, the second one has
under the new name, and both remember the same. It makes no difference if both note the same
problems or come to remember the same results. -/
structure Correspondence (names : String → String) (counts : String → Prop) where
  related : Walk → Walk → Prop
  frames : ∀ {left right : Walk}, related left right → ∀ name : String, counts name →
    left.frames.get? name = right.frames.get? (names name)
  memo : ∀ {left right : Walk}, related left right → left.memo = right.memo
  note : ∀ {left right : Walk}, related left right → ∀ problems,
    related { left with problems := left.problems ++ problems }
      { right with problems := right.problems ++ problems }
  remember : ∀ {left right : Walk}, related left right → ∀ memo,
    related { left with memo := memo } { right with memo := memo }

def Correspondence.same : Correspondence id fun _ => True where
  related := Eq
  frames same _ _ := by rw [same, id]
  memo same := by rw [same]
  note same _ := by rw [same]
  remember same _ := by rw [same]

section Operations

variable {names : String → String} {counts : String → Prop} {excused : Fault → Prop}
  (correspondence : Correspondence names counts) {left right : Walk}
  (walks : correspondence.related left right)

include walks

theorem report_matches (problems : List Problem) :
    Matches excused correspondence.related (Walker.report problems left)
      (Walker.report problems right) := by
  unfold Walker.report
  split
  · exact .ok PUnit.unit (correspondence.note walks problems)
  · exact .error .longNumber walks

theorem attempt_matches (result : Except (Failure Problem) Frame) :
    Matches excused correspondence.related (Walker.attempt result left)
      (Walker.attempt result right) := by
  cases result with
  | ok frame => exact .ok (some frame) walks
  | error failure =>
    cases failure with
    | refused problem => exact .ok none (correspondence.note walks [problem])
    | longNumber => exact .error .longNumber walks

theorem selectCall_matches (frame : Frame) (arguments : List Expr) :
    Matches excused correspondence.related (selectCall frame arguments left)
      (selectCall frame arguments right) :=
  (report_matches correspondence walks _).bind fun _ _ _ after => .ok _ after

theorem withColumnsCall_matches (frame : Frame) (arguments : List Expr) :
    Matches excused correspondence.related (withColumnsCall frame arguments left)
      (withColumnsCall frame arguments right) :=
  (report_matches correspondence walks _).bind fun _ _ _ after => .ok _ after

end Operations

/-! ## Expressions -/

def HelpersAgree (excused : Fault → Prop) (left right : HelperCall) : Prop :=
  ∀ info arguments (leftWalk rightWalk : Walk), leftWalk.memo = rightWalk.memo →
    Matches excused
      (fun leftAfter rightAfter => ∃ memo, leftAfter = { leftWalk with memo := memo } ∧
        rightAfter = { rightWalk with memo := memo })
      (left info arguments leftWalk) (right info arguments rightWalk)

section Expressions

variable {registry : Registry} {names : String → String} {counts : String → Prop}
  {excused : Fault → Prop} {leftHelper rightHelper : HelperCall}

theorem functionCall_matches (correspondence : Correspondence names counts)
    (helpers : HelpersAgree excused leftHelper rightHelper) (info : FunctionInfo)
    (arguments : List (Option Frame)) {left right : Walk}
    (walks : correspondence.related left right) :
    Matches excused correspondence.related (functionCall leftHelper info arguments left)
      (functionCall rightHelper info arguments right) := by
  unfold functionCall
  cases info.signature with
  | some signature => exact .ok signature.returns (correspondence.note walks _)
  | none =>
    refine (helpers info arguments left right (correspondence.memo walks)).mono ?_
    rintro _ _ ⟨memo, rfl, rfl⟩
    exact correspondence.remember walks memo

theorem infer_matches (kept : registry.KeptBy names)
    (correspondence : Correspondence names counts)
    (helpers : HelpersAgree excused leftHelper rightHelper) :
    (∀ expression : Expr, (∀ name ∈ frameVariables registry expression, counts name) →
      ∀ left right : Walk, correspondence.related left right →
      Matches excused correspondence.related (infer registry leftHelper expression left)
        (infer registry rightHelper (expression.rename names) right)) ∧
    ∀ expressions : List Expr, (∀ name ∈ allFrameVariables registry expressions, counts name) →
      ∀ left right : Walk, correspondence.related left right →
      Matches excused correspondence.related (inferAll registry leftHelper expressions left)
        (inferAll registry rightHelper (renameAll names expressions) right) := by
  apply inferInduction registry
  case name =>
    intro identifier counted left right walks
    have found := correspondence.frames walks identifier
      (counted identifier (by simp [frameVariables]))
    rw [Expr.rename, infer_name, infer_name, found]
    exact .ok _ walks
  case known =>
    intro function info arguments keywords registered inArguments counted left right walks
    have stillRegistered : registry.get? (names function) = some info := by
      rw [kept.functions, registered]
    rw [frameVariables_known registered] at counted
    rw [Expr.rename, Expr.rename, infer_known leftHelper registered,
      infer_known rightHelper stillRegistered]
    refine (inArguments counted left right walks).bind fun frames _ _ after => ?_
    exact functionCall_matches correspondence helpers info frames after
  case aggregation =>
    intro grouped keys keyKeywords items keywords inGrouped counted left right walks
    rw [frameVariables] at counted
    simp only [Expr.rename, infer_aggregation]
    refine (inGrouped counted left right walks).onFrame fun frame _ _ after => ?_
    rw [aggregateCall_rename kept.library]
    exact attempt_matches correspondence after _
  case join =>
    intro receiver rightOperand others keywords inReceiver inRight counted left right walks
    rw [frameVariables, List.forall_mem_append] at counted
    rw [Expr.rename, Expr.rename, renameAll, infer_join, infer_join]
    refine (inReceiver counted.1 left right walks).onFrame fun leftFrame _ _ after => ?_
    refine (inRight counted.2 _ _ after).onFrame fun rightFrame _ _ last => ?_
    rw [joinCall_rename]
    exact attempt_matches correspondence last _
  case select =>
    intro receiver arguments keywords inReceiver counted left right walks
    rw [frameVariables_method (by simp) (by simp)] at counted
    rw [Expr.rename, Expr.rename, infer_select, infer_select]
    refine (inReceiver counted left right walks).onFrame fun frame _ _ after => ?_
    rw [selectCall_rename kept.library]
    exact selectCall_matches correspondence after frame arguments
  case withColumns =>
    intro receiver arguments keywords inReceiver counted left right walks
    rw [frameVariables_method (by simp) (by simp)] at counted
    rw [Expr.rename, Expr.rename, infer_withColumns, infer_withColumns]
    refine (inReceiver counted left right walks).onFrame fun frame _ _ after => ?_
    rw [withColumnsCall_rename kept.library]
    exact withColumnsCall_matches correspondence after frame arguments
  case otherMethod =>
    intro receiver method arguments keywords isOther inReceiver counted left right walks
    have stillOther : yieldsNothing method (renameAll names arguments) = true := by
      rw [yieldsNothing_renameAll, isOther]
    rw [frameVariables_otherMethod isOther] at counted
    rw [Expr.rename, Expr.rename, infer_otherMethod leftHelper isOther,
      infer_otherMethod rightHelper stillOther]
    exact (inReceiver counted left right walks).onFrame fun _ _ _ after => .ok none after
  case frameless =>
    intro expression frameless _ left right walks
    rw [infer_of_isFrameless leftHelper frameless,
      infer_of_isFrameless rightHelper (isFrameless_rename kept frameless)]
    exact .ok none walks
  case nil =>
    intro _ left right walks
    rw [renameAll, inferAll, inferAll]
    exact .ok [] walks
  case cons =>
    intro first rest inFirst inRest counted left right walks
    rw [allFrameVariables, List.forall_mem_append] at counted
    rw [renameAll, inferAll, inferAll]
    refine (inFirst counted.1 left right walks).bind fun frame _ _ after => ?_
    refine (inRest counted.2 _ _ after).bind fun frames _ _ last => ?_
    exact .ok (frame :: frames) last

theorem infer_corresponds (correspondence : Correspondence id counts)
    (helpers : HelpersAgree excused leftHelper rightHelper) {expression : Expr}
    (counted : ∀ name ∈ frameVariables registry expression, counts name) {left right : Walk}
    (walks : correspondence.related left right) :
    Matches excused correspondence.related (infer registry leftHelper expression left)
      (infer registry rightHelper expression right) := by
  have same := (infer_matches registry.keptBy_id correspondence helpers).1 expression counted left
    right walks
  rwa [Expr.rename_id] at same

end Expressions

/-! ## Blocks -/

section Blocks

variable {registry : Registry} {excused : Fault → Prop} {leftHelper rightHelper : HelperCall}

theorem infer_agrees (helpers : HelpersAgree excused leftHelper rightHelper) (expression : Expr)
    (walk : Walk) :
    Matches excused Eq (infer registry leftHelper expression walk)
      (infer registry rightHelper expression walk) :=
  infer_corresponds .same helpers (fun _ _ => trivial) rfl

theorem run_agrees (helpers : HelpersAgree excused leftHelper rightHelper) (effect : Effect)
    (walk : Walk) :
    Matches excused Eq (effect.run registry leftHelper walk)
      (effect.run registry rightHelper walk) := by
  cases effect with
  | declare name hint => exact .refl _
  | assign name value =>
    refine (infer_agrees helpers value walk).bind ?_
    rintro frame after _ rfl
    exact .refl _
  | give value =>
    refine (infer_agrees helpers value walk).bind ?_
    rintro frame after _ rfl
    exact .refl _

theorem runEffects_agrees (helpers : HelpersAgree excused leftHelper rightHelper)
    (effects : List Effect) (walk : Walk) :
    Matches excused Eq (runEffects registry leftHelper effects walk)
      (runEffects registry rightHelper effects walk) := by
  induction effects generalizing walk with
  | nil => exact .refl _
  | cons effect rest inRest =>
    refine (run_agrees helpers effect walk).bind ?_
    rintro _ after _ rfl
    exact inRest after

theorem walkBlock_agrees (helpers : HelpersAgree excused leftHelper rightHelper)
    (block : List Stmt) (walk : Walk) :
    Matches excused Eq (walkBlock registry leftHelper block walk)
      (walkBlock registry rightHelper block walk) := by
  rw [walkBlock_eq_runEffects, walkBlock_eq_runEffects]
  exact runEffects_agrees helpers _ walk

end Blocks

/-! ## Calls -/

section Calls

variable {registry : Registry} {excused : Fault → Prop}

theorem enter_agrees {leftHelper rightHelper : HelperCall}
    (helpers : HelpersAgree excused leftHelper rightHelper) :
    HelpersAgree excused (enter registry leftHelper) (enter registry rightHelper) := by
  intro info arguments leftWalk rightWalk sameMemo
  have sameStart : callStart info arguments leftWalk = callStart info arguments rightWalk := by
    rw [callStart, callStart, sameMemo]
  have bodies : Matches excused Eq
      (walkBlock registry leftHelper info.definition.body (callStart info arguments leftWalk))
      (walkBlock registry rightHelper info.definition.body (callStart info arguments rightWalk)) :=
    sameStart ▸ walkBlock_agrees helpers _ _
  generalize leftRun : walkBlock registry leftHelper _ _ = leftResult at bodies
  generalize rightRun : walkBlock registry rightHelper _ _ = rightResult at bodies
  cases bodies with
  | ok value walks =>
    subst walks
    rw [enter_of_ok leftRun, enter_of_ok rightRun]
    exact .ok _ ⟨_, rfl, rfl⟩
  | error fault walks =>
    subst walks
    rw [enter_of_error leftRun, enter_of_error rightRun]
    exact .error _ ⟨_, rfl, rfl⟩
  | excuse isExcused =>
    rw [enter_of_error leftRun]
    exact .excuse isExcused

/-- Allowing more calls inside each other changes nothing, unless there are too few of them. The
induction is on the smaller number of calls. -/
theorem callHelper_agrees {depth deeper : Nat}
    (bounds : depth = deeper ∨ depth ≤ deeper ∧ excused .endlessCalls) :
    HelpersAgree excused (callHelper registry depth) (callHelper registry deeper) := by
  induction depth generalizing deeper with
  | zero =>
    intro info arguments leftWalk rightWalk sameMemo
    rcases bounds with rfl | ⟨_, isExcused⟩
    · refine .error .endlessCalls ⟨leftWalk.memo, rfl, ?_⟩
      rw [sameMemo]
    · exact .excuse isExcused
  | succ depth inDepth =>
    obtain ⟨deeper, rfl⟩ : ∃ fewer, deeper = fewer + 1 := Nat.exists_eq_add_one.mpr (by omega)
    have inner : HelpersAgree excused (callHelper registry depth) (callHelper registry deeper) :=
      inDepth (bounds.imp Nat.succ.inj (And.imp_left Nat.le_of_succ_le_succ))
    have entered : HelpersAgree excused (enter registry _) (enter registry _) := enter_agrees inner
    intro info arguments leftWalk rightWalk sameMemo
    have unchanged : ∃ memo, leftWalk = { leftWalk with memo := memo } ∧
        rightWalk = { rightWalk with memo := memo } :=
      ⟨leftWalk.memo, rfl, by rw [sameMemo]⟩
    simp only [callHelper_eq_callsWith] at entered ⊢
    cases isOrdered : ordered arguments with
    | false =>
      rw [callsWith_of_unordered isOrdered, callsWith_of_unordered isOrdered]
      exact .error .unorderedLabels unchanged
    | true =>
      rw [callsWith_of_ordered isOrdered, callsWith_of_ordered isOrdered, sameMemo]
      cases rightWalk.memo.find? info.definition.name arguments with
      | some frame => exact .ok (some frame) unchanged
      | none => exact entered info arguments leftWalk rightWalk sameMemo

end Calls

end FrameCheck.Analysis
