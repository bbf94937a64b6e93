import FrameCheck.Proofs.FrameOperations
import FrameCheck.Proofs.JoinOrder
import FrameCheck.Proofs.Scripts

/-!
Analyses without look-ups, and whether all joins that they come to are clear. The check follows
the analysis: it goes through the same expressions, from the same walks.
-/

namespace FrameCheck.Analysis

open Syntax Typing

abbrev freshCalls (registry : Registry) (depth : Nat) : HelperCall :=
  callsWith .never registry depth

abbrev ClearCall := FunctionInfo → List (Option Frame) → Walk → Bool

mutual

/-- Whether the frame of an expression is found through clear joins only. -/
def clearExpr (registry : Registry) (helper : HelperCall) (clearCall : ClearCall) :
    Expr → Walk → Bool
  | .call (.name function) arguments _, walk =>
    match registry.get? function with
    | some info =>
      clearAll registry helper clearCall arguments walk &&
        match info.signature, inferAll registry helper arguments walk with
        | none, .ok frames after => clearCall info frames after
        | _, _ => true
    | none => true
  | .call (.attribute (.call (.attribute grouped "group_by") _ _) "agg") _ _, walk =>
    clearExpr registry helper clearCall grouped walk
  | .call (.attribute _ "agg") _ _, _ => true
  | .call (.attribute receiver "join") (right :: _) keywords, walk =>
    clearExpr registry helper clearCall receiver walk &&
      match infer registry helper receiver walk with
      | .ok (some left) after =>
        clearExpr registry helper clearCall right after &&
          match infer registry helper right after with
          | .ok (some right) _ => isClearJoin left right (joinRequest keywords)
          | _ => true
      | _ => true
  | .call (.attribute receiver _) _ _, walk => clearExpr registry helper clearCall receiver walk
  | _, _ => true

def clearAll (registry : Registry) (helper : HelperCall) (clearCall : ClearCall) :
    List Expr → Walk → Bool
  | [], _ => true
  | first :: rest, walk =>
    clearExpr registry helper clearCall first walk &&
      match infer registry helper first walk with
      | .ok _ after => clearAll registry helper clearCall rest after
      | .error _ _ => true

end

def clearEffects (registry : Registry) (helper : HelperCall) (clearCall : ClearCall) :
    List Effect → Walk → Bool
  | [], _ => true
  | effect :: rest, walk =>
    (effect.value?.all fun value => clearExpr registry helper clearCall value walk) &&
      match effect.run registry helper walk with
      | .ok _ after => clearEffects registry helper clearCall rest after
      | .error _ _ => true

def clearCall (registry : Registry) : (depth : Nat) → ClearCall
  | 0 => fun _ _ _ => true
  | depth + 1 => fun info arguments walk =>
    clearEffects registry (freshCalls registry depth) (clearCall registry depth)
      (blockEffects info.definition.body) (callStart info arguments walk)

def clearFunction (registry : Registry) (definition : FunctionDefinition) : Bool :=
  clearEffects registry (freshCalls registry (callLimit registry))
    (clearCall registry (callLimit registry)) (blockEffects definition.body)
    (analysisStart definition .empty)

end FrameCheck.Analysis
