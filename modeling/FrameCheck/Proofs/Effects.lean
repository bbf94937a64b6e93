import FrameCheck.Analysis.Walk

/-!
What a block does to a walk. Only assignments and returns count, wherever they stand; walking
through a block is running them from first to last.
-/

namespace FrameCheck.Analysis

open Syntax

inductive Effect where
  | declare (name : Text) (hint : Expr)
  | assign (name : Text) (value : Expr)
  | give (value : Expr)

namespace Effect

def run (registry : Registry) (helper : HelperCall) : Effect → Walker Unit
  | .declare name hint => Walker.assign name (declaredFrame? hint)
  | .assign name value => do Walker.assign name (← infer registry helper value)
  | .give value => do
    let frame ← infer registry helper value
    modify fun walk => { walk with returned := frame }

def value? : Effect → Option Expr
  | .declare _ _ => none
  | .assign _ value => some value
  | .give value => some value

end Effect

def runEffects (registry : Registry) (helper : HelperCall) : List Effect → Walker Unit
  | [] => pure ()
  | first :: rest => do
    first.run registry helper
    runEffects registry helper rest

mutual

/-- The effects of a statement and of the blocks inside it, in the order in which they are
written. -/
def statementEffects : Stmt → List Effect
  | .returning (some value) => [.give value]
  | .returning none => []
  | .assign [.name target] value => [.assign target value]
  | .assign _ _ => []
  | .annotated (.name target) hint value =>
    match declaredFrame? hint, value with
    | some _, _ => [.declare target hint]
    | none, some value => [.assign target value]
    | none, none => []
  | .annotated _ _ _ => []
  | .plain _ _ => []
  | .function _ _ body => blockEffects body
  | .classDefinition _ _ _ _ body => blockEffects body
  | .conditional _ body alternative => blockEffects body ++ blockEffects alternative
  | .whileLoop _ body alternative => blockEffects body ++ blockEffects alternative
  | .forLoop _ _ _ body alternative => blockEffects body ++ blockEffects alternative
  | .withBlock _ _ body => blockEffects body
  | .tryBlock body handlers alternative finalizer =>
    blockEffects body ++ (clausesEffects handlers ++
      (blockEffects alternative ++ blockEffects finalizer))
  | .matchBlock _ cases => clausesEffects cases

def blockEffects : List Stmt → List Effect
  | [] => []
  | first :: rest => statementEffects first ++ blockEffects rest

def clauseEffects : Clause → List Effect
  | .mk _ body => blockEffects body

def clausesEffects : List Clause → List Effect
  | [] => []
  | first :: rest => clauseEffects first ++ clausesEffects rest

end

section Runs

variable (registry : Registry) (helper : HelperCall)

theorem runEffects_append (first second : List Effect) :
    runEffects registry helper (first ++ second) =
      (do runEffects registry helper first; runEffects registry helper second) := by
  induction first with
  | nil => simp [runEffects]
  | cons effect rest inRest => simp [runEffects, inRest]

mutual

theorem walkStatement_eq_runEffects : (statement : Stmt) →
    walkStatement registry helper statement =
      runEffects registry helper (statementEffects statement)
  | .plain _ _ => by simp only [walkStatement, statementEffects, runEffects]
  | .returning none => by simp only [walkStatement, statementEffects, runEffects]
  | .returning (some value) => by
    simp [walkStatement, statementEffects, runEffects, Effect.run]
  | .assign targets value => by
    unfold walkStatement statementEffects
    split <;> simp_all [runEffects, Effect.run]
  | .annotated target hint value => by
    cases target with
    | name target =>
      cases declared : declaredFrame? hint <;> cases value <;>
        simp [walkStatement, statementEffects, declared, runEffects, Effect.run, Walker.assign]
    | _ => rfl
  | .function _ _ body => walkBlock_eq_runEffects body
  | .classDefinition _ _ _ _ body => walkBlock_eq_runEffects body
  | .withBlock _ _ body => walkBlock_eq_runEffects body
  | .conditional _ body alternative => by
    rw [walkStatement, statementEffects, runEffects_append, walkBlock_eq_runEffects body,
      walkBlock_eq_runEffects alternative]
  | .whileLoop _ body alternative => by
    rw [walkStatement, statementEffects, runEffects_append, walkBlock_eq_runEffects body,
      walkBlock_eq_runEffects alternative]
  | .forLoop _ _ _ body alternative => by
    rw [walkStatement, statementEffects, runEffects_append, walkBlock_eq_runEffects body,
      walkBlock_eq_runEffects alternative]
  | .tryBlock body handlers alternative finalizer => by
    rw [walkStatement, statementEffects, runEffects_append, runEffects_append, runEffects_append,
      walkBlock_eq_runEffects body, walkClauses_eq_runEffects handlers,
      walkBlock_eq_runEffects alternative, walkBlock_eq_runEffects finalizer]
  | .matchBlock _ cases => walkClauses_eq_runEffects cases

theorem walkBlock_eq_runEffects : (block : List Stmt) →
    walkBlock registry helper block = runEffects registry helper (blockEffects block)
  | [] => rfl
  | first :: rest => by
    rw [walkBlock, blockEffects, runEffects_append, walkStatement_eq_runEffects first,
      walkBlock_eq_runEffects rest]

theorem walkClause_eq_runEffects : (clause : Clause) →
    walkClause registry helper clause = runEffects registry helper (clauseEffects clause)
  | .mk _ body => walkBlock_eq_runEffects body

theorem walkClauses_eq_runEffects : (clauses : List Clause) →
    walkClauses registry helper clauses = runEffects registry helper (clausesEffects clauses)
  | [] => rfl
  | first :: rest => by
    rw [walkClauses, clausesEffects, runEffects_append, walkClause_eq_runEffects first,
      walkClauses_eq_runEffects rest]

end

end Runs

end FrameCheck.Analysis
