import FrameCheck.Proofs.Changes
import FrameCheck.Proofs.Flattening
import FrameCheck.Proofs.Scripts
import FrameCheck.Proofs.Serving

/-!
Which returns a verdict covers. A walk keeps one returned frame, that of the return it came to
last, and it goes through the definitions inside a function as well. So a verdict is about the
last return with a value, wherever it stands. It covers all returns of the function itself where
there is only one, and no definition after it returns a value.
-/

namespace FrameCheck

/-! ## Frames that fit -/

structure Frame.Fits (inferred declared : Frame) : Prop where
  names : ∀ name, inferred.hasColumn name = declared.hasColumn name
  types : ∀ name type, declared.column? name = some type →
    ∃ other, inferred.column? name = some other ∧ Report.fits other type = true

namespace Frame

theorem exists_of_hasColumn {frame : Frame} {name : Literal} (has : frame.hasColumn name = true) :
    ∃ column ∈ frame.columns.entries, (column.1 == name) = true := by
  simpa [hasColumn, Table.contains] using has

theorem hasColumn_of_entries {frame other : Frame}
    (included : ∀ column ∈ frame.columns.entries, other.hasColumn column.1 = true)
    {name : Literal} (has : frame.hasColumn name = true) : other.hasColumn name = true := by
  obtain ⟨column, member, same⟩ := exists_of_hasColumn has
  rw [← hasColumn_congr same]
  exact included column member

end Frame

namespace Report

open Analysis Typing

theorem returnFindings_eq_nil_iff {declared inferred : Frame} :
    returnFindings (some declared) (some inferred) = [] ↔ inferred.Fits declared := by
  simp only [returnFindings, List.append_eq_nil_iff, missingColumns_eq_nil_iff,
    extraColumns_eq_nil_iff, typeDifferences_eq_nil_iff]
  constructor
  · rintro ⟨⟨missing, extra⟩, types⟩
    refine ⟨fun name => ?_, fun name type found => ?_⟩
    · rw [Bool.eq_iff_iff]
      exact ⟨Frame.hasColumn_of_entries extra, Frame.hasColumn_of_entries missing⟩
    · obtain ⟨column, member, same, rfl⟩ := Table.exists_of_get? found
      have isThere := missing column member
      rw [Frame.hasColumn, Table.contains_eq] at isThere
      obtain ⟨other, isOther⟩ := Option.isSome_iff_exists.mp isThere
      refine ⟨other, ?_, types column member other isOther⟩
      rw [← isOther]
      exact (Table.get?_congr same inferred.columns).symm
  · intro fitting
    refine ⟨⟨fun column member => ?_, fun column member => ?_⟩, fun column member type isType => ?_⟩
    · rw [fitting.names]
      exact Frame.hasColumn_of_mem member
    · rw [← fitting.names]
      exact Frame.hasColumn_of_mem member
    · obtain ⟨other, isOther, fits⟩ :=
        fitting.types column.1 column.2 (Table.get?_of_mem member)
      rw [Option.mem_def.mp isType] at isOther
      cases isOther
      exact fits

instance (inferred declared : Frame) : Decidable (inferred.Fits declared) :=
  decidable_of_iff ((returnFindings (some declared) (some inferred)).isEmpty = true)
    (by rw [List.isEmpty_iff, returnFindings_eq_nil_iff])

end Report

namespace Analysis

open Syntax

/-! ## Effects and whose they are -/

structure MarkedEffect where
  isOwn : Bool
  effect : Effect

mutual

/-- The effects of a statement, with those of definitions inside it marked as not its own. -/
def markedStatement (isOwn : Bool) : Stmt → List MarkedEffect
  | .plain kind parts => (statementEffects (.plain kind parts)).map (⟨isOwn, ·⟩)
  | .returning value => (statementEffects (.returning value)).map (⟨isOwn, ·⟩)
  | .assign targets value => (statementEffects (.assign targets value)).map (⟨isOwn, ·⟩)
  | .annotated target hint value =>
    (statementEffects (.annotated target hint value)).map (⟨isOwn, ·⟩)
  | .function _ _ body => markedBlock false body
  | .classDefinition _ _ _ _ body => markedBlock false body
  | .withBlock _ _ body => markedBlock isOwn body
  | .conditional _ body alternative => markedBlock isOwn body ++ markedBlock isOwn alternative
  | .whileLoop _ body alternative => markedBlock isOwn body ++ markedBlock isOwn alternative
  | .forLoop _ _ _ body alternative => markedBlock isOwn body ++ markedBlock isOwn alternative
  | .tryBlock body handlers alternative finalizer =>
    markedBlock isOwn body ++ (markedClauses isOwn handlers ++
      (markedBlock isOwn alternative ++ markedBlock isOwn finalizer))
  | .matchBlock _ cases => markedClauses isOwn cases

def markedBlock (isOwn : Bool) : List Stmt → List MarkedEffect
  | [] => []
  | first :: rest => markedStatement isOwn first ++ markedBlock isOwn rest

def markedClause (isOwn : Bool) : Clause → List MarkedEffect
  | .mk _ body => markedBlock isOwn body

def markedClauses (isOwn : Bool) : List Clause → List MarkedEffect
  | [] => []
  | first :: rest => markedClause isOwn first ++ markedClauses isOwn rest

end

theorem clausesEffects_eq (clauses : List Clause) :
    clausesEffects clauses = (clauses.map Clause.body).flatMap blockEffects := by
  induction clauses with
  | nil => rfl
  | cons first rest inRest =>
    obtain ⟨heads, body⟩ := first
    rw [clausesEffects, inRest, clauseEffects, List.map_cons, List.flatMap_cons, Clause.body]

theorem statementEffects_of_blocks {statement : Stmt} (notStep : statement.isStep = false) :
    statementEffects statement = statement.blocks.flatMap blockEffects := by
  cases statement with
  | returning value => cases notStep
  | assign targets value => cases notStep
  | annotated target hint value => cases notStep
  | _ => simp [statementEffects, Stmt.blocks, clausesEffects_eq]

def isDefinition : Stmt → Bool
  | .function _ _ _ | .classDefinition _ _ _ _ _ => true
  | _ => false

theorem markedClauses_eq (isOwn : Bool) (clauses : List Clause) :
    markedClauses isOwn clauses = (clauses.map Clause.body).flatMap (markedBlock isOwn) := by
  induction clauses with
  | nil => rfl
  | cons first rest inRest =>
    obtain ⟨heads, body⟩ := first
    rw [markedClauses, inRest, markedClause, List.map_cons, List.flatMap_cons, Clause.body]

theorem markedStatement_of_blocks (isOwn : Bool) {statement : Stmt}
    (notStep : statement.isStep = false) :
    markedStatement isOwn statement =
      statement.blocks.flatMap (markedBlock (isOwn && !isDefinition statement)) := by
  cases statement with
  | returning value => cases notStep
  | assign targets value => cases notStep
  | annotated target hint value => cases notStep
  | _ => simp [markedStatement, statementEffects, Stmt.blocks, isDefinition, markedClauses_eq]

theorem markedStatement_of_isStep (isOwn : Bool) {statement : Stmt}
    (isStep : statement.isStep = true) :
    markedStatement isOwn statement = (statementEffects statement).map (⟨isOwn, ·⟩) := by
  cases statement with
  | returning value => rw [markedStatement]
  | assign targets value => rw [markedStatement]
  | annotated target hint value => rw [markedStatement]
  | _ => cases isStep

theorem effects_of_markedBlock (isOwn : Bool) (block : List Stmt) :
    (markedBlock isOwn block).map MarkedEffect.effect = blockEffects block := by
  induction block using blockInduction generalizing isOwn with
  | empty => rfl
  | cons first rest inBlocks inRest =>
    rw [markedBlock, blockEffects, List.map_append, inRest]
    congr 1
    cases isStep : first.isStep with
    | true =>
      rw [markedStatement_of_isStep isOwn isStep, List.map_map]
      exact List.map_id _
    | false =>
      rw [markedStatement_of_blocks isOwn isStep, statementEffects_of_blocks isStep,
        List.map_flatMap, List.flatMap_def, List.flatMap_def]
      exact congrArg List.flatten (List.map_congr_left fun block member => inBlocks block member _)

/-! ## Returns that a walk comes to -/

structure FoundReturn where
  isOwn : Bool
  frame : Option Frame

def FoundReturn.Fits (found : FoundReturn) (declared : Frame) : Prop :=
  match found.frame with
  | some frame => frame.Fits declared
  | none => False

instance (found : FoundReturn) (declared : Frame) : Decidable (found.Fits declared) := by
  unfold FoundReturn.Fits
  split <;> infer_instance

/-- The function itself returns a value, and for all its returns with a value frames were found
that fit the declared one. -/
def CoversReturns (declared : Frame) (returns : List FoundReturn) : Prop :=
  (∃ found ∈ returns, found.isOwn = true) ∧
    ∀ found ∈ returns, found.isOwn = true → found.Fits declared

instance (declared : Frame) (returns : List FoundReturn) :
    Decidable (CoversReturns declared returns) :=
  inferInstanceAs (Decidable (_ ∧ _))

def findReturns (registry : Registry) (helper : HelperCall) :
    List MarkedEffect → Walker (List FoundReturn)
  | [] => return []
  | ⟨isOwn, .give value⟩ :: rest => do
    (Effect.give value).run registry helper
    let frame := (← get).returned
    return ⟨isOwn, frame⟩ :: (← findReturns registry helper rest)
  | ⟨_, effect⟩ :: rest => do
    effect.run registry helper
    findReturns registry helper rest

def returnScopes (effects : List MarkedEffect) : List Bool :=
  effects.filterMap fun marked =>
    match marked.effect with
    | .give _ => some marked.isOwn
    | _ => none

section Walks

variable {registry : Registry} {helper : HelperCall}

theorem findReturns_eq_runEffects (effects : List MarkedEffect) :
    (do let _ ← findReturns registry helper effects) =
      runEffects registry helper (effects.map MarkedEffect.effect) := by
  induction effects with
  | nil => simp [findReturns, runEffects]
  | cons marked rest inRest =>
    obtain ⟨isOwn, effect⟩ := marked
    cases effect <;> simp [findReturns, runEffects, ← inRest]

theorem exists_findReturns {effects : List MarkedEffect} {walk after : Walk}
    (result : runEffects registry helper (effects.map MarkedEffect.effect) walk = .ok ⟨⟩ after) :
    ∃ returns, findReturns registry helper effects walk = .ok returns after := by
  rw [← findReturns_eq_runEffects] at result
  obtain ⟨returns, last, found, same⟩ := Steps.bind_eq_ok_iff.mp result
  cases same
  exact ⟨returns, found⟩

theorem findReturns_give {isOwn : Bool} {value : Expr} {rest : List MarkedEffect}
    {walk after : Walk} {returns : List FoundReturn}
    (result : findReturns registry helper (⟨isOwn, .give value⟩ :: rest) walk =
      .ok returns after) :
    ∃ middle later, (Effect.give value).run registry helper walk = .ok ⟨⟩ middle ∧
      findReturns registry helper rest middle = .ok later after ∧
      returns = ⟨isOwn, middle.returned⟩ :: later := by
  obtain ⟨_, middle, run, others⟩ := Steps.bind_eq_ok_iff.mp result
  obtain ⟨_, _, isState, others⟩ := Steps.bind_eq_ok_iff.mp others
  cases isState
  obtain ⟨later, last, found, same⟩ := Steps.bind_eq_ok_iff.mp others
  cases same
  exact ⟨middle, later, run, found, rfl⟩

theorem findReturns_other {isOwn : Bool} {effect : Effect} {rest : List MarkedEffect}
    {walk after : Walk} {returns : List FoundReturn} (notGive : ∀ value, effect ≠ .give value)
    (result : findReturns registry helper (⟨isOwn, effect⟩ :: rest) walk = .ok returns after) :
    ∃ middle, effect.run registry helper walk = .ok ⟨⟩ middle ∧
      findReturns registry helper rest middle = .ok returns after := by
  rw [findReturns] at result
  · obtain ⟨_, middle, run, others⟩ := Steps.bind_eq_ok_iff.mp result
    exact ⟨middle, run, others⟩
  · exact notGive

end Walks

section Runs

variable {registry : Registry} {depth : Nat} {walk after : Walk}

theorem returned_of_findReturns {effects : List MarkedEffect} {returns : List FoundReturn}
    (result : findReturns registry (callHelper registry depth) effects walk = .ok returns after) :
    after.returned = (returns.getLast?.map FoundReturn.frame).getD walk.returned := by
  induction effects generalizing walk returns with
  | nil =>
    cases result
    rfl
  | cons marked rest inRest =>
    obtain ⟨isOwn, effect⟩ := marked
    by_cases isGive : ∃ value, effect = .give value
    · obtain ⟨value, rfl⟩ := isGive
      obtain ⟨middle, later, _, found, rfl⟩ := findReturns_give result
      rw [inRest found, List.getLast?_cons]
      cases later.getLast? <;> rfl
    · have notGive : ∀ value, effect ≠ .give value := not_exists.mp isGive
      obtain ⟨middle, run, found⟩ := findReturns_other notGive result
      rw [inRest found, returned_of_run notGive run]

theorem isOwn_of_findReturns {effects : List MarkedEffect} {returns : List FoundReturn}
    (result : findReturns registry (callHelper registry depth) effects walk = .ok returns after) :
    returns.map FoundReturn.isOwn = returnScopes effects := by
  induction effects generalizing walk returns with
  | nil =>
    cases result
    rfl
  | cons marked rest inRest =>
    obtain ⟨isOwn, effect⟩ := marked
    cases effect with
    | give value =>
      obtain ⟨middle, later, _, found, rfl⟩ := findReturns_give result
      rw [List.map_cons, inRest found]
      rfl
    | declare name hint =>
      obtain ⟨middle, _, found⟩ := findReturns_other (by simp) result
      exact inRest found
    | assign name value =>
      obtain ⟨middle, _, found⟩ := findReturns_other (by simp) result
      exact inRest found

end Runs

/-- The only return of the function itself is the last one that a walk comes to. -/
def ReturnsLast (definition : FunctionDefinition) : Prop :=
  ∃ others, returnScopes (markedBlock true definition.body) = others ++ [true] ∧ true ∉ others

theorem coversReturns_of_last {declared : Frame} {returns : List FoundReturn} {last : FoundReturn}
    (isLast : returns.getLast? = some last) (fits : last.Fits declared)
    {others : List Bool} (scopes : returns.map FoundReturn.isOwn = others ++ [true])
    (notOwn : true ∉ others) : CoversReturns declared returns := by
  obtain ⟨before, rfl⟩ := List.getLast?_eq_some_iff.mp isLast
  rw [List.map_append, List.map_singleton] at scopes
  obtain ⟨same, isOwn⟩ := List.append_inj' scopes rfl
  have lastOwn : last.isOwn = true := by simpa using isOwn
  refine ⟨⟨last, by simp, lastOwn⟩, fun found member foundOwn => ?_⟩
  rcases List.mem_append.mp member with inBefore | isFound
  · have inOthers : found.isOwn ∈ others := same ▸ List.mem_map_of_mem inBefore
    exact absurd (foundOwn ▸ inOthers) notOwn
  · rw [List.mem_singleton.mp isFound]
    exact fits

end Analysis

namespace Report

open Analysis

theorem returnFindings_of_last {declared : Frame} (last? : Option FoundReturn) :
    returnFindings (some declared) ((last?.map FoundReturn.frame).getD none) = [] ↔
      ∃ last, last? = some last ∧ last.Fits declared := by
  rcases last? with _ | ⟨isOwn, _ | frame⟩
  · simp [returnFindings]
  · simp [returnFindings, FoundReturn.Fits]
  · simp [returnFindings_eq_nil_iff, FoundReturn.Fits]

/-- A verdict against a declared return is about the last return with a value that the walk comes
to, be it one of a definition inside the function. It covers all returns of the function itself
where that is the only one. -/
theorem verdict_covers_last_return {registry : Registry} {depth : Nat}
    {definition : Syntax.FunctionDefinition} {memo after : Memo} {summary : Summary}
    {declared : Frame}
    (analyzed : analyzeFunction registry (callHelper registry depth) definition memo =
      .ok (some summary, after))
    (isDeclared : summary.declared = some declared) :
    ∃ returns walk,
      findReturns registry (callHelper registry depth) (markedBlock true definition.body)
        (analysisStart definition memo) = .ok returns walk ∧
      ((verdict summary).passed = true ↔
        summary.problems = [] ∧ ∃ last, returns.getLast? = some last ∧ last.Fits declared) ∧
      ((verdict summary).passed = true → ReturnsLast definition →
        CoversReturns declared returns) := by
  obtain ⟨walk, walked, rfl⟩ := exists_walk_of_summary analyzed
  rw [walkBlock_eq_runEffects, ← effects_of_markedBlock true] at walked
  obtain ⟨returns, found⟩ := exists_findReturns walked
  have returned : walk.returned = (returns.getLast?.map FoundReturn.frame).getD none :=
    returned_of_findReturns found
  have passes : (verdict (summaryAfter definition walk)).passed = true ↔
      walk.problems = [] ∧ ∃ last, returns.getLast? = some last ∧ last.Fits declared := by
    rw [verdict_passed_iff, isDeclared, ← returnFindings_of_last, ← returned]
    rfl
  refine ⟨returns, walk, found, passes, ?_⟩
  rintro passed ⟨others, scopes, notOwn⟩
  obtain ⟨_, last, isLast, fits⟩ := passes.mp passed
  exact coversReturns_of_last isLast fits ((isOwn_of_findReturns found).trans scopes) notOwn

def declaringColumn (body : List Syntax.Stmt) : Syntax.FunctionDefinition where
  header :=
    { name := "f", line := 1
      parameters :=
        { regular := [
            { name := "d"
              hint := some (.subscript (.name "DF") (.literal (.text "\x7ba: Int64\x7d"))) }] }
      returns := some (.subscript (.name "DF") (.literal (.text "\x7ba: Int64?\x7d"))) }
  body := body

def returningLast : Syntax.FunctionDefinition :=
  declaringColumn [
    .function false { name := "g", line := 2 } [.returning (some (.name "x"))],
    .conditional (.name "c") [.returning none] [.returning (some (.name "d"))]]

theorem returningLast_covered :
    ReturnsLast returningLast ∧
    ∃ summary after declared returns walk,
      analyzeFunction .empty (callHelper .empty 1) returningLast .empty =
        .ok (some summary, after) ∧
      summary.declared = some declared ∧ (verdict summary).passed = true ∧
      findReturns .empty (callHelper .empty 1) (markedBlock true returningLast.body)
        (analysisStart returningLast .empty) = .ok returns walk ∧
      CoversReturns declared returns := by
  have last : ReturnsLast returningLast := ⟨[false], rfl, by simp⟩
  have analyzed : Steps.holdsOf
      (fun found => found.1.any fun summary => summary.declared.isSome && (verdict summary).passed)
      (analyzeFunction .empty (callHelper .empty 1) returningLast .empty) = true := by
    decide +kernel
  obtain ⟨⟨_, after⟩, isAnalyzed, holds⟩ := Steps.exists_of_holdsOf analyzed
  obtain ⟨summary, rfl, passes⟩ := (Option.any_eq_true _ _).mp holds
  rw [Bool.and_eq_true, Option.isSome_iff_exists] at passes
  obtain ⟨⟨declared, isDeclared⟩, passed⟩ := passes
  obtain ⟨returns, walk, found, _, covers⟩ := verdict_covers_last_return isAnalyzed isDeclared
  exact ⟨last, summary, after, declared, returns, walk, isAnalyzed, isDeclared, passed, found,
    covers passed last⟩

def passesUncovered (definition : Syntax.FunctionDefinition) : Bool :=
  match analyzeFunction .empty (callHelper .empty 1) definition .empty,
      findReturns .empty (callHelper .empty 1) (markedBlock true definition.body)
        (analysisStart definition .empty) with
  | .ok (some summary, _), .ok returns _ =>
    (verdict summary).passed &&
      summary.declared.any fun declared => !decide (CoversReturns declared returns)
  | _, _ => false

/-- A return in a branch is overwritten by one after it, and a return of a definition inside the
function counts as one of the function. -/
theorem overwritten_returns_pass :
    passesUncovered (declaringColumn [
      .conditional (.name "c")
        [.returning (some (.call (.attribute (.name "d") "select")
          [.call (.attribute (.call (.attribute (.name "pl") "col") [.literal (.text "a")] [])
            "alias") [.literal (.text "b")] []] []))] [],
      .returning (some (.name "d"))]) = true ∧
    passesUncovered (declaringColumn [
      .function false { name := "g", line := 2 } [.returning (some (.name "d"))]]) = true := by
  decide +kernel

end Report

end FrameCheck
