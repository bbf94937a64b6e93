import FrameCheck.Proofs.Points
import FrameCheck.Proofs.Returns

/-!
What becomes of problems in the bodies of functions without a signature. They are noted in a walk
of their own, and dropped with it: calls add nothing to the problems of their caller. A problem
still shows where it costs a frame. An operation that comes to no frame leaves none for what is
built on it, through methods, variables and calls at any depth, and a function that ends without
the frame it declares does not pass.
-/

namespace FrameCheck.Analysis

open Syntax Typing

/-! ## Operations on frames that are not there -/

theorem exists_frame_of_ok {step : Walker (Option Frame)} {next : Frame → Walker (Option Frame)}
    {walk last : Walk} {result : Frame}
    (succeeded : (do
      match ← step with
      | some frame => next frame
      | none => return none : Walker (Option Frame)) walk = .ok (some result) last) :
    ∃ frame middle, step walk = .ok (some frame) middle ∧
      next frame middle = .ok (some result) last := by
  obtain ⟨frame?, middle, isStep, isNext⟩ := Steps.bind_eq_ok_iff.mp succeeded
  cases frame? with
  | none => cases isNext
  | some frame => exact ⟨frame, middle, isStep, isNext⟩

section Operations

variable {registry : Registry} {helper : HelperCall} {walk last : Walk} {result : Frame}

theorem grouped_of_infer {grouped : Expr} {keys items : List Expr}
    {keyKeywords keywords : List Keyword}
    (succeeded : infer registry helper (.call
      (.attribute (.call (.attribute grouped "group_by") keys keyKeywords) "agg") items keywords)
      walk = .ok (some result) last) :
    ∃ frame middle, infer registry helper grouped walk = .ok (some frame) middle := by
  rw [infer] at succeeded
  obtain ⟨frame, middle, found, _⟩ := exists_frame_of_ok succeeded
  exact ⟨frame, middle, found⟩

theorem operands_of_infer {receiver right : Expr} {others : List Expr} {keywords : List Keyword}
    (succeeded : infer registry helper
      (.call (.attribute receiver "join") (right :: others) keywords) walk =
        .ok (some result) last) :
    ∃ left middle, infer registry helper receiver walk = .ok (some left) middle ∧
      ∃ frame after, infer registry helper right middle = .ok (some frame) after := by
  rw [infer] at succeeded
  obtain ⟨left, middle, found, onLeft⟩ := exists_frame_of_ok succeeded
  obtain ⟨frame, after, foundRight, _⟩ := exists_frame_of_ok onLeft
  exact ⟨left, middle, found, frame, after, foundRight⟩

theorem receiver_of_infer {receiver : Expr} {method : String} {arguments : List Expr}
    {keywords : List Keyword} (notAgg : method ≠ "agg")
    (succeeded : infer registry helper (.call (.attribute receiver method) arguments keywords)
      walk = .ok (some result) last) :
    ∃ frame middle, infer registry helper receiver walk = .ok (some frame) middle := by
  by_cases isJoin : method = "join" ∧ ∃ right others, arguments = right :: others
  · obtain ⟨rfl, right, others, rfl⟩ := isJoin
    obtain ⟨left, middle, found, _⟩ := operands_of_infer succeeded
    exact ⟨left, middle, found⟩
  · rw [infer] at succeeded
    · obtain ⟨frame, middle, found, _⟩ := exists_frame_of_ok succeeded
      exact ⟨frame, middle, found⟩
    · exact fun _ _ _ _ isAgg => notAgg isAgg
    · exact notAgg
    · exact fun right others isCons named => isJoin ⟨named, right, others, isCons⟩

theorem body_of_infer {depth : Nat} {function : String} {info : FunctionInfo}
    {arguments : List Expr} {keywords : List Keyword} {after : Walk}
    {frames : List (Option Frame)} {frame : Option Frame} (untyped : registry.Untyped function info)
    (given : inferAll registry (callHelper registry (depth + 1)) arguments walk = .ok frames after)
    (unknown : after.memo.find? info.definition.name frames = none)
    (succeeded : infer registry (callHelper registry (depth + 1))
      (.call (.name function) arguments keywords) walk = .ok frame last) :
    ∃ inner, runEffects registry (callHelper registry depth) (blockEffects info.definition.body)
      (callStart info frames after) = .ok ⟨⟩ inner ∧ frame = inner.returned := by
  rw [infer, untyped.1] at succeeded
  obtain ⟨_, _, isGiven, called⟩ := Steps.bind_eq_ok_iff.mp succeeded
  rw [given] at isGiven
  cases isGiven
  rw [functionCall, untyped.2] at called
  simp only [callHelper_eq_callsWith] at called ⊢
  cases isOrdered : ordered frames with
  | false =>
    rw [callsWith_of_unordered isOrdered] at called
    cases called
  | true =>
    rw [callsWith_of_ordered isOrdered, unknown] at called
    rw [← walkBlock_eq_runEffects]
    cases walked : walkBlock registry (callsWith Memo.find? registry depth) info.definition.body
        (callStart info frames after) with
    | error fault inner =>
      rw [enter_of_error walked] at called
      cases called
    | ok _ inner =>
      rw [enter_of_ok walked] at called
      cases called
      exact ⟨inner, rfl, rfl⟩

end Operations

/-! ## Frames that are lost -/

def Effect.target? : Effect → Option Text
  | .declare name _ => some name
  | .assign name _ => some name
  | .give _ => none

/-- A task comes to no frame because a problem was noted on the way: a value has none, or effects
return none. The variables in `lacking` have no frame for the same reason. At most `depth` calls
are inside each other. -/
inductive LosesFrame (registry : Registry) :
    (depth : Nat) → (lacking : List Text) → Task → Walk → Prop
  | noted {depth : Nat} {lacking : List Text} {value : Expr} {walk after : Walk}
      (result : infer registry (callHelper registry depth) value walk = .ok none after)
      (isNoted : after.problems ≠ walk.problems) :
      LosesFrame registry depth lacking (.expression value) walk
  | name {depth : Nat} {lacking : List Text} {identifier : String} {walk : Walk}
      (lacks : (identifier : Text) ∈ lacking) :
      LosesFrame registry depth lacking (.expression (.name identifier)) walk
  | call {depth : Nat} {lacking : List Text} {function : String} {info : FunctionInfo}
      {arguments : List Expr} {keywords : List Keyword} {walk after : Walk}
      {frames : List (Option Frame)} (untyped : registry.Untyped function info)
      (given : inferAll registry (callHelper registry (depth + 1)) arguments walk =
        .ok frames after)
      (unknown : after.memo.find? info.definition.name frames = none)
      (loses : LosesFrame registry depth [] (.effects (blockEffects info.definition.body))
        (callStart info frames after)) :
      LosesFrame registry (depth + 1) lacking
        (.expression (.call (.name function) arguments keywords)) walk
  | grouped {depth : Nat} {lacking : List Text} {grouped : Expr} {keys items : List Expr}
      {keyKeywords keywords : List Keyword} {walk : Walk}
      (loses : LosesFrame registry depth lacking (.expression grouped) walk) :
      LosesFrame registry depth lacking
        (.expression (.call
          (.attribute (.call (.attribute grouped "group_by") keys keyKeywords) "agg") items
          keywords)) walk
  | receiver {depth : Nat} {lacking : List Text} {receiver : Expr} {method : String}
      {arguments : List Expr} {keywords : List Keyword} {walk : Walk} (notAgg : method ≠ "agg")
      (loses : LosesFrame registry depth lacking (.expression receiver) walk) :
      LosesFrame registry depth lacking
        (.expression (.call (.attribute receiver method) arguments keywords)) walk
  | right {depth : Nat} {lacking : List Text} {receiver right : Expr} {others : List Expr}
      {keywords : List Keyword} {walk after : Walk} {left : Frame}
      (result : infer registry (callHelper registry depth) receiver walk = .ok (some left) after)
      (loses : LosesFrame registry depth lacking (.expression right) after) :
      LosesFrame registry depth lacking
        (.expression (.call (.attribute receiver "join") (right :: others) keywords)) walk
  | returned {depth : Nat} {lacking : List Text} {value : Expr} {rest : List Effect} {walk : Walk}
      (loses : LosesFrame registry depth lacking (.expression value) walk)
      (isLast : ∀ later, .give later ∉ rest) :
      LosesFrame registry depth lacking (.effects (.give value :: rest)) walk
  /-- The value of a variable is lost that had no frame before. A variable that had one would
  keep it. -/
  | assigned {depth : Nat} {lacking : List Text} {name : Text} {value : Expr}
      {rest : List Effect} {walk after : Walk}
      (loses : LosesFrame registry depth lacking (.expression value) walk)
      (isNew : walk.frames.get? name = none)
      (result : (Effect.assign name value).run registry (callHelper registry depth) walk =
        .ok ⟨⟩ after)
      (inRest : LosesFrame registry depth (name :: lacking) (.effects rest) after) :
      LosesFrame registry depth lacking (.effects (.assign name value :: rest)) walk
  | next {depth : Nat} {lacking : List Text} {effect : Effect} {rest : List Effect}
      {walk after : Walk}
      (result : effect.run registry (callHelper registry depth) walk = .ok ⟨⟩ after)
      (inRest : LosesFrame registry depth (lacking.filter fun name => effect.target? != some name)
        (.effects rest) after) :
      LosesFrame registry depth lacking (.effects (effect :: rest)) walk

def Task.Fruitless (registry : Registry) (depth : Nat) (walk : Walk) : Task → Prop
  | .expression value => ∀ frame after,
    infer registry (callHelper registry depth) value walk = .ok frame after → frame = none
  | .effects all => ∀ after,
    runEffects registry (callHelper registry depth) all walk = .ok ⟨⟩ after →
      after.returned = none

def Walk.Lacks (walk : Walk) (names : List Text) : Prop :=
  ∀ name ∈ names, walk.frames.get? name = none

section Runs

variable {registry : Registry} {depth : Nat} {walk after : Walk}

theorem Walk.get?_assigned {name other : Text} (differ : name ≠ other) (frame : Option Frame) :
    (walk.assigned name frame).frames.get? other = walk.frames.get? other := by
  cases frame with
  | none => rfl
  | some frame =>
    rw [assigned, Table.get?_insert, if_neg (by simpa using differ)]

theorem get?_of_run {effect : Effect} {name : Text} (other : effect.target? ≠ some name)
    (result : effect.run registry (callHelper registry depth) walk = .ok ⟨⟩ after) :
    after.frames.get? name = walk.frames.get? name := by
  cases effect with
  | declare target hint =>
    rw [run_declare_iff.mp result, Walk.get?_assigned (by simpa [Effect.target?] using other)]
  | assign target value =>
    obtain ⟨frame, middle, found, rfl⟩ := run_assign_iff.mp result
    rw [Walk.get?_assigned (by simpa [Effect.target?] using other), (infer_extends found).frames]
  | give value =>
    obtain ⟨frame, middle, found, rfl⟩ := run_give_iff.mp result
    rw [(infer_extends found).frames]

theorem Walk.Lacks.of_extends {names : List Text} (lacks : walk.Lacks names)
    (extended : walk.Extends after) : after.Lacks names := by
  intro name member
  rw [extended.frames]
  exact lacks name member

theorem Walk.Lacks.run {effect : Effect} {names : List Text} (lacks : walk.Lacks names)
    (result : effect.run registry (callHelper registry depth) walk = .ok ⟨⟩ after) :
    after.Lacks (names.filter fun name => effect.target? != some name) := by
  intro name member
  obtain ⟨inNames, other⟩ := List.mem_filter.mp member
  rw [get?_of_run (by simpa using other) result]
  exact lacks name inNames

theorem returned_of_runEffects {effects : List Effect} (noGive : ∀ value, .give value ∉ effects)
    (result : runEffects registry (callHelper registry depth) effects walk = .ok ⟨⟩ after) :
    after.returned = walk.returned := by
  induction effects generalizing walk with
  | nil =>
    cases result
    rfl
  | cons effect rest inRest =>
    obtain ⟨_, middle, first, others⟩ := Steps.bind_eq_ok_iff.mp result
    have notGive : ∀ value, effect ≠ .give value := by
      rintro value rfl
      exact noGive value List.mem_cons_self
    rw [inRest (fun value member => noGive value (List.mem_cons_of_mem _ member)) others,
      returned_of_run notGive first]

theorem LosesFrame.fruitless {lacking : List Text} {task : Task}
    (loses : LosesFrame registry depth lacking task walk) (lacks : walk.Lacks lacking) :
    task.Fruitless registry depth walk := by
  -- Along the way to the lost frame: what lacks a frame still does after each step, and a task on
  -- it could succeed only if the one before it had.
  induction loses with
  | noted result _ =>
    intro frame after succeeded
    rw [result] at succeeded
    cases succeeded
    rfl
  | name isLacking =>
    intro frame after succeeded
    rw [infer] at succeeded
    cases succeeded
    exact lacks _ isLacking
  | call untyped given unknown _ inBody =>
    intro frame after succeeded
    obtain ⟨inner, walked, rfl⟩ := body_of_infer untyped given unknown succeeded
    exact inBody (by simp [Walk.Lacks]) inner walked
  | grouped _ inGrouped =>
    rintro (_ | frame) after succeeded
    · rfl
    · obtain ⟨found, middle, isFound⟩ := grouped_of_infer succeeded
      exact absurd (inGrouped lacks _ _ isFound) (by simp)
  | receiver notAgg _ inReceiver =>
    rintro (_ | frame) after succeeded
    · rfl
    · obtain ⟨found, middle, isFound⟩ := receiver_of_infer notAgg succeeded
      exact absurd (inReceiver lacks _ _ isFound) (by simp)
  | right result _ inRight =>
    rintro (_ | frame) after succeeded
    · rfl
    · obtain ⟨left, middle, isLeft, found, last, isFound⟩ := operands_of_infer succeeded
      rw [result] at isLeft
      cases isLeft
      exact absurd (inRight (lacks.of_extends (infer_extends result)) _ _ isFound) (by simp)
  | returned _ isLast inValue =>
    intro after succeeded
    obtain ⟨_, middle, gives, others⟩ := Steps.bind_eq_ok_iff.mp succeeded
    obtain ⟨frame, found, isFound, rfl⟩ := run_give_iff.mp gives
    rw [returned_of_runEffects isLast others]
    exact inValue lacks frame found isFound
  | assigned _ isNew result _ inValue inRest =>
    intro after succeeded
    obtain ⟨_, middle, assigns, others⟩ := Steps.bind_eq_ok_iff.mp succeeded
    rw [result] at assigns
    cases assigns
    obtain ⟨frame, found, isFound, rfl⟩ := run_assign_iff.mp result
    -- Nothing is assigned, so the variable still has no frame.
    cases inValue lacks frame found isFound
    have stillLacks : found.Lacks (_ :: _) :=
      Walk.Lacks.of_extends (List.forall_mem_cons.mpr ⟨isNew, lacks⟩) (infer_extends isFound)
    exact inRest stillLacks after others
  | next result _ inRest =>
    intro after succeeded
    obtain ⟨_, middle, first, others⟩ := Steps.bind_eq_ok_iff.mp succeeded
    rw [result] at first
    cases first
    exact inRest (lacks.run result) after others

end Runs

end FrameCheck.Analysis

namespace FrameCheck.Report

open Analysis Syntax

/-- Calls of functions without a signature leave the problems of their caller as they are. What
is found in their bodies shows where it costs the frame that the caller declares to return. -/
theorem verdict_of_losesFrame {registry : Registry} {depth : Nat}
    {definition : FunctionDefinition} {memo after : Memo} {summary : Summary} {declared : Frame}
    (analyzed : analyzeFunction registry (callHelper registry depth) definition memo =
      .ok (some summary, after))
    (isDeclared : summary.declared = some declared) :
    (∀ info arguments walk frame last,
      callHelper registry depth info arguments walk = .ok frame last →
        last.problems = walk.problems) ∧
    (LosesFrame registry depth [] (.effects (blockEffects definition.body))
        (analysisStart definition memo) →
      summary.inferred = none ∧ (verdict summary).passed = false) := by
  refine ⟨fun info arguments walk frame last called => ?_, fun loses => ?_⟩
  · obtain ⟨memo, rfl⟩ := callHelper_eq_ok called
    rfl
  · obtain ⟨walk, walked, rfl⟩ := exists_walk_of_summary analyzed
    rw [walkBlock_eq_runEffects] at walked
    have noFrame : walk.returned = none := loses.fruitless (by simp [Walk.Lacks]) walk walked
    refine ⟨noFrame, Bool.eq_false_iff.mpr fun passed => ?_⟩
    have findings := (verdict_passed_iff.mp passed).2
    rw [isDeclared, show (summaryAfter definition walk).inferred = none from noFrame] at findings
    cases findings

def unhinted (name : String) (body : List Stmt) : FunctionDefinition where
  header := { name := name, line := 1, parameters := { regular := [{ name := "d" }] } }
  body := body

def onColumn (frame : Expr) (method column : String) : Expr :=
  .call (.attribute frame method)
    [.call (.attribute (.name "pl") "col") [.literal (.text column)] []] []

def selecting : FunctionDefinition :=
  unhinted "g" [.returning (some (onColumn (.name "d") "select" "b"))]

def relaying : FunctionDefinition :=
  unhinted "h" [.returning (some (.call (.name "g") [.name "d"] []))]

def misled : FunctionDefinition :=
  declaringColumn [
    .assign [.name "x"] (.call (.name "h") [.name "d"] []),
    .returning (some (onColumn (.name "x") "select" "a"))]

def scriptOf (definitions : List FunctionDefinition) : List Stmt :=
  definitions.map fun definition => .function false definition.header definition.body

theorem misled_losesFrame :
    let registry := registryOf (scriptOf [selecting, relaying, misled])
    ∃ summary after declared,
      analyzeFunction registry (callHelper registry 2) misled .empty = .ok (some summary, after) ∧
      summary.declared = some declared ∧ summary.problems = [] ∧
      LosesFrame registry 2 [] (.effects (blockEffects misled.body)) (analysisStart misled .empty) ∧
      summary.inferred = none ∧ (verdict summary).passed = false := by
  intro registry
  have loses : LosesFrame registry 2 [] (.effects (blockEffects misled.body))
      (analysisStart misled .empty) := by
    have called : Steps.holdsAfter
        (fun frames outer => (outer.memo.find? "h" frames).isNone && Steps.holdsAfter
          (fun passed inner => (inner.memo.find? "g" passed).isNone && Steps.holdsAfter
            (fun frame after => frame.isNone && !after.problems.isEmpty)
            (infer registry (callHelper registry 0) (onColumn (.name "d") "select" "b")
              (callStart ⟨selecting, none⟩ passed inner)))
          (inferAll registry (callHelper registry 1) [.name "d"]
            (callStart ⟨relaying, none⟩ frames outer)))
        (inferAll registry (callHelper registry 2) [.name "d"]
          (analysisStart misled .empty)) = true := by
      decide +kernel
    have assigns : Steps.holdsAfter (fun _ _ => true)
        ((Effect.assign "x" (.call (.name "h") [.name "d"] [])).run registry (callHelper registry 2)
          (analysisStart misled .empty)) = true := by
      decide +kernel
    obtain ⟨_, assigned, isAssigned, -⟩ := Steps.exists_of_holdsAfter assigns
    obtain ⟨frames, outer, given, relays⟩ := Steps.exists_of_holdsAfter called
    rw [Bool.and_eq_true, Option.isNone_iff_eq_none] at relays
    obtain ⟨passed, inner, isPassed, selects⟩ := Steps.exists_of_holdsAfter relays.2
    rw [Bool.and_eq_true, Option.isNone_iff_eq_none] at selects
    obtain ⟨_, after, selected, misses⟩ := Steps.exists_of_holdsAfter selects.2
    rw [Bool.and_eq_true, Option.isNone_iff_eq_none] at misses
    obtain ⟨rfl, noted⟩ := misses
    have isNoted : after.problems ≠ [] := by simpa using noted
    have inSelecting : LosesFrame registry 0 [] (.effects (blockEffects selecting.body))
        (callStart ⟨selecting, none⟩ passed inner) :=
      .returned (.noted selected isNoted) (by simp [blockEffects])
    have inRelaying : LosesFrame registry 1 [] (.effects (blockEffects relaying.body))
        (callStart ⟨relaying, none⟩ frames outer) :=
      .returned (.call ⟨rfl, rfl⟩ isPassed selects.1 inSelecting) (by simp [blockEffects])
    exact .assigned (.call ⟨rfl, rfl⟩ given relays.1 inRelaying) (by decide +kernel) isAssigned
      (.returned (.receiver (by decide) (.name List.mem_cons_self)) (by simp [blockEffects]))
  have analyzed : Steps.holdsOf
      (fun found => found.1.any fun summary =>
        summary.declared.isSome && summary.problems.isEmpty)
      (analyzeFunction registry (callHelper registry 2) misled .empty) = true := by
    decide +kernel
  obtain ⟨⟨_, after⟩, isAnalyzed, holds⟩ := Steps.exists_of_holdsOf analyzed
  obtain ⟨summary, rfl, declares⟩ := (Option.any_eq_true _ _).mp holds
  rw [Bool.and_eq_true, Option.isSome_iff_exists, List.isEmpty_iff] at declares
  obtain ⟨⟨declared, isDeclared⟩, noProblem⟩ := declares
  exact ⟨summary, after, declared, isAnalyzed, isDeclared, noProblem, loses,
    (verdict_of_losesFrame isAnalyzed isDeclared).2 loses⟩

def passesOver (called caller : FunctionDefinition) : Bool :=
  let registry := registryOf (scriptOf [called, caller])
  let helper := callHelper registry (callLimit registry)
  let start := analysisStart caller .empty
  match analyzeFunction registry helper caller .empty,
      walkBlock registry helper called.body
        (callStart ⟨called, none⟩ [start.frames.get? "d"] start) with
  | .ok (some summary, _), .ok _ inner => (verdict summary).passed && !inner.problems.isEmpty
  | _, _ => false

/-- Adding columns keeps the frame that it works on even where one of them fails, and a variable
keeps the frame that it had. -/
theorem kept_frames_pass :
    passesOver (unhinted "h" [.returning (some (onColumn (.name "d") "with_columns" "b"))])
      (declaringColumn [.returning (some (.call (.name "h") [.name "d"] []))]) = true ∧
    passesOver selecting
      (declaringColumn [
        .assign [.name "d"] (.call (.name "g") [.name "d"] []),
        .returning (some (.name "d"))]) = true := by
  decide +kernel

end FrameCheck.Report
