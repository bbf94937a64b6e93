import FrameCheck.Analysis.Script
import FrameCheck.Proofs.PlainFrames

/-!
Scripts as a whole. Their functions are registered by name; those with frames in their hints
are analysed one after the other, each with what was remembered before it.
-/

namespace FrameCheck.Analysis

open Syntax Typing

/-! ## The registry of a script -/

namespace Registry

/-- What stands in a registry under a name: a definition of this name with its signature. -/
def Sound (definitions : List FunctionDefinition) (registry : Registry) : Prop :=
  ∀ name info, registry.get? name = some info →
    info.definition ∈ definitions ∧ info.signature = signature? info.definition ∧
      (info.definition.name : Text) = name

theorem Sound.register {definitions : List FunctionDefinition} {registry : Registry}
    (sound : registry.Sound definitions) {definition : FunctionDefinition}
    (isDefinition : definition ∈ definitions) :
    (registry.register definition).Sound definitions := by
  intro name info registered
  rw [Registry.register, Table.get?_insert] at registered
  split at registered
  next same =>
    cases registered
    exact ⟨isDefinition, rfl, by simpa using same⟩
  · exact sound name info registered

theorem sound_ofDefinitions (definitions : List FunctionDefinition) :
    (ofDefinitions definitions).Sound definitions := by
  have general : ∀ (rest : List FunctionDefinition) (registry : Registry),
      (∀ definition ∈ rest, definition ∈ definitions) → registry.Sound definitions →
      (rest.foldl register registry).Sound definitions := by
    intro rest
    induction rest with
    | nil => exact fun _ _ sound => sound
    | cons definition rest inRest =>
      intro registry included sound
      refine inRest _ (fun other member => included other (List.mem_cons_of_mem _ member)) ?_
      exact sound.register (included definition List.mem_cons_self)
  refine general definitions .empty (fun _ member => member) fun name info registered => ?_
  simp at registered

theorem Sound.returnsHold {definitions : List FunctionDefinition} {registry : Registry}
    {property : Frame → Prop} (declared : ∀ hint, ∀ frame ∈ declaredFrame? hint, property frame)
    (sound : registry.Sound definitions) : registry.ReturnsHold property := by
  intro name info registered signature isSigned frame isReturned
  obtain ⟨_, signed, _⟩ := sound name info registered
  rw [signed] at isSigned
  unfold signature? at isSigned
  simp only at isSigned
  split at isSigned
  · cases isSigned
  · cases isSigned
    obtain ⟨hint, _, isDeclared⟩ := Option.bind_eq_some_iff.mp isReturned
    exact declared hint frame isDeclared

end Registry

def registryOf (statements : List Stmt) : Registry :=
  Registry.ofDefinitions (functionsOf statements)

theorem sound_registryOf (statements : List Stmt) :
    (registryOf statements).Sound (functionsOf statements) :=
  Registry.sound_ofDefinitions _

/-! ## Declarations -/

theorem inputs_declareReturn (declarations : Declarations) (returns : Option Expr) :
    (declareReturn declarations returns).inputs = declarations.inputs := by
  unfold declareReturn
  split <;> rfl

theorem inputs_hold {property : Frame → Prop}
    (declared : ∀ hint, ∀ frame ∈ declaredFrame? hint, property frame)
    (definition : FunctionDefinition) (name : Text) (frame : Frame)
    (isInput : (declarations definition).inputs.get? name = some frame) : property frame := by
  have general : ∀ (parameters : List Parameter) (declarations : Declarations),
      (∀ name frame, declarations.inputs.get? name = some frame → property frame) →
      ∀ name frame, (parameters.foldl declareParameter declarations).inputs.get? name =
        some frame → property frame := by
    intro parameters
    induction parameters with
    | nil => exact fun _ holds => holds
    | cons parameter rest inRest =>
      intro declarations holds
      refine inRest (declareParameter declarations parameter) fun name frame found => ?_
      unfold declareParameter at found
      split at found
      · exact holds name frame found
      next declaredFrame isHinted =>
        rw [Table.get?_insert] at found
        split at found
        · cases found
          obtain ⟨hint, _, hinted⟩ := Option.bind_eq_some_iff.mp isHinted
          exact declared hint frame (by simp [declaredFrame?, hinted])
        · exact holds name frame found
      · exact holds name frame found
  rw [declarations, inputs_declareReturn] at isInput
  exact general _ {} (fun _ _ found => by simp at found) name frame isInput

theorem inputs_plain (definition : FunctionDefinition) (name : Text) (frame : Frame)
    (isInput : (declarations definition).inputs.get? name = some frame) : frame.Plain :=
  inputs_hold plain_of_declaredFrame? definition name frame isInput

/-! ## Analyses -/

def analysisStart (definition : FunctionDefinition) (memo : Memo) : Walk :=
  { frames := (declarations definition).inputs
    problems := (declarations definition).problems
    memo := memo }

def summaryAfter (definition : FunctionDefinition) (walk : Walk) : Summary :=
  { name := definition.name
    line := definition.line
    inputs := (declarations definition).inputs
    declared := (declarations definition).returns
    inferred := walk.returned
    problems := walk.problems }

def isAnalyzed (definition : FunctionDefinition) : Bool :=
  (declarations definition).isHinted

def Ends (allowed : Fault → Prop) (holds : α → Prop) : Except Fault α → Prop
  | .ok value => holds value
  | .error fault => allowed fault

section Analyses

variable {allowed : Fault → Prop} {memory : Memo → Prop} {registry : Registry}
  {helper : HelperCall}

theorem analysisStart_holds {property : Frame → Prop}
    (declared : ∀ hint, ∀ frame ∈ declaredFrame? hint, property frame)
    (definition : FunctionDefinition) {memo : Memo} (memoHolds : memory memo) :
    (analysisStart definition memo).Holds property memory :=
  ⟨inputs_hold declared definition, by simp [analysisStart], memoHolds⟩

theorem analyzeFunction_of_analyzed {definition : FunctionDefinition}
    (analyzed : isAnalyzed definition = true) (memo : Memo) :
    analyzeFunction registry helper definition memo =
      match walkBlock registry helper definition.body (analysisStart definition memo) with
      | .error fault _ => .error fault
      | .ok _ after => .ok (some (summaryAfter definition after), after.memo) := by
  unfold isAnalyzed at analyzed
  simp only [analyzeFunction, analyzed]
  rfl

theorem analyzeFunction_of_not_analyzed {definition : FunctionDefinition}
    (notAnalyzed : isAnalyzed definition = false) (memo : Memo) :
    analyzeFunction registry helper definition memo = .ok (none, memo) := by
  unfold isAnalyzed at notAnalyzed
  simp only [analyzeFunction, notAnalyzed]
  rfl

theorem exists_walk_of_summary {definition : FunctionDefinition} {memo after : Memo}
    {summary : Summary}
    (result : analyzeFunction registry helper definition memo = .ok (some summary, after)) :
    ∃ walk, walkBlock registry helper definition.body (analysisStart definition memo) =
      .ok ⟨⟩ walk ∧ summary = summaryAfter definition walk := by
  cases analyzed : isAnalyzed definition with
  | false =>
    rw [analyzeFunction_of_not_analyzed analyzed] at result
    cases result
  | true =>
    rw [analyzeFunction_of_analyzed analyzed] at result
    split at result
    · cases result
    next walk walked =>
      cases result
      exact ⟨walk, walked, rfl⟩

/-- The analyses of functions end when each of them does, whatever was remembered before. -/
theorem analyzeAll_ends {relates : FunctionDefinition → Summary → Prop}
    {definitions : List FunctionDefinition}
    (bodies : ∀ definition ∈ definitions, isAnalyzed definition = true →
      ∀ memo, memory memo →
      Walker.Yields allowed (walkBlock registry helper definition.body)
        (analysisStart definition memo) fun _ after =>
          relates definition (summaryAfter definition after) ∧ memory after.memo)
    {memo : Memo} (memoHolds : memory memo) :
    Ends allowed (List.Forall₂ relates (definitions.filter isAnalyzed))
      (analyzeAll registry helper definitions memo) := by
  induction definitions generalizing memo with
  | nil => exact .nil
  | cons definition rest inRest =>
    have inOthers := fun {memo} => @inRest
      (fun other member => bodies other (List.mem_cons_of_mem _ member)) memo
    rw [analyzeAll]
    cases analyzed : isAnalyzed definition with
    | false =>
      rw [analyzeFunction_of_not_analyzed analyzed, List.filter_cons_of_neg (by simp [analyzed])]
      have others := inOthers memoHolds
      show Ends allowed _ (do return [] ++ (← analyzeAll registry helper rest memo))
      cases restAnalyzed : analyzeAll registry helper rest memo with
      | error fault =>
        rw [restAnalyzed] at others
        exact others
      | ok summaries =>
        rw [restAnalyzed] at others
        exact others
    | true =>
      rw [analyzeFunction_of_analyzed analyzed, List.filter_cons_of_pos analyzed]
      have body := bodies definition List.mem_cons_self analyzed memo memoHolds
      unfold Walker.Yields at body
      cases walked : walkBlock registry helper definition.body (analysisStart definition memo) with
      | error fault after =>
        rw [walked] at body
        exact body
      | ok _ after =>
        rw [walked] at body
        have others := inOthers body.2
        show Ends allowed _ (do
          return [summaryAfter definition after] ++ (← analyzeAll registry helper rest after.memo))
        cases restAnalyzed : analyzeAll registry helper rest after.memo with
        | error fault =>
          rw [restAnalyzed] at others
          exact others
        | ok summaries =>
          rw [restAnalyzed] at others
          exact .cons body.1 others

end Analyses

/-! ## Walks through scripts -/

section Scripts

variable {statements : List Stmt} {allowed : Fault → Prop} {property : Frame → Prop}
  {memory : Memo → Prop} {admitted : Expr → Prop}

theorem mem_functionsOf_of_untyped {name : Text} {info : FunctionInfo}
    (untyped : (registryOf statements).Untyped name info) :
    info.definition ∈ functionsOf statements :=
  (sound_registryOf statements name info untyped.1).1

theorem block_keeps (operations : OperationsKeep allowed property admitted)
    (declared : ∀ hint, ∀ frame ∈ declaredFrame? hint, property frame)
    (inScript : ∀ part ∈ blockParts statements, admitted part) {helper : HelperCall}
    {definition : FunctionDefinition} (defined : definition ∈ functionsOf statements)
    (helps : ∀ name info, (registryOf statements).Untyped name info →
      HelperKeeps allowed property memory helper info)
    {walk : Walk} (holds : walk.Holds property memory) :
    Walker.Yields allowed (walkBlock (registryOf statements) helper definition.body) walk
      fun _ after => after.Holds property memory := by
  refine walkBlock_yields operations ((sound_registryOf statements).returnsHold declared) declared
    (fun part inBody => ?_) holds
  exact ⟨inScript part (mem_blockParts_of_functionsOf defined inBody),
    fun name info _ => helps name info⟩

theorem scriptCalls_keep {lookUp : Recall} (operations : OperationsKeep allowed property admitted)
    (declared : ∀ hint, ∀ frame ∈ declaredFrame? hint, property frame)
    (inScript : ∀ part ∈ blockParts statements, admitted part)
    (isPlain : ∀ frame, property frame → frame.Plain)
    (recalls : ∀ memo name arguments frame, memory memo →
      lookUp memo name arguments = some frame → property frame)
    (remembers : (registryOf statements).Remembers lookUp property memory)
    {within : Nat → Text → Prop} (budget : (registryOf statements).Budget allowed within)
    {depth : Nat} {name : Text} {info : FunctionInfo}
    (untyped : (registryOf statements).Untyped name info) (isWithin : within depth name) :
    HelperKeeps allowed property memory (callsWith lookUp (registryOf statements) depth) info := by
  refine callsWith_keeps operations ((sound_registryOf statements).returnsHold declared) declared
    (fun arguments holds => .inl ?_) recalls remembers (fun _ _ isUntyped part inBody => ?_) budget
    depth untyped isWithin
  · exact ordered_of_plain fun argument member frame given =>
      isPlain frame (holds argument member frame given)
  · exact inScript part
      (mem_blockParts_of_functionsOf (mem_functionsOf_of_untyped isUntyped) inBody)

theorem rank_lt_callLimit (acyclic : (registryOf statements).Acyclic) {name : Text}
    {info : FunctionInfo} (untyped : (registryOf statements).Untyped name info) :
    (registryOf statements).rank name < callLimit (registryOf statements) := by
  have bounded := Registry.rank_lt_size acyclic untyped.1
  unfold callLimit
  omega

end Scripts

end FrameCheck.Analysis
