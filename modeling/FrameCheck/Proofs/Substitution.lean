import FrameCheck.Proofs.InStep

/-!
Arguments in place of declared frames. A function that passes is analysed anew with frames that a
call of it accepts, those that serve for its declared parameters. Where this analysis keeps in step
with the first one, it finds no problems and returns a frame that serves for the declared one.
-/

namespace FrameCheck.Analysis

open Syntax Typing

/-! ## Arguments -/

/-- A parameter that declares a frame accepts a plain one that serves for it. -/
def AcceptsArgument (parameter : Parameter) (argument : Frame) : Prop :=
  argument.Plain ∧
    ∃ frame ∈ parameter.hint.bind declaredFrame?, frameServes argument frame = true

instance (parameter : Parameter) (argument : Frame) :
    Decidable (AcceptsArgument parameter argument) :=
  inferInstanceAs (Decidable (_ ∧ ∃ frame ∈ parameter.hint.bind declaredFrame?, _ = true))

def AcceptsArguments (definition : FunctionDefinition) (arguments : List Frame) : Prop :=
  List.Forall₂ AcceptsArgument definition.regularParameters arguments

instance (definition : FunctionDefinition) (arguments : List Frame) :
    Decidable (AcceptsArguments definition arguments) :=
  inferInstanceAs (Decidable (List.Forall₂ _ _ _))

def argumentStart (definition : FunctionDefinition) (arguments : List Frame) (memo : Memo) : Walk :=
  { frames := bindArguments definition.regularParameters (arguments.map some), memo := memo }

theorem hintedFrame?_of_declaredFrame? {hint : Option Expr} {frame : Frame}
    (isDeclared : hint.bind declaredFrame? = some frame) :
    hint.bind hintedFrame? = some (.ok frame) := by
  obtain ⟨expression, rfl, declared⟩ := Option.bind_eq_some_iff.mp isDeclared
  unfold declaredFrame? at declared
  split at declared
  next isHinted =>
    cases declared
    exact isHinted
  · cases declared

theorem bindArguments_stand {parameters : List Parameter} {arguments : List Frame}
    (accepted : List.Forall₂ AcceptsArgument parameters arguments)
    {frames : Table Text Frame} {declared : Declarations}
    (agree : Table.Agrees Frame.StandsFor frames declared.inputs) :
    Table.Agrees Frame.StandsFor
      (frames.insertAll ((parameters.zip (arguments.map some)).filterMap
        fun (parameter, argument) => argument.map fun frame => ((parameter.name : Text), frame)))
      (parameters.foldl declareParameter declared).inputs := by
  induction accepted generalizing frames declared with
  | nil => exact agree
  | @cons parameter argument _ _ isAccepted _ inRest =>
    obtain ⟨plain, frame, isDeclared, serving⟩ := isAccepted
    have isHinted := hintedFrame?_of_declaredFrame? isDeclared
    obtain ⟨hint, _, declaredHint⟩ := Option.bind_eq_some_iff.mp isDeclared
    have framePlain := plain_of_declaredFrame? hint frame declaredHint
    refine @inRest (frames.insert parameter.name argument) _ ?_
    simp only [declareParameter, isHinted]
    exact agree.insert _ ⟨plain, framePlain, serving⟩

theorem argumentStart_stands {definition : FunctionDefinition} {arguments : List Frame}
    (accepts : AcceptsArguments definition arguments) (memo other : Memo) :
    (argumentStart definition arguments memo).Compares standing
      (analysisStart definition other) := by
  have empty : Table.Agrees Frame.StandsFor (Table.empty : Table Text Frame)
      ({} : Declarations).inputs := fun _ => .none
  have frames := bindArguments_stand accepts empty
  rw [← inputs_declareReturn _ definition.header.returns] at frames
  exact ⟨frames, .none, fun _ => rfl, trivial⟩

theorem argumentStart_paired {memory : Memo → Prop} {definition : FunctionDefinition}
    {arguments : List Frame} (accepts : AcceptsArguments definition arguments) {memo : Memo}
    (memoHolds : memory memo) (other : Memo) :
    (argumentStart definition arguments memo).Paired memory
      (argumentStart definition arguments other) := by
  have plain : ∀ argument ∈ arguments, argument.Plain :=
    ((List.forall₂_and_left _ _).mp (List.Forall₂.flip accepts)).1
  have paired : List.Forall₂ (Option.Rel Frame.Paired) (arguments.map some)
      (arguments.map some) := by
    rw [List.forall₂_map_left_iff, List.forall₂_map_right_iff, List.forall₂_same]
    exact fun argument member => .some (plain argument member).paired
  exact ⟨bindArguments_agree _ paired, .none, rfl, memoHolds⟩

/-! ## Substitution -/

/-- The analysis of a function with arguments in place of its declared frames keeps in step with
its own one. Both are analyses without look-ups. -/
structure KeepsInStep (statements : List Stmt) (definition : FunctionDefinition)
    (arguments : List Frame) : Prop where
  /-- Calls do not need what is remembered to come to an end. -/
  ends : (analyzeAlone statements definition).isOk = true
  /-- In joins, no renamed column takes the name of another right one. -/
  clear : clearFunction (registryOf statements) definition = true
  argumentsClear : clearEffects (registryOf statements)
    (freshCalls (registryOf statements) (callLimit (registryOf statements)))
    (clearCall (registryOf statements) (callLimit (registryOf statements)))
    (blockEffects definition.body) (argumentStart definition arguments .empty) = true
  inStep : inStepEffects (registryOf statements)
    (freshCalls (registryOf statements) (callLimit (registryOf statements)))
    (freshCalls (registryOf statements) (callLimit (registryOf statements)))
    (inStepCall (registryOf statements) (callLimit (registryOf statements)))
    (blockEffects definition.body) (argumentStart definition arguments .empty)
    (analysisStart definition .empty) = true

theorem KeepsInStep.exists_alone {statements : List Stmt} {definition : FunctionDefinition}
    {arguments : List Frame} (keeps : KeepsInStep statements definition arguments)
    (analyzed : isAnalyzed definition = true) :
    ∃ alone, walkBlock (registryOf statements)
      (freshCalls (registryOf statements) (callLimit (registryOf statements))) definition.body
      (analysisStart definition .empty) = .ok ⟨⟩ alone := by
  have ends := keeps.ends
  rw [analyzeAlone, analyzeFunction_of_analyzed analyzed] at ends
  split at ends
  · cases ends
  next alone aloneRun => exact ⟨alone, aloneRun⟩

def ServesWith (statements : List Stmt) (definition : FunctionDefinition) (declared : Frame)
    (arguments : List Frame) (memo : Memo) : Prop :=
  ∃ after returned,
    walkStatements (registryOf statements) definition.body
      (argumentStart definition arguments memo) = .ok ⟨⟩ after ∧
    after.problems = [] ∧ after.returned = some returned ∧ frameServes returned declared = true

instance (statements : List Stmt) (definition : FunctionDefinition) (declared : Frame)
    (arguments : List Frame) (memo : Memo) :
    Decidable (ServesWith statements definition declared arguments memo) :=
  match walked : walkStatements (registryOf statements) definition.body
      (argumentStart definition arguments memo) with
  | .ok _ after =>
    decidable_of_iff (after.problems.isEmpty = true ∧
        ∃ returned ∈ after.returned, frameServes returned declared = true) (by
      simp [ServesWith, walked])
  | .error _ _ => isFalse (by simp [ServesWith, walked])

/-- What holds of a function and its summary when accepted arguments may take the place of the
declared frames, whatever is remembered before the analysis with them. -/
def Substitutable (statements : List Stmt) (definition : FunctionDefinition) (summary : Summary) :
    Prop :=
  ∀ declared arguments memo, (Report.verdict summary).passed = true →
    summary.declared = some declared → AcceptsArguments definition arguments →
    KeepsInStep statements definition arguments → memo.Faithful (registryOf statements) →
    ServesWith statements definition declared arguments memo

section Scripts

variable {statements : List Stmt} {condition : Prop}

theorem exists_of_keepsInStep
    (admitted : ∀ part ∈ blockParts statements, Admitted condition part)
    {definition : FunctionDefinition} (defined : definition ∈ functionsOf statements)
    {arguments : List Frame} (accepts : AcceptsArguments definition arguments)
    (keeps : KeepsInStep statements definition arguments) {alone : Walk}
    (aloneRun : walkBlock (registryOf statements)
      (freshCalls (registryOf statements) (callLimit (registryOf statements))) definition.body
      (analysisStart definition .empty) = .ok ⟨⟩ alone)
    {memo : Memo} (faithful : memo.Faithful (registryOf statements)) :
    ∃ after middle, walkStatements (registryOf statements) definition.body
        (argumentStart definition arguments memo) = .ok ⟨⟩ after ∧
      after.Paired (Memo.Faithful (registryOf statements)) middle ∧
      middle.Compares standing alone := by
  let registry := registryOf statements
  let limit := callLimit registry
  have stands := block_stands admitted defined
    (fun _ _ untyped => freshCalls_stand admitted limit untyped)
    (argumentStart_stands accepts .empty .empty) ⟨keeps.argumentsClear, keeps.clear, keeps.inStep⟩
  obtain ⟨_, middle, middleRun, compares⟩ := (stands _ _ aloneRun).exists_ok fun _ => id
  have follows := block_follows admitted defined
    (fun _ _ _ _ _ untyped => callsMatch admitted limit untyped limit)
    (argumentStart_paired accepts faithful .empty) keeps.argumentsClear
  obtain ⟨_, after, run, paired⟩ := (follows _ _ middleRun).exists_ok
    fun _ exhausted => Nat.lt_irrefl _ exhausted.2
  refine ⟨after, middle, ?_, paired, compares⟩
  rw [walkStatements, callHelper_eq_callsWith]
  exact run

theorem substitutable_of_walked
    (admitted : ∀ part ∈ blockParts statements, Admitted condition part)
    {definition : FunctionDefinition} (defined : definition ∈ functionsOf statements)
    (analyzed : isAnalyzed definition = true) {memo : Memo}
    (faithful : memo.Faithful (registryOf statements)) {own : Walk}
    (ownRun : walkBlock (registryOf statements)
      (callsWith Memo.find? (registryOf statements) (callLimit (registryOf statements)))
      definition.body (analysisStart definition memo) = .ok ⟨⟩ own) :
    Substitutable statements definition (summaryAfter definition own) := by
  intro declared arguments memo passed isDeclared accepts keeps memoFaithful
  obtain ⟨alone, aloneRun⟩ := keeps.exists_alone analyzed
  have ownPaired := (block_follows admitted defined
    (fun _ _ _ _ _ untyped => callsMatch admitted _ untyped _)
    (analysisStart_paired definition faithful .empty) keeps.clear).of_ok ownRun aloneRun
  obtain ⟨after, middle, run, paired, stands⟩ :=
    exists_of_keepsInStep admitted defined accepts keeps aloneRun memoFaithful
  obtain ⟨noProblems, _⟩ := Report.verdict_passed_iff.mp passed
  obtain ⟨inferred, isInferred, serving⟩ := Report.exists_inferred_of_passed passed isDeclared
  have noneAlone : alone.problems = [] := by
    have lengths : own.problems.length = alone.problems.length := ownPaired.problems
    rw [show own.problems = [] from noProblems] at lengths
    exact List.length_eq_zero_iff.mp lengths.symm
  have noneAfter : after.problems = [] := by
    have lengths : after.problems.length = middle.problems.length := paired.problems
    rw [stands.problems noneAlone] at lengths
    exact List.length_eq_zero_iff.mp lengths
  -- the frame that is returned serves for that of each walk before it
  have ownReturned : own.returned = some inferred := isInferred
  obtain ⟨aloneFrame, isAlone, fromOwn⟩ :=
    Table.exists_of_rel_some_left (ownReturned ▸ ownPaired.returned)
  obtain ⟨middleFrame, isMiddle, fromAlone⟩ :=
    Table.exists_of_rel_some_right (isAlone ▸ stands.returned)
  obtain ⟨returned, isReturned, fromMiddle⟩ :=
    Table.exists_of_rel_some_right (isMiddle ▸ paired.returned)
  refine ⟨after, returned, run, noneAfter, isReturned, ?_⟩
  rw [frameServes_alike fromOwn.alike] at serving
  rw [frameServes_alike fromMiddle.alike]
  exact frameServes_trans fromAlone.serves serving

theorem body_substitutable
    (admitted : ∀ part ∈ blockParts statements, Admitted condition part)
    {definition : FunctionDefinition} (defined : definition ∈ functionsOf statements)
    (analyzed : isAnalyzed definition = true) {memo : Memo}
    (faithful : memo.Faithful (registryOf statements)) :
    Walker.Yields AnyFault
      (walkBlock (registryOf statements)
        (callHelper (registryOf statements) (callLimit (registryOf statements))) definition.body)
      (analysisStart definition memo) fun _ own =>
        Substitutable statements definition (summaryAfter definition own) ∧
          own.memo.Faithful (registryOf statements) := by
  rw [callHelper_eq_callsWith]
  have yields := faithfulBody_yields admitted (callLimit (registryOf statements)) defined faithful
  unfold Walker.Yields at yields ⊢
  split
  next own ownRun =>
    rw [ownRun] at yields
    exact ⟨substitutable_of_walked admitted defined analyzed faithful ownRun, yields.memo⟩
  · trivial

end Scripts

/-- Accepted arguments may be substituted for the declared frames of every function of a script
that passes, where the analysis with them keeps in step. -/
theorem analyzeStatements_substitutable {statements : List Stmt}
    (labels : ∀ part ∈ blockParts statements, LabelsText part) {summaries : List Summary}
    (analyzed : analyzeStatements statements = .ok summaries) :
    List.Forall₂ (Substitutable statements) ((functionsOf statements).filter isAnalyzed)
      summaries := by
  have admitted : ∀ part ∈ blockParts statements, Admitted False part :=
    fun part inScript => ⟨labels part inScript, False.elim⟩
  have ends : Ends AnyFault _ (analyzeStatements statements) :=
    analyzeAll_ends
      (fun definition defined isAnalyzed memo faithful =>
        body_substitutable admitted defined isAnalyzed faithful)
      (Memo.faithful_empty _)
  rw [analyzed] at ends
  exact ends

/-! ## Applications -/

structure Application where
  helpers : List FunctionDefinition := []
  function : FunctionDefinition
  arguments : List Frame

namespace Application

def statements (application : Application) : List Stmt :=
  (application.helpers ++ [application.function]).map fun definition =>
    .function false definition.header definition.body

def passing? (application : Application) : Option Frame :=
  match analyzeStatements application.statements with
  | .ok [summary] => if (Report.verdict summary).passed then summary.declared else none
  | _ => none

theorem exists_summary_of_passing? {application : Application} {declared : Frame}
    (passing : application.passing? = some declared) :
    ∃ summary, analyzeStatements application.statements = .ok [summary] ∧
      (Report.verdict summary).passed = true ∧ summary.declared = some declared := by
  unfold passing? at passing
  split at passing
  next summary analyzed =>
    split at passing
    next passed => exact ⟨summary, analyzed, passed, passing⟩
    next => cases passing
  next => cases passing

def Misleads (application : Application) : Prop :=
  ∃ declared ∈ application.passing?,
    AcceptsArguments application.function application.arguments ∧
    ¬ ServesWith application.statements application.function declared application.arguments .empty

instance (application : Application) : Decidable application.Misleads :=
  inferInstanceAs (Decidable (∃ declared ∈ application.passing?, _ ∧ ¬ ServesWith _ _ declared _ _))

def helper (parameters : List String) (body : List Stmt) : FunctionDefinition where
  header :=
    { name := "h", line := 1
      parameters := { regular := parameters.map fun name => { name := name } } }
  body := body

def frameHint (schema : Text) : Expr :=
  .subscript (.name "DF") (.literal (.text schema))

def hinted (parameters : List (String × Text)) (returns : Text) (body : List Stmt) :
    FunctionDefinition where
  header :=
    { name := "f", line := 6
      parameters :=
        { regular := parameters.map fun (name, schema) =>
            { name := name, hint := some (frameHint schema) } }
      returns := some (frameHint returns) }
  body := body

def column (name : Text) : Expr :=
  .call (.attribute (.name "pl") "col") [.literal (.text name)] []

def joinOnKey (how : Text) : Expr :=
  .call (.attribute (.name "l") "join") [.name "r"]
    [.mk (some "on") (.literal (.text "k")), .mk (some "how") (.literal (.text how))]

def grouped (frame : Expr) (items : List Expr) : Expr :=
  .call (.attribute (.call (.attribute frame "group_by") [.literal (.text "k")] []) "agg") items []

/-- Both arguments have a further column. The right one is renamed, to a name that is new in the
frame of the declared parameters too; and the column that is gathered allows nulls either way. -/
def enriched : Application where
  helpers := [helper ["l", "r"] [.returning (some (joinOnKey "left"))]]
  function := hinted [("l", "\x7bk: Int64, v: Int64?\x7d"), ("r", "\x7bk: Int64, w: Utf8\x7d")]
    "\x7bk: Int64, v: Int64?, w: List[Utf8?]\x7d"
    [.returning (some (grouped (.call (.name "h") [.name "l", .name "r"] [])
      [.call (.attribute (column "v") "sum") [] [], .call (.attribute (column "w") "list") [] []]))]
  arguments := [
    .ofList [(.text "k", .int64), (.text "v", .int64), (.text "x", .scalar .date)],
    .ofList [(.text "x", .utf8), (.text "w", .utf8), (.text "k", .int64)]]

theorem enriched_servesWith :
    (∀ part ∈ blockParts enriched.statements, LabelsText part) ∧
    ∃ summary declared, analyzeStatements enriched.statements = .ok [summary] ∧
      (Report.verdict summary).passed = true ∧ summary.declared = some declared ∧
      AcceptsArguments enriched.function enriched.arguments ∧
      KeepsInStep enriched.statements enriched.function enriched.arguments ∧
      ServesWith enriched.statements enriched.function declared enriched.arguments .empty := by
  have labels : ∀ part ∈ blockParts enriched.statements, LabelsText part := by decide +kernel
  have accepts : AcceptsArguments enriched.function enriched.arguments := by decide +kernel
  have keeps : KeepsInStep enriched.statements enriched.function enriched.arguments :=
    ⟨by decide +kernel, by decide +kernel, by decide +kernel, by decide +kernel⟩
  have passes : enriched.passing?.isSome = true := by decide +kernel
  obtain ⟨declared, passing⟩ := Option.isSome_iff_exists.mp passes
  obtain ⟨summary, analyzed, passed, isDeclared⟩ := exists_summary_of_passing? passing
  have functions : (functionsOf enriched.statements).filter isAnalyzed = [enriched.function] := by
    rfl
  have substitutable := analyzeStatements_substitutable labels analyzed
  rw [functions] at substitutable
  obtain ⟨substitutable, _⟩ := List.forall₂_cons.mp substitutable
  exact ⟨labels, summary, declared, analyzed, passed, isDeclared, accepts, keeps,
    substitutable declared _ .empty passed isDeclared accepts keeps (Memo.faithful_empty _)⟩

def gathered : Application where
  function := hinted [("d", "\x7bk: Int64, x: Int64?\x7d")]
    "\x7bk: Int64, x: List[Int64?]\x7d"
    [.returning (some (grouped (.name "d") [.call (.attribute (column "x") "list") [] []]))]
  arguments := [.ofList [(.text "k", .int64), (.text "x", .int64)]]

def captured : Application where
  function := hinted [("l", "\x7bk: Int64\x7d"), ("r", "\x7bk: Int64, v: Int64\x7d")]
    "\x7bk: Int64, v: Int64\x7d" [.returning (some (joinOnKey "inner"))]
  arguments := [
    .ofList [(.text "k", .int64), (.text "v", .utf8)],
    .ofList [(.text "k", .int64), (.text "v", .int64)]]

def reordered : Application where
  function := hinted
    [("l", "\x7bk: Int64, v: Int64\x7d"), ("r", "\x7bk: Int64, v: Utf8, v_right: Date\x7d")]
    "\x7bk: Int64, v: Int64, v_right: Utf8, v_right_right: Date\x7d"
    [.returning (some (joinOnKey "inner"))]
  arguments := [
    .ofList [(.text "k", .int64), (.text "v", .int64)],
    .ofList [(.text "k", .int64), (.text "v_right", .scalar .date), (.text "v", .utf8)]]

def retried : Application where
  helpers := [helper ["d"] [
    .assign [.name "e"] (.name "d"),
    .assign [.name "e"] (.call (.attribute (.name "d") "select") [column "x"] []),
    .returning (some (.name "e"))]]
  function := hinted [("d", "\x7ba: Int64\x7d")] "\x7ba: Int64\x7d"
    [.returning (some (.call
      (.attribute (.call (.name "h") [.name "d"] []) "select") [column "a"] []))]
  arguments := [.ofList [(.text "a", .int64), (.text "x", .int64)]]

def unordered : Application where
  helpers := [helper ["e"] [.returning (some (.name "e"))]]
  function := hinted [("d", "\x7b\x7d")] "\x7b\x7d" [
    .assign [.name "x"] (.call (.name "h")
      [.call (.attribute (.name "d") "with_columns")
        [.call (.attribute
          (.call (.attribute (.name "pl") "lit") [.literal (.int 1)] []) "alias")
            [.literal (.int 5)] []] []] []),
    .returning (some (.name "d"))]
  arguments := [.ofList [(.text "a", .int64)]]

/-- Where analyses do not keep in step, or labels are no texts, functions that pass accept
arguments that cannot be substituted. -/
theorem misleading_applications :
    gathered.Misleads ∧ captured.Misleads ∧ reordered.Misleads ∧ retried.Misleads ∧
      unordered.Misleads := by
  decide +kernel

end Application

end FrameCheck.Analysis
