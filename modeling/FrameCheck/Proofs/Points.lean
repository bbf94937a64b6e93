import FrameCheck.Proofs.WellFormed

/-!
The points that the analysis of a script passes through: before and after every assignment and
return, at every frame that is found for an expression, and inside the bodies of functions without
a signature, called at any depth. All frames that are held at such a point are well-formed, and so
are those that signatures declare and those that summaries report.
-/

namespace FrameCheck.Analysis

open Syntax Typing

/-! ## Points -/

/-- What an analysis holds at a point: the state of a walk, and perhaps a frame that was found
just now. -/
structure Point where
  walk : Walk
  frame : Option Frame := none

inductive Task where
  | expression (value : Expr)
  | effects (effects : List Effect)

/-- The points that a task passes through from a walk on. At most `depth` calls are inside each
other. -/
inductive Passes (registry : Registry) : (depth : Nat) → Task → Walk → Point → Prop
  | found {depth : Nat} {value : Expr} {walk after : Walk} {frame : Option Frame}
      (result : infer registry (callHelper registry depth) value walk = .ok frame after) :
      Passes registry depth (.expression value) walk ⟨after, frame⟩
  | argument {depth : Nat} {function : String} {info : FunctionInfo} {before later : List Expr}
      {argument : Expr} {keywords : List Keyword} {walk after : Walk}
      {frames : List (Option Frame)} {point : Point}
      (registered : registry.get? function = some info)
      (result : inferAll registry (callHelper registry depth) before walk = .ok frames after)
      (passes : Passes registry depth (.expression argument) after point) :
      Passes registry depth
        (.expression (.call (.name function) (before ++ argument :: later) keywords)) walk point
  | body {depth : Nat} {function : String} {info : FunctionInfo} {arguments : List Expr}
      {keywords : List Keyword} {walk after : Walk} {frames : List (Option Frame)} {point : Point}
      (untyped : registry.Untyped function info)
      (result : inferAll registry (callHelper registry (depth + 1)) arguments walk =
        .ok frames after)
      (isOrdered : ordered frames = true)
      (unknown : after.memo.find? info.definition.name frames = none)
      (passes : Passes registry depth (.effects (blockEffects info.definition.body))
        (callStart info frames after) point) :
      Passes registry (depth + 1) (.expression (.call (.name function) arguments keywords)) walk
        point
  | grouped {depth : Nat} {grouped : Expr} {keys items : List Expr}
      {keyKeywords keywords : List Keyword} {walk : Walk} {point : Point}
      (passes : Passes registry depth (.expression grouped) walk point) :
      Passes registry depth
        (.expression (.call
          (.attribute (.call (.attribute grouped "group_by") keys keyKeywords) "agg") items
          keywords)) walk point
  | receiver {depth : Nat} {receiver : Expr} {method : String} {arguments : List Expr}
      {keywords : List Keyword} {walk : Walk} {point : Point} (notAgg : method ≠ "agg")
      (passes : Passes registry depth (.expression receiver) walk point) :
      Passes registry depth (.expression (.call (.attribute receiver method) arguments keywords))
        walk point
  | right {depth : Nat} {receiver right : Expr} {others : List Expr} {keywords : List Keyword}
      {walk after : Walk} {left : Frame} {point : Point}
      (result : infer registry (callHelper registry depth) receiver walk = .ok (some left) after)
      (passes : Passes registry depth (.expression right) after point) :
      Passes registry depth
        (.expression (.call (.attribute receiver "join") (right :: others) keywords)) walk point
  | start {depth : Nat} {effects : List Effect} {walk : Walk} :
      Passes registry depth (.effects effects) walk ⟨walk, none⟩
  | value {depth : Nat} {effect : Effect} {rest : List Effect} {value : Expr} {walk : Walk}
      {point : Point} (asked : effect.value? = some value)
      (passes : Passes registry depth (.expression value) walk point) :
      Passes registry depth (.effects (effect :: rest)) walk point
  | next {depth : Nat} {effect : Effect} {rest : List Effect} {walk after : Walk} {point : Point}
      (result : effect.run registry (callHelper registry depth) walk = .ok ⟨⟩ after)
      (passes : Passes registry depth (.effects rest) after point) :
      Passes registry depth (.effects (effect :: rest)) walk point

/-- The points that the analyses of functions pass through, each with what was remembered before
it. -/
inductive AnalysisPasses (registry : Registry) : List FunctionDefinition → Memo → Point → Prop
  | here {definition : FunctionDefinition} {rest : List FunctionDefinition} {memo : Memo}
      {point : Point} (analyzed : isAnalyzed definition = true)
      (passes : Passes registry (callLimit registry) (.effects (blockEffects definition.body))
        (analysisStart definition memo) point) :
      AnalysisPasses registry (definition :: rest) memo point
  | later {definition : FunctionDefinition} {rest : List FunctionDefinition} {memo after : Memo}
      {summary : Option Summary} {point : Point}
      (result : analyzeFunction registry (callHelper registry (callLimit registry)) definition
        memo = .ok (summary, after))
      (passes : AnalysisPasses registry rest after point) :
      AnalysisPasses registry (definition :: rest) memo point

/-! ## Well-formed points -/

def Memo.WellFormed (memo : Memo) : Prop :=
  ∀ function, ∀ entry ∈ memo.entries function,
    ArgumentsWellFormed entry.arguments ∧ entry.result.WellFormed

abbrev Walk.WellFormed (walk : Walk) : Prop :=
  walk.Holds Frame.WellFormed Memo.WellFormed

structure Point.WellFormed (point : Point) : Prop where
  walk : point.walk.WellFormed
  frame : ∀ frame ∈ point.frame, frame.WellFormed

structure Signature.WellFormed (signature : Signature) : Prop where
  parameters : ∀ name position frame,
    signature.parameters.get? name = some (position, frame) → frame.WellFormed
  returns : ∀ frame ∈ signature.returns, frame.WellFormed

structure Summary.WellFormed (summary : Summary) : Prop where
  inputs : ∀ name frame, summary.inputs.get? name = some frame → frame.WellFormed
  declared : ∀ frame ∈ summary.declared, frame.WellFormed
  inferred : ∀ frame ∈ summary.inferred, frame.WellFormed

namespace Memo

theorem wellFormed_empty : Memo.WellFormed .empty := by
  intro function entry member
  simp at member

theorem arguments_of_mem_writeEntry {arguments : List (Option Frame)} {result : Frame}
    {entries : List MemoEntry} {entry : MemoEntry}
    (member : entry ∈ writeEntry arguments result entries) :
    (∃ before ∈ entries, before.arguments = entry.arguments) ∨ entry.arguments = arguments := by
  induction entries with
  | nil =>
    simp only [writeEntry, List.mem_singleton] at member
    exact .inr (by rw [member])
  | cons first rest inRest =>
    rw [writeEntry] at member
    split at member
    · rcases List.mem_cons.mp member with rfl | later
      · exact .inl ⟨first, List.mem_cons_self, rfl⟩
      · exact .inl ⟨entry, List.mem_cons_of_mem _ later, rfl⟩
    · rcases List.mem_cons.mp member with rfl | later
      · exact .inl ⟨entry, List.mem_cons_self, rfl⟩
      · rcases inRest later with ⟨before, isBefore, same⟩ | isNew
        · exact .inl ⟨before, List.mem_cons_of_mem _ isBefore, same⟩
        · exact .inr isNew

theorem WellFormed.remember {memo : Memo} (wellFormed : memo.WellFormed) (function : Text)
    {arguments : List (Option Frame)} (argumentsWellFormed : ArgumentsWellFormed arguments)
    {result : Frame} (resultWellFormed : result.WellFormed) :
    (memo.remember function arguments result).WellFormed := by
  intro other entry member
  rw [entries_remember] at member
  split at member
  · refine ⟨?_, ?_⟩
    · rcases arguments_of_mem_writeEntry member with ⟨before, isBefore, same⟩ | isNew
      · rw [← same]
        exact (wellFormed function before isBefore).1
      · rw [isNew]
        exact argumentsWellFormed
    · rcases mem_writeEntry member with before | ⟨isResult, _⟩
      · exact (wellFormed function entry before).2
      · rw [isResult]
        exact resultWellFormed
  · exact wellFormed other entry member

theorem WellFormed.find? {memo : Memo} (wellFormed : memo.WellFormed) {function : Text}
    {arguments : List (Option Frame)} {frame : Frame}
    (found : memo.find? function arguments = some frame) : frame.WellFormed := by
  obtain ⟨entry, member, _, rfl⟩ := exists_of_find? found
  exact (wellFormed function entry member).2

end Memo

/-! ## Calls -/

section Walks

variable {registry : Registry}

theorem answered_wellFormed (returns : registry.ReturnsHold Frame.WellFormed) (depth : Nat)
    (expression : Expr) :
    Answered AnyFault Frame.WellFormed Memo.WellFormed (fun _ => True) registry
      (callHelper registry depth) expression := by
  rw [callHelper_eq_callsWith]
  exact callsWith_answer_wellFormed returns (fun _ _ _ _ memo found => memo.find? found)
    (fun _ name _ _ arguments memo frame => memo.remember name arguments frame) depth expression

/-! ## Steps of a walk -/

theorem infer_wellFormed (returns : registry.ReturnsHold Frame.WellFormed) {depth : Nat}
    {value : Expr} {walk after : Walk} {frame : Option Frame} (wellFormed : walk.WellFormed)
    (result : infer registry (callHelper registry depth) value walk = .ok frame after) :
    (∀ found ∈ frame, found.WellFormed) ∧ after.WellFormed := by
  have yields := (infer_yields operations_keep_wellFormed returns).1 value
    (fun part _ => answered_wellFormed returns depth part) walk wellFormed
  unfold Walker.Yields at yields
  rwa [result] at yields

theorem inferAll_wellFormed (returns : registry.ReturnsHold Frame.WellFormed) {depth : Nat}
    {values : List Expr} {walk after : Walk} {frames : List (Option Frame)}
    (wellFormed : walk.WellFormed)
    (result : inferAll registry (callHelper registry depth) values walk = .ok frames after) :
    ArgumentsWellFormed frames ∧ after.WellFormed := by
  have yields := (infer_yields operations_keep_wellFormed returns).2 values
    (fun _ _ part _ => answered_wellFormed returns depth part) walk wellFormed
  unfold Walker.Yields at yields
  rwa [result] at yields

theorem run_wellFormed (returns : registry.ReturnsHold Frame.WellFormed) {depth : Nat}
    {effect : Effect} {walk after : Walk} (wellFormed : walk.WellFormed)
    (result : effect.run registry (callHelper registry depth) walk = .ok ⟨⟩ after) :
    after.WellFormed := by
  have yields := run_yields operations_keep_wellFormed returns wellFormed_of_declaredFrame?
    (fun value (_ : value ∈ effect.value?) part _ => answered_wellFormed returns depth part)
    wellFormed
  unfold Walker.Yields at yields
  rwa [result] at yields

theorem walkBlock_yields_wellFormed (returns : registry.ReturnsHold Frame.WellFormed) (depth : Nat)
    (block : List Stmt) {walk : Walk} (wellFormed : walk.WellFormed) :
    Walker.Yields AnyFault (walkBlock registry (callHelper registry depth) block) walk
      fun _ after => after.WellFormed :=
  walkBlock_yields operations_keep_wellFormed returns wellFormed_of_declaredFrame?
    (fun part _ => answered_wellFormed returns depth part) wellFormed

theorem Passes.wellFormed (returns : registry.ReturnsHold Frame.WellFormed) {depth : Nat}
    {task : Task} {walk : Walk} {point : Point} (passes : Passes registry depth task walk point)
    (wellFormed : walk.WellFormed) : point.WellFormed := by
  induction passes with
  | found result =>
    obtain ⟨frame, after⟩ := infer_wellFormed returns wellFormed result
    exact ⟨after, frame⟩
  | argument _ result _ inArgument =>
    exact inArgument (inferAll_wellFormed returns wellFormed result).2
  | body _ result _ _ _ inBody =>
    obtain ⟨frames, after⟩ := inferAll_wellFormed returns wellFormed result
    exact inBody (callStart_holds frames after)
  | grouped _ inGrouped => exact inGrouped wellFormed
  | receiver _ _ inReceiver => exact inReceiver wellFormed
  | right result _ inRight => exact inRight (infer_wellFormed returns wellFormed result).2
  | start => exact ⟨wellFormed, by simp⟩
  | value _ _ inValue => exact inValue wellFormed
  | next result _ inRest => exact inRest (run_wellFormed returns wellFormed result)

end Walks

/-! ## Scripts -/

theorem declaredParameters_wellFormed {definition : FunctionDefinition} {name : Text}
    {position : Nat} {frame : Frame}
    (found : (declaredParameters definition).get? name = some (position, frame)) :
    frame.WellFormed := by
  rcases Table.get?_insertAll found with inEmpty | ⟨entry, member, isEntry⟩
  · simp at inEmpty
  · obtain ⟨⟨parameter, index⟩, _, isParameter⟩ := List.mem_filterMap.mp member
    obtain ⟨hint, _, hinted⟩ := Option.bind_eq_some_iff.mp isParameter
    obtain ⟨declared, isDeclared, isWritten⟩ := Option.bind_eq_some_iff.mp hinted
    cases isWritten
    cases isEntry
    exact wellFormed_of_declaredFrame? hint frame isDeclared

theorem signature_wellFormed {definition : FunctionDefinition} {signature : Signature}
    (isSigned : signature? definition = some signature) : signature.WellFormed := by
  unfold signature? at isSigned
  simp only at isSigned
  split at isSigned
  · cases isSigned
  · cases isSigned
    refine ⟨fun name position frame found => declaredParameters_wellFormed found, ?_⟩
    intro frame isReturned
    obtain ⟨hint, _, isDeclared⟩ := Option.bind_eq_some_iff.mp isReturned
    exact wellFormed_of_declaredFrame? hint frame isDeclared

theorem returns_foldl_declareParameter (parameters : List Parameter) (declared : Declarations) :
    (parameters.foldl declareParameter declared).returns = declared.returns := by
  induction parameters generalizing declared with
  | nil => rfl
  | cons parameter rest inRest =>
    rw [List.foldl_cons, inRest, declareParameter]
    split <;> rfl

theorem declarations_returns_wellFormed (definition : FunctionDefinition) :
    ∀ frame ∈ (declarations definition).returns, frame.WellFormed := by
  intro frame isReturned
  have before : (definition.regularParameters.foldl declareParameter {}).returns = none :=
    returns_foldl_declareParameter definition.regularParameters {}
  rw [declarations, declareReturn] at isReturned
  split at isReturned
  · simp [before] at isReturned
  next declared isHinted =>
    cases isReturned
    obtain ⟨hint, _, hinted⟩ := Option.bind_eq_some_iff.mp isHinted
    exact wellFormed_of_declaredFrame? hint frame (by simp [declaredFrame?, hinted])
  · simp [before] at isReturned

theorem summaryAfter_wellFormed (definition : FunctionDefinition) {walk : Walk}
    (wellFormed : walk.WellFormed) : (summaryAfter definition walk).WellFormed :=
  ⟨inputs_hold wellFormed_of_declaredFrame? definition, declarations_returns_wellFormed definition,
    wellFormed.returned⟩

theorem memo_wellFormed_after {registry : Registry}
    (returns : registry.ReturnsHold Frame.WellFormed) {depth : Nat}
    {definition : FunctionDefinition} {memo after : Memo} {summary : Option Summary}
    (wellFormed : memo.WellFormed)
    (result : analyzeFunction registry (callHelper registry depth) definition memo =
      .ok (summary, after)) : after.WellFormed := by
  cases analyzed : isAnalyzed definition with
  | false =>
    rw [analyzeFunction_of_not_analyzed analyzed] at result
    cases result
    exact wellFormed
  | true =>
    rw [analyzeFunction_of_analyzed analyzed] at result
    have yields := walkBlock_yields_wellFormed returns depth definition.body
      (analysisStart_wellFormed definition wellFormed)
    unfold Walker.Yields at yields
    split at result
    · cases result
    next walk walked =>
      cases result
      rw [walked] at yields
      exact yields.memo

theorem AnalysisPasses.wellFormed {registry : Registry}
    (returns : registry.ReturnsHold Frame.WellFormed) {definitions : List FunctionDefinition}
    {memo : Memo} {point : Point} (passes : AnalysisPasses registry definitions memo point)
    (wellFormed : memo.WellFormed) : point.WellFormed := by
  induction passes with
  | here _ passes => exact passes.wellFormed returns (analysisStart_wellFormed _ wellFormed)
  | later result _ inRest => exact inRest (memo_wellFormed_after returns wellFormed result)

/-- Every frame that the analysis of a script ever holds is well-formed: those of signatures,
those of all points that it passes through, and those of its summaries. -/
theorem analysis_wellFormed (statements : List Stmt) :
    (∀ name info, (registryOf statements).get? name = some info →
      ∀ signature ∈ info.signature, signature.WellFormed) ∧
    (∀ point, AnalysisPasses (registryOf statements) (functionsOf statements) .empty point →
      point.WellFormed) ∧
    ∀ summaries, analyzeStatements statements = .ok summaries →
      ∀ summary ∈ summaries, summary.WellFormed := by
  have returns := returns_wellFormed statements
  refine ⟨fun name info registered signature isSigned => ?_, fun point passes => ?_,
    fun summaries analyzed => ?_⟩
  · obtain ⟨_, signed, _⟩ := sound_registryOf statements name info registered
    exact signature_wellFormed (signed ▸ isSigned)
  · exact passes.wellFormed returns Memo.wellFormed_empty
  · have ends : Ends AnyFault (List.Forall₂ (fun _ summary => summary.WellFormed ∧ True) _)
        (analyzeStatements statements) :=
      analyzeAll_ends
        (fun definition _ _ memo wellFormed =>
          (walkBlock_yields_wellFormed returns _ definition.body
            (analysisStart_wellFormed definition wellFormed)).mono
              fun _ after holds => ⟨⟨summaryAfter_wellFormed definition holds, trivial⟩, holds.memo⟩)
        Memo.wellFormed_empty
    rw [analyzed] at ends
    exact ((List.forall₂_and_left _ _).mp (List.Forall₂.flip ends)).1

def leftJoin : Expr :=
  .call (.attribute (.name "l") "join") [.name "r"]
    [.mk (some "on") (.literal (.text "k")), .mk (some "how") (.literal (.text "left"))]

def joiner : FunctionDefinition where
  header := { name := "h", line := 1, parameters := { regular := [{ name := "l" }, { name := "r" }] } }
  body := [.returning (some leftJoin)]

def gatherer : FunctionDefinition where
  header :=
    { name := "f", line := 3
      parameters :=
        { regular := [
            { name := "a"
              hint := some (.subscript (.name "DF") (.literal (.text "\x7bk: Int64\x7d"))) },
            { name := "b"
              hint := some (.subscript (.name "DF")
                (.literal (.text "\x7bk: Int64, v: Int64?\x7d"))) }] } }
  body := [
    .assign [.name "j"] (.call (.name "h") [.name "a", .name "b"] []),
    .returning (some (.call
      (.attribute (.call (.attribute (.name "j") "group_by") [.literal (.text "k")] []) "agg")
      [.call (.attribute (.call (.attribute (.name "pl") "col") [.literal (.text "v")] []) "list")
        [] []] []))]

def gathering : List Stmt :=
  [.function false joiner.header joiner.body, .function false gatherer.header gatherer.body]

theorem gathering_wellFormed :
    (∃ after frame,
      AnalysisPasses (registryOf gathering) (functionsOf gathering) .empty ⟨after, some frame⟩ ∧
      Point.WellFormed ⟨after, some frame⟩) ∧
    ∃ summary, analyzeStatements gathering = .ok [summary] ∧ summary.WellFormed := by
  obtain ⟨_, points, summaries⟩ := analysis_wellFormed gathering
  refine ⟨?_, ?_⟩
  · have joined : Steps.holdsAfter
        (fun frames after => ordered frames && (after.memo.find? "h" frames).isNone &&
          Steps.holdsAfter (fun frame _ => frame.isSome)
            (infer (registryOf gathering) (callHelper (registryOf gathering) 151) leftJoin
              (callStart ⟨joiner, none⟩ frames after)))
        (inferAll (registryOf gathering) (callHelper (registryOf gathering) 152)
          [.name "a", .name "b"] (analysisStart gatherer .empty)) = true := by
      decide +kernel
    obtain ⟨frames, before, given, joins⟩ := Steps.exists_of_holdsAfter joined
    simp only [Bool.and_eq_true, Option.isNone_iff_eq_none] at joins
    obtain ⟨⟨isOrdered, unknown⟩, finds⟩ := joins
    obtain ⟨_, after, found, isSome⟩ := Steps.exists_of_holdsAfter finds
    obtain ⟨frame, rfl⟩ := Option.isSome_iff_exists.mp isSome
    have passes : AnalysisPasses (registryOf gathering) (functionsOf gathering) .empty
        ⟨after, some frame⟩ :=
      .later (analyzeFunction_of_not_analyzed (by decide +kernel) .empty)
        (.here (by decide +kernel)
          (.value rfl (.body ⟨rfl, rfl⟩ given isOrdered unknown (.value rfl (.found found)))))
    exact ⟨after, frame, passes, points _ passes⟩
  · have analyzed : Steps.holdsOf (fun summaries => summaries.length == 1)
        (analyzeStatements gathering) = true := by
      decide +kernel
    obtain ⟨_, isAnalyzed, single⟩ := Steps.exists_of_holdsOf analyzed
    obtain ⟨summary, rfl⟩ := List.length_eq_one_iff.mp (beq_iff_eq.mp single)
    exact ⟨summary, isAnalyzed, summaries _ isAnalyzed _ List.mem_cons_self⟩

end FrameCheck.Analysis
