import FrameCheck.Proofs.LostFrames
import FrameCheck.Proofs.SelectedColumns
import FrameCheck.Proofs.ServingOperations

/-!
The columns that the arguments of `select` and `with_columns` refer to. An argument is built from
references, literals, operators and labels, to any depth. Of its references one at most is looked
up, the leading one: of an operator only the left operand is followed, and a label on a label
hides what they are on. A call that the analysis of a function comes to reports the leading
references that its frame lacks, in the order of its arguments, and these reports are among the
problems of the function.
-/

namespace FrameCheck.Analysis

open Syntax Typing

/-! ## Column terms -/

/-- An expression that is built from references to columns, literals, operators and labels. -/
inductive ColumnTerm where
  | reference (name : Text) (nonempty : name.isEmpty = false)
  | literal (value : Literal)
  | arithmetic (left : ColumnTerm) (operator : BinaryOperator) (right : ColumnTerm)
  | labelled (inner : ColumnTerm) (label : Text)

namespace ColumnTerm

def expression : ColumnTerm → Expr
  | reference name _ => .call (.attribute (.name "pl") "col") [.literal (.text name)] []
  | literal value => .call (.attribute (.name "pl") "lit") [.literal value] []
  | arithmetic left operator right => .binary left.expression operator right.expression
  | labelled inner label => .call (.attribute inner.expression "alias") [.literal (.text label)] []

def references : ColumnTerm → List Text
  | reference name _ => [name]
  | literal _ => []
  | arithmetic left _ right => left.references ++ right.references
  | labelled inner _ => inner.references

def isLabelled : ColumnTerm → Bool
  | labelled _ _ => true
  | _ => false

def leading? : ColumnTerm → Option Text
  | reference name _ => some name
  | literal _ => none
  | arithmetic left _ _ => left.leading?
  | labelled inner _ => if inner.isLabelled then none else inner.leading?

theorem splitAlias_expression {term : ColumnTerm} (bare : term.isLabelled = false) :
    splitAlias term.expression = (.none, term.expression) := by
  cases term with
  | labelled inner label => cases bare
  | _ => rfl

end ColumnTerm

/-! ## Failed searches -/

def failure? {ε : Type u} {α : Type v} : Except ε α → Option ε
  | .error error => some error
  | .ok _ => none

theorem failure?_bind_pure {ε : Type u} {α β : Type v} (result : Except ε α)
    (transform : α → β) :
    failure? (do return transform (← result) : Except ε β) = failure? result := by
  cases result <;> rfl

def vainSearch? (frame : Frame) (argument : Expr) : Option ColumnNotFound :=
  failure? (outputColumn frame argument)

def lacking? (frame : Frame) (name : Text) : Option ColumnNotFound :=
  match frame.column? (.text name) with
  | some _ => none
  | none => some ⟨.text name, frame.names⟩

section Searches

variable {frame : Frame}

theorem missing_outputColumns (arguments : List Expr) :
    (outputColumns frame arguments).2 = arguments.filterMap (vainSearch? frame) := by
  induction arguments with
  | nil => rfl
  | cons first rest inRest =>
    cases result : outputColumn frame first with
    | error error =>
      have fails : vainSearch? frame first = some error := by rw [vainSearch?, result, failure?]
      rw [outputColumns_cons_of_error result, List.filterMap_cons_some fails, inRest]
    | ok column =>
      have succeeds : vainSearch? frame first = none := by rw [vainSearch?, result, failure?]
      rw [outputColumns_cons_of_ok result, List.filterMap_cons_none succeeds, inRest]

theorem columnUnder_binary (label : Literal) (left : Expr) (operator : BinaryOperator)
    (right : Expr) :
    columnUnder frame label (.binary left operator right) =
      (do return arithmeticColumn label (← outputColumn frame left)) := by
  unfold outputColumn
  fun_cases splitAlias left with
  | case1 => rw [columnUnder]
  | case2 _ notAlias =>
    rw [columnUnder]
    exact notAlias

theorem failure?_plainColumn_of_name {name : Literal} {expression : Expr}
    (named : columnName? expression = some name) (notVoid : name.isVoid = false)
    (label : Literal) :
    failure? (plainColumn frame label expression) = failure? (columnType name frame) := by
  rw [plainColumn, named]
  simp only [notVoid]
  exact failure?_bind_pure _ _

theorem failure?_plainColumn_of_unnamed {expression : Expr}
    (unnamed : columnName? expression = none) (label : Literal) :
    failure? (plainColumn frame label expression) = none := by
  rw [plainColumn, unnamed]
  dsimp only
  split
  · split <;> rfl
  · rfl

theorem failure?_plainColumn (label other : Literal) (expression : Expr) :
    failure? (plainColumn frame label expression) =
      failure? (plainColumn frame other expression) := by
  cases named : columnName? expression with
  | none => rw [failure?_plainColumn_of_unnamed named, failure?_plainColumn_of_unnamed named]
  | some name =>
    cases isVoid : name.isVoid with
    | true => simp only [plainColumn, named, isVoid, if_true]
    | false =>
      rw [failure?_plainColumn_of_name named isVoid, failure?_plainColumn_of_name named isVoid]

theorem columnUnder_of_not_binary {expression : Expr}
    (notBinary : ∀ left operator right, expression = .binary left operator right → False)
    (label : Literal) :
    columnUnder frame label expression = plainColumn frame label expression := by
  rw [columnUnder]
  · exact fun _ _ _ _ _ _ => notBinary _ _ _
  · exact notBinary

theorem failure?_columnUnder (label other : Literal) (expression : Expr) :
    failure? (columnUnder frame label expression) =
      failure? (columnUnder frame other expression) := by
  by_cases isBinary : ∃ left operator right, expression = .binary left operator right
  · obtain ⟨left, operator, right, rfl⟩ := isBinary
    rw [columnUnder_binary, columnUnder_binary, failure?_bind_pure, failure?_bind_pure]
  · have notBinary : ∀ left operator right, expression = .binary left operator right → False :=
      fun left operator right same => isBinary ⟨left, operator, right, same⟩
    rw [columnUnder_of_not_binary notBinary, columnUnder_of_not_binary notBinary,
      failure?_plainColumn label other]

theorem vainSearch?_of_bare {term : ColumnTerm} (bare : term.isLabelled = false)
    (label : Literal) :
    vainSearch? frame term.expression = failure? (columnUnder frame label term.expression) := by
  rw [vainSearch?, outputColumn, ColumnTerm.splitAlias_expression bare]
  exact failure?_columnUnder _ _ _

theorem vainSearch?_expression (term : ColumnTerm) :
    vainSearch? frame term.expression = term.leading?.bind (lacking? frame) := by
  -- Along the term: an operator hands the search to its left operand, and a label to what it is
  -- on, unless that has a label too.
  induction term with
  | reference name nonempty =>
    have named : columnName? (ColumnTerm.reference name nonempty).expression = some (.text name) :=
      rfl
    rw [vainSearch?_of_bare rfl .none, columnUnder_of_not_binary (by simp [ColumnTerm.expression]),
      failure?_plainColumn_of_name named nonempty, columnType, ColumnTerm.leading?,
      Option.bind_some, lacking?]
    cases frame.column? (.text name) <;> rfl
  | literal value =>
    rw [vainSearch?_of_bare rfl .none, ColumnTerm.expression, columnUnder_of_not_binary (by simp),
      failure?_plainColumn_of_unnamed rfl, ColumnTerm.leading?, Option.bind_none]
  | arithmetic left operator right inLeft _ =>
    rw [vainSearch?_of_bare rfl .none, ColumnTerm.expression, columnUnder_binary,
      failure?_bind_pure]
    exact inLeft
  | labelled inner label inInner =>
    rw [ColumnTerm.leading?]
    cases labelled : inner.isLabelled with
    | false =>
      rw [if_neg (by simp), ← inInner]
      exact (vainSearch?_of_bare labelled _).symm
    | true =>
      cases inner with
      | labelled under underLabel =>
        have unnamed : columnName? (under.labelled underLabel).expression = none := by
          simp [columnName?, ColumnTerm.expression]
        show failure? (columnUnder frame (.text label) (under.labelled underLabel).expression) =
          none
        rw [columnUnder_of_not_binary (by simp [ColumnTerm.expression]),
          failure?_plainColumn_of_unnamed unnamed]
      | _ => cases labelled

theorem vainSearch?_eq_some_iff {term : ColumnTerm} {name : Text}
    (missing : frame.column? (.text name) = none) :
    vainSearch? frame term.expression = some ⟨.text name, frame.names⟩ ↔
      term.leading? = some name := by
  rw [vainSearch?_expression, Option.bind_eq_some_iff]
  constructor
  · rintro ⟨leading, isLeading, lacks⟩
    unfold lacking? at lacks
    split at lacks
    · cases lacks
    · cases lacks
      exact isLeading
  · intro isLeading
    exact ⟨name, isLeading, by rw [lacking?, missing]⟩

end Searches

/-! ## Expressions that a task comes to -/

/-- A task comes to an expression, in the walk that it has then. The bodies of called functions
are left out: their problems are their own. -/
inductive Reaches (registry : Registry) (depth : Nat) : Task → Walk → Expr → Walk → Prop
  | here {value : Expr} {walk : Walk} : Reaches registry depth (.expression value) walk value walk
  | argument {function : String} {info : FunctionInfo} {before later : List Expr}
      {argument target : Expr} {keywords : List Keyword} {walk middle point : Walk}
      {frames : List (Option Frame)} (registered : registry.get? function = some info)
      (result : inferAll registry (callHelper registry depth) before walk = .ok frames middle)
      (reaches : Reaches registry depth (.expression argument) middle target point) :
      Reaches registry depth
        (.expression (.call (.name function) (before ++ argument :: later) keywords)) walk target
        point
  | grouped {grouped target : Expr} {keys items : List Expr}
      {keyKeywords keywords : List Keyword} {walk point : Walk}
      (reaches : Reaches registry depth (.expression grouped) walk target point) :
      Reaches registry depth
        (.expression (.call
          (.attribute (.call (.attribute grouped "group_by") keys keyKeywords) "agg") items
          keywords)) walk target point
  | receiver {receiver target : Expr} {method : String} {arguments : List Expr}
      {keywords : List Keyword} {walk point : Walk} (notAgg : method ≠ "agg")
      (reaches : Reaches registry depth (.expression receiver) walk target point) :
      Reaches registry depth (.expression (.call (.attribute receiver method) arguments keywords))
        walk target point
  | right {receiver right target : Expr} {others : List Expr} {keywords : List Keyword}
      {walk middle point : Walk} {left : Frame}
      (result : infer registry (callHelper registry depth) receiver walk = .ok (some left) middle)
      (reaches : Reaches registry depth (.expression right) middle target point) :
      Reaches registry depth
        (.expression (.call (.attribute receiver "join") (right :: others) keywords)) walk target
        point
  | value {effect : Effect} {rest : List Effect} {value target : Expr} {walk point : Walk}
      (asked : effect.value? = some value)
      (reaches : Reaches registry depth (.expression value) walk target point) :
      Reaches registry depth (.effects (effect :: rest)) walk target point
  | next {effect : Effect} {rest : List Effect} {target : Expr} {walk middle point : Walk}
      (result : effect.run registry (callHelper registry depth) walk = .ok ⟨⟩ middle)
      (reaches : Reaches registry depth (.effects rest) middle target point) :
      Reaches registry depth (.effects (effect :: rest)) walk target point

def Task.Ends (registry : Registry) (depth : Nat) (walk after : Walk) : Task → Prop
  | .expression value => ∃ frame, infer registry (callHelper registry depth) value walk =
    .ok frame after
  | .effects all => runEffects registry (callHelper registry depth) all walk = .ok ⟨⟩ after

section Runs

variable {registry : Registry} {depth : Nat} {walk after : Walk}

theorem exists_of_onFrame {step : Walker (Option Frame)} {next : Frame → Walker (Option Frame)}
    {result : Option Frame} (extending : ∀ frame, Walker.Extending (next frame))
    (ended : (do
      match ← step with
      | some frame => next frame
      | none => return none : Walker (Option Frame)) walk = .ok result after) :
    ∃ frame middle, step walk = .ok frame middle ∧ middle.Grows after := by
  obtain ⟨frame?, middle, isStep, isNext⟩ := Steps.bind_eq_ok_iff.mp ended
  refine ⟨frame?, middle, isStep, ?_⟩
  cases frame? with
  | none =>
    cases isNext
    exact .of_eq rfl
  | some frame => exact ((extending frame).ok isNext).grows

theorem exists_of_inferAll {before later : List Expr} {argument : Expr}
    {frames all : List (Option Frame)} {middle : Walk}
    (result : inferAll registry (callHelper registry depth) before walk = .ok frames middle)
    (ended : inferAll registry (callHelper registry depth) (before ++ argument :: later) walk =
      .ok all after) :
    ∃ frame last, infer registry (callHelper registry depth) argument middle = .ok frame last ∧
      last.Grows after := by
  induction before generalizing walk frames all with
  | nil =>
    cases result
    rw [List.nil_append, inferAll] at ended
    obtain ⟨frame, last, found, inLater⟩ := Steps.bind_eq_ok_iff.mp ended
    obtain ⟨others, _, given, isAfter⟩ := Steps.bind_eq_ok_iff.mp inLater
    cases isAfter
    exact ⟨frame, last, found,
      (((infer_extending (callHelper_extending registry depth)).2 later).ok given).grows⟩
  | cons first rest inRest =>
    rw [inferAll] at result
    rw [List.cons_append, inferAll] at ended
    obtain ⟨frame, second, found, inOthers⟩ := Steps.bind_eq_ok_iff.mp result
    obtain ⟨_, _, isFound, inAll⟩ := Steps.bind_eq_ok_iff.mp ended
    rw [found] at isFound
    cases isFound
    obtain ⟨_, _, given, isMiddle⟩ := Steps.bind_eq_ok_iff.mp inOthers
    obtain ⟨_, _, givenAll, isAfter⟩ := Steps.bind_eq_ok_iff.mp inAll
    cases isMiddle
    cases isAfter
    exact inRest given givenAll

theorem exists_of_run {effect : Effect} {value : Expr} (asked : effect.value? = some value)
    (ended : effect.run registry (callHelper registry depth) walk = .ok ⟨⟩ after) :
    ∃ frame middle, infer registry (callHelper registry depth) value walk = .ok frame middle ∧
      middle.Grows after := by
  cases effect with
  | declare name hint => cases asked
  | assign name value =>
    cases asked
    obtain ⟨frame, middle, found, rfl⟩ := run_assign_iff.mp ended
    exact ⟨frame, middle, found, .of_eq (middle.problems_assigned name frame)⟩
  | give value =>
    cases asked
    obtain ⟨frame, middle, found, rfl⟩ := run_give_iff.mp ended
    exact ⟨frame, middle, found, .of_eq rfl⟩

theorem exists_of_method {receiver : Expr} {method : String} {arguments : List Expr}
    {keywords : List Keyword} {result : Option Frame} (notAgg : method ≠ "agg")
    (ended : infer registry (callHelper registry depth)
      (.call (.attribute receiver method) arguments keywords) walk = .ok result after) :
    ∃ frame middle, infer registry (callHelper registry depth) receiver walk = .ok frame middle ∧
      middle.Grows after := by
  by_cases isJoin : method = "join" ∧ ∃ right others, arguments = right :: others
  · obtain ⟨rfl, right, others, rfl⟩ := isJoin
    rw [infer] at ended
    refine exists_of_onFrame (fun left => ?_) ended
    exact .onFrame ((infer_extending (callHelper_extending registry depth)).1 right)
      fun frame => joinCall_extending left frame keywords
  · rw [infer] at ended
    · refine exists_of_onFrame (fun frame => ?_) ended
      split
      · exact selectCall_extending frame arguments
      · split
        · exact withColumnsCall_extending frame arguments
        · exact .pure none
    · exact fun _ _ _ _ isAgg => notAgg isAgg
    · exact notAgg
    · exact fun right others isCons named => isJoin ⟨named, right, others, isCons⟩

theorem Reaches.ends {task : Task} {target : Expr} {point : Walk}
    (reaches : Reaches registry depth task walk target point)
    (ends : task.Ends registry depth walk after) :
    ∃ last, (Task.expression target).Ends registry depth point last ∧ last.Grows after := by
  -- Along the way to the target: each step on it ended, and what followed it only added problems.
  induction reaches generalizing after with
  | here => exact ⟨after, ends, .of_eq rfl⟩
  | argument registered result _ inArgument =>
    obtain ⟨frame, called⟩ := ends
    rw [infer, registered] at called
    obtain ⟨frames, given, isGiven, answered⟩ := Steps.bind_eq_ok_iff.mp called
    obtain ⟨found, middle, isFound, inOthers⟩ := exists_of_inferAll result isGiven
    obtain ⟨last, isLast, grows⟩ := inArgument ⟨found, isFound⟩
    have answers :=
      (functionCall_extending (callHelper_extending registry depth) _ frames).ok answered
    exact ⟨last, isLast, (grows.trans inOthers).trans answers.grows⟩
  | grouped _ inGrouped =>
    obtain ⟨frame, called⟩ := ends
    rw [infer] at called
    obtain ⟨found, middle, isFound, later⟩ :=
      exists_of_onFrame (fun frame => aggregateCall_extending frame _ _) called
    obtain ⟨last, isLast, grows⟩ := inGrouped ⟨found, isFound⟩
    exact ⟨last, isLast, grows.trans later⟩
  | receiver notAgg _ inReceiver =>
    obtain ⟨frame, called⟩ := ends
    obtain ⟨found, middle, isFound, later⟩ := exists_of_method notAgg called
    obtain ⟨last, isLast, grows⟩ := inReceiver ⟨found, isFound⟩
    exact ⟨last, isLast, grows.trans later⟩
  | right result _ inRight =>
    obtain ⟨frame, called⟩ := ends
    rw [infer] at called
    rw [Steps.bind_of_ok result] at called
    obtain ⟨found, middle, isFound, later⟩ :=
      exists_of_onFrame (fun frame => joinCall_extending _ frame _) called
    obtain ⟨last, isLast, grows⟩ := inRight ⟨found, isFound⟩
    exact ⟨last, isLast, grows.trans later⟩
  | value asked _ inValue =>
    obtain ⟨_, middle, first, others⟩ := Steps.bind_eq_ok_iff.mp ends
    obtain ⟨found, inner, isFound, later⟩ := exists_of_run asked first
    obtain ⟨last, isLast, grows⟩ := inValue ⟨found, isFound⟩
    exact ⟨last, isLast, (grows.trans later).trans (runEffects_grows others)⟩
  | next result _ inRest =>
    obtain ⟨_, middle, first, others⟩ := Steps.bind_eq_ok_iff.mp ends
    rw [result] at first
    cases first
    exact inRest others

theorem problems_of_report {problems : List Problem} {value result : Option Frame}
    (ended : (do
      Walker.report problems
      return value : Walker (Option Frame)) walk = .ok result after) :
    after.problems = walk.problems ++ problems := by
  rcases reporting_eq_ok_iff.mp ended with ⟨reported, _⟩
  rcases report_eq_ok_iff.mp reported with ⟨_, rfl⟩
  rfl

theorem problems_of_columnCall {receiver : Expr} {method : String} {arguments : List Expr}
    {keywords : List Keyword} {frame : Frame} {result : Option Frame} {middle : Walk}
    (isColumnCall : method = "select" ∨ method = "with_columns")
    (onFrame : infer registry (callHelper registry depth) receiver walk = .ok (some frame) middle)
    (ended : infer registry (callHelper registry depth)
      (.call (.attribute receiver method) arguments keywords) walk = .ok result after) :
    after.problems =
      middle.problems ++ (arguments.filterMap (vainSearch? frame)).map .unknownColumn := by
  rw [← missing_outputColumns]
  rcases isColumnCall with rfl | rfl
  all_goals
    rw [infer, Steps.bind_of_ok onFrame] at ended
    · exact problems_of_report ended
    all_goals simp

end Runs

/-! ## Reported references -/

/-- A call of `select` or `with_columns` that the analysis of a function comes to reports what its
arguments look for in vain, and the function has these problems. Of the columns that an argument
refers to and the frame lacks, it looks for the leading one. -/
theorem leading_references_reported {registry : Registry} {depth : Nat}
    {definition : FunctionDefinition} {memo remembered : Memo} {summary : Summary}
    (analyzed : analyzeFunction registry (callHelper registry depth) definition memo =
      .ok (some summary, remembered))
    {receiver : Expr} {method : String} {arguments : List Expr} {keywords : List Keyword}
    {walk middle : Walk} {frame : Frame}
    (isColumnCall : method = "select" ∨ method = "with_columns")
    (reaches : Reaches registry depth (.effects (blockEffects definition.body))
      (analysisStart definition memo) (.call (.attribute receiver method) arguments keywords) walk)
    (onFrame : infer registry (callHelper registry depth) receiver walk =
      .ok (some frame) middle) :
    (∃ result after,
      infer registry (callHelper registry depth)
        (.call (.attribute receiver method) arguments keywords) walk = .ok result after ∧
      after.problems =
        middle.problems ++ (arguments.filterMap (vainSearch? frame)).map .unknownColumn ∧
      after.problems <+: summary.problems) ∧
    ∀ term : ColumnTerm, term.expression ∈ arguments →
      ∀ name ∈ term.references, frame.column? (.text name) = none →
        (vainSearch? frame term.expression = some ⟨.text name, frame.names⟩ ↔
          term.leading? = some name) ∧
        (term.leading? = some name →
          .unknownColumn ⟨.text name, frame.names⟩ ∈ summary.problems) := by
  obtain ⟨last, walked, rfl⟩ := exists_walk_of_summary analyzed
  rw [walkBlock_eq_runEffects] at walked
  obtain ⟨after, ⟨result, ended⟩, added, isLast, _⟩ := reaches.ends walked
  have reports := problems_of_columnCall isColumnCall onFrame ended
  refine ⟨⟨result, after, ended, reports, added, isLast.symm⟩, ?_⟩
  intro term isArgument name _ missing
  refine ⟨vainSearch?_eq_some_iff missing, fun isLeading => ?_⟩
  have reported : Problem.unknownColumn ⟨.text name, frame.names⟩ ∈ after.problems := by
    rw [reports]
    refine List.mem_append_right _ (List.mem_map_of_mem (List.mem_filterMap.mpr ?_))
    exact ⟨term.expression, isArgument, (vainSearch?_eq_some_iff missing).mpr isLeading⟩
  show _ ∈ last.problems
  rw [isLast]
  exact List.mem_append_left _ reported

def columnCall (method : String) (arguments : List Expr) (keywords : List Keyword) : Expr :=
  .call (.attribute (.name "d") method) arguments keywords

def returningValue (value : Expr) : FunctionDefinition :=
  Report.declaringColumn [.returning (some value)]

def analysisOnFrame (definition : FunctionDefinition) : Option (Summary × Frame) :=
  match analyzeFunction .empty (callHelper .empty 1) definition .empty,
      (analysisStart definition .empty).frames.get? "d" with
  | .ok (some summary, _), some frame => some (summary, frame)
  | _, _ => none

theorem exists_of_analysisOnFrame {definition : FunctionDefinition} {summary : Summary}
    {frame : Frame} (analysis : analysisOnFrame definition = some (summary, frame)) :
    (∃ remembered, analyzeFunction .empty (callHelper .empty 1) definition .empty =
      .ok (some summary, remembered)) ∧
    infer .empty (callHelper .empty 1) (.name "d") (analysisStart definition .empty) =
      .ok (some frame) (analysisStart definition .empty) := by
  unfold analysisOnFrame at analysis
  split at analysis
  next remembered _ analyzed found =>
    cases analysis
    refine ⟨⟨_, analyzed⟩, ?_⟩
    rw [infer]
    show EStateM.Result.ok _ _ = _
    rw [found]
  · cases analysis

def columnA : ColumnTerm := .reference "a" (by decide)

def columnB : ColumnTerm := .reference "b" (by decide)

def scaledSum : ColumnTerm :=
  .arithmetic (.labelled (.arithmetic columnB .add columnA) "c") .multiply (.literal (.int 2))

theorem scaledSum_reported :
    let definition := returningValue (.call
      (.attribute (columnCall "select" [scaledSum.expression] []) "with_columns")
      [columnA.expression] [])
    ∃ summary frame, analysisOnFrame definition = some (summary, frame) ∧
      frame.column? (.text "b") = none ∧
      .unknownColumn ⟨.text "b", frame.names⟩ ∈ summary.problems := by
  intro definition
  have lacks : ∃ analysis ∈ analysisOnFrame definition,
      (analysis.2.column? (.text "b")).isNone = true := by
    decide +kernel
  obtain ⟨⟨summary, frame⟩, isAnalysis, missing⟩ := lacks
  rw [Option.isNone_iff_eq_none] at missing
  obtain ⟨⟨_, analyzed⟩, onFrame⟩ := exists_of_analysisOnFrame isAnalysis
  have reaches : Reaches .empty 1 (.effects (blockEffects definition.body))
      (analysisStart definition .empty) (columnCall "select" [scaledSum.expression] [])
      (analysisStart definition .empty) :=
    .value rfl (.receiver (by decide) .here)
  have reported := (leading_references_reported analyzed (.inl rfl) reaches onFrame).2 scaledSum
    List.mem_cons_self "b" List.mem_cons_self missing
  exact ⟨summary, frame, isAnalysis, missing, reported.2 rfl⟩

def labelledSum : ColumnTerm := .labelled (.arithmetic columnA .add columnB) "c"

def relabelled : ColumnTerm := .labelled (.labelled columnB "x") "y"

/-- A function that returns the frame of a call has no problems, although a term refers to a column
that the frame of the call lacks. -/
def Overlooks (call : Expr) (term : ColumnTerm) : Prop :=
  ∃ analysis ∈ analysisOnFrame (returningValue call),
    analysis.1.problems.isEmpty = true ∧
    ∃ name ∈ term.references, (analysis.2.column? (.text name)).isNone = true

instance (call : Expr) (term : ColumnTerm) : Decidable (Overlooks call term) :=
  inferInstanceAs (Decidable (∃ analysis ∈ _, _))

/-- On the right of an operator, under two labels, and in an argument with a name, a missing column
is not reported. -/
theorem overlooked_references :
    Overlooks (columnCall "select" [labelledSum.expression] []) labelledSum ∧
    Overlooks (columnCall "with_columns" [relabelled.expression] []) relabelled ∧
    Overlooks (columnCall "with_columns" [] [.mk (some "x") columnB.expression]) columnB := by
  decide +kernel

end FrameCheck.Analysis
