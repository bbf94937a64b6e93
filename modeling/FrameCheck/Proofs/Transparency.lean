import FrameCheck.Proofs.Serving
import FrameCheck.Proofs.TwoWalks
import FrameCheck.Proofs.WellFormed

/-!
Look-ups change nothing but the order of columns. What an analysis remembers of a function is
what the body of the function yields, for all arguments that are alike, as long as all joins on
the way are clear. So an analysis that looks up agrees with one that goes through the bodies
every time.
-/

namespace FrameCheck.Analysis

open Syntax Typing

/-! ## Arguments that are alike -/

theorem sameArguments_alike {left right : List (Option Frame)}
    (same : sameArguments left right = true) : ArgumentsAlike left right := by
  fun_induction sameArguments left right with
  | case1 => exact .nil
  | case2 first lefts second rights inRest =>
    obtain ⟨firstSame, restSame⟩ := Bool.and_eq_true_iff.mp same
    refine .cons ?_ (inRest restSame)
    unfold sameArgument at firstSame
    split at firstSame
    · exact .none
    · exact .some (Frame.alike_of_sameColumns firstSame)
    · cases firstSame
  | case3 => cases same

theorem optionAlike_symm {left right : Option Frame} (alike : Option.Rel Frame.Alike left right) :
    Option.Rel Frame.Alike right left := by
  cases alike with
  | none => exact .none
  | some frames => exact .some frames.symm

theorem optionAlike_trans {left middle right : Option Frame}
    (first : Option.Rel Frame.Alike left middle) (second : Option.Rel Frame.Alike middle right) :
    Option.Rel Frame.Alike left right := by
  cases first with
  | none => exact second
  | some frames =>
    cases second with
    | some others => exact .some (frames.trans others)

theorem ArgumentsAlike.symm {left right : List (Option Frame)} (alike : ArgumentsAlike left right) :
    ArgumentsAlike right left :=
  List.Forall₂.flip (alike.imp fun _ _ => optionAlike_symm)

theorem ArgumentsAlike.trans {left middle right : List (Option Frame)}
    (first : ArgumentsAlike left middle) (second : ArgumentsAlike middle right) :
    ArgumentsAlike left right := by
  induction first generalizing right with
  | nil => exact second
  | cons arguments _ inRest =>
    cases second with
    | cons others restAlike => exact .cons (optionAlike_trans arguments others) (inRest restAlike)

abbrev ArgumentsPlain (arguments : List (Option Frame)) : Prop :=
  ∀ argument ∈ arguments, ∀ frame ∈ argument, Frame.Plain frame

theorem ArgumentsAlike.paired {left right : List (Option Frame)}
    (alike : ArgumentsAlike left right) (leftPlain : ArgumentsPlain left)
    (rightPlain : ArgumentsPlain right) :
    List.Forall₂ (Option.Rel Frame.Paired) left right := by
  induction alike with
  | nil => exact .nil
  | cons arguments _ inRest =>
    refine .cons ?_ (inRest
      (fun argument member => leftPlain argument (List.mem_cons_of_mem _ member))
      fun argument member => rightPlain argument (List.mem_cons_of_mem _ member))
    cases arguments with
    | none => exact .none
    | some frames =>
      exact .some ⟨leftPlain _ List.mem_cons_self _ rfl, rightPlain _ List.mem_cons_self _ rfl,
        frames⟩

theorem arguments_hold_of_related {related : Frame → Frame → Prop} {property : Frame → Prop}
    (implies : ∀ {first second}, related first second → property first)
    {left right : List (Option Frame)} (arguments : List.Forall₂ (Option.Rel related) left right) :
    ∀ argument ∈ left, ∀ frame ∈ argument, property frame := by
  induction arguments with
  | nil => exact List.forall_mem_nil _
  | cons frames _ inRest =>
    refine List.forall_mem_cons.mpr ⟨fun frame isGiven => ?_, inRest⟩
    cases isGiven
    cases frames with
    | some frames => exact implies frames

theorem argumentsPlain_of_paired {left right : List (Option Frame)}
    (paired : List.Forall₂ (Option.Rel Frame.Paired) left right) :
    ArgumentsPlain left ∧ ArgumentsPlain right := by
  have reversed : List.Forall₂ (Option.Rel Frame.Paired) right left := by
    refine List.Forall₂.flip (paired.imp fun first second frames => ?_)
    cases frames with
    | none => exact .none
    | some frames => exact .some frames.symm
  exact ⟨arguments_hold_of_related (fun frames => frames.leftPlain) paired,
    arguments_hold_of_related (fun frames => frames.leftPlain) reversed⟩

/-! ## The start of a call -/

theorem argumentEntries_agree {related : Frame → Frame → Prop} (parameters : List Parameter)
    {left right : List (Option Frame)} (arguments : List.Forall₂ (Option.Rel related) left right) :
    List.Forall₂ (fun first second => first.1 = second.1 ∧ related first.2 second.2)
      ((parameters.zip left).filterMap fun (parameter, argument) =>
        argument.map fun frame => ((parameter.name : Text), frame))
      ((parameters.zip right).filterMap fun (parameter, argument) =>
        argument.map fun frame => ((parameter.name : Text), frame)) := by
  induction arguments generalizing parameters with
  | nil => simp
  | cons frames _ inRest =>
    cases parameters with
    | nil => exact .nil
    | cons parameter parameters =>
      rw [List.zip_cons_cons, List.zip_cons_cons]
      cases frames with
      | none => exact inRest parameters
      | some frames => exact .cons ⟨rfl, frames⟩ (inRest parameters)

theorem bindArguments_agree {related : Frame → Frame → Prop} (parameters : List Parameter)
    {left right : List (Option Frame)} (arguments : List.Forall₂ (Option.Rel related) left right) :
    Table.Agrees related (bindArguments parameters left) (bindArguments parameters right) := by
  have empty : Table.Agrees related (Table.empty : Table Text Frame) .empty := fun _ => .none
  exact empty.insertAll (argumentEntries_agree parameters arguments)

theorem callStart_compares {comparison : Comparison} (info : FunctionInfo)
    {leftArguments rightArguments : List (Option Frame)} {left : Walk} (right : Walk)
    (arguments : comparison.Arguments leftArguments rightArguments)
    (problems : comparison.problems [] []) (memo : comparison.memory left.memo) :
    (callStart info leftArguments left).Compares comparison
      (callStart info rightArguments right) :=
  ⟨bindArguments_agree _ arguments, .none, problems, memo⟩

theorem callStart_paired {memory : Memo → Prop} (info : FunctionInfo)
    {leftArguments rightArguments : List (Option Frame)} {left : Walk} (right : Walk)
    (arguments : List.Forall₂ (Option.Rel Frame.Paired) leftArguments rightArguments)
    (memo : memory left.memo) :
    (callStart info leftArguments left).Paired memory (callStart info rightArguments right) :=
  callStart_compares info right arguments rfl memo

theorem exists_of_freshCalls {registry : Registry} {depth : Nat} {info : FunctionInfo}
    {arguments : List (Option Frame)} {walk after : Walk} {result : Option Frame}
    (run : freshCalls registry depth info arguments walk = .ok result after) :
    ∃ smaller inner value, depth = smaller + 1 ∧
      walkBlock registry (freshCalls registry smaller) info.definition.body
        (callStart info arguments walk) = .ok value inner ∧
      result = inner.returned ∧ after = { walk with memo := callMemo info arguments inner } := by
  cases depth with
  | zero => cases run
  | succ smaller =>
    cases isOrdered : ordered arguments with
    | false =>
      rw [freshCalls, callsWith_of_unordered isOrdered] at run
      cases run
    | true =>
      rw [freshCalls, callsWith_of_ordered isOrdered] at run
      simp only [Recall.never] at run
      cases walked : walkBlock registry (freshCalls registry smaller) info.definition.body
          (callStart info arguments walk) with
      | error fault inner =>
        rw [enter_of_error walked] at run
        cases run
      | ok value inner =>
        rw [enter_of_ok walked] at run
        cases run
        exact ⟨smaller, inner, value, rfl, walked, rfl, rfl⟩

/-! ## What is remembered -/

/-- What is remembered of a function is what its body yields, for all arguments that are alike
and lead to clear joins only. -/
structure Memo.Faithful (registry : Registry) (memo : Memo) : Prop where
  plain : memo.Holds Frame.Plain
  results : ∀ name info, registry.Untyped name info → ∀ entry ∈ memo.entries name,
    ∀ depth arguments walk, ArgumentsAlike entry.arguments arguments →
      ArgumentsPlain arguments → clearCall registry depth info arguments walk = true →
      ∀ result after, freshCalls registry depth info arguments walk = .ok result after →
        Option.Rel Frame.Paired (some entry.result) result

theorem Memo.faithful_empty (registry : Registry) : Memo.Faithful registry .empty :=
  ⟨Memo.holds_empty _, fun _ _ _ entry member => by simp at member⟩

section Memory

variable {registry : Registry} {depth : Nat} {name : Text} {info : FunctionInfo}

/-- Calls that look up may be fewer inside each other than those that do not, and they are used
up. -/
def Exhausted (depth freshDepth : Nat) (fault : Fault) : Prop :=
  fault = .endlessCalls ∧ depth < freshDepth

def BodyMatch (registry : Registry) (depth : Nat) (info : FunctionInfo) : Prop :=
  ∀ freshDepth left right, left.Paired (Memo.Faithful registry) right →
    clearEffects registry (freshCalls registry freshDepth) (clearCall registry freshDepth)
      (blockEffects info.definition.body) right = true →
    Walker.Follows (Exhausted depth freshDepth)
      (walkBlock registry (callsWith Memo.find? registry depth) info.definition.body) left
      (walkBlock registry (freshCalls registry freshDepth) info.definition.body) right
      fun _ leftAfter _ rightAfter => leftAfter.Paired (Memo.Faithful registry) rightAfter

theorem BodyMatch.inner (body : BodyMatch registry depth info)
    {leftArguments rightArguments : List (Option Frame)} {left right leftInner after : Walk}
    {value : Unit} {result : Option Frame} {freshDepth : Nat}
    (arguments : List.Forall₂ (Option.Rel Frame.Paired) leftArguments rightArguments)
    (memo : left.memo.Faithful registry)
    (walked : walkBlock registry (callsWith Memo.find? registry depth) info.definition.body
      (callStart info leftArguments left) = .ok value leftInner)
    (clear : clearCall registry freshDepth info rightArguments right = true)
    (run : freshCalls registry freshDepth info rightArguments right = .ok result after) :
    ∃ rightInner, leftInner.Paired (Memo.Faithful registry) rightInner ∧
      result = rightInner.returned ∧
      after = { right with memo := callMemo info rightArguments rightInner } := by
  obtain ⟨smaller, rightInner, _, rfl, rightWalked, isResult, isAfter⟩ := exists_of_freshCalls run
  have follows := body smaller _ _ (callStart_paired info right arguments memo) clear
  exact ⟨rightInner, follows.of_ok walked rightWalked, isResult, isAfter⟩

theorem Memo.Faithful.remember (body : BodyMatch registry depth info)
    (untyped : registry.Untyped name info) (isName : (info.definition.name : Text) = name)
    {arguments : List (Option Frame)} {walk inner : Walk} {value : Unit} {frame : Frame}
    (plain : ArgumentsPlain arguments) (memo : walk.memo.Faithful registry)
    (walked : walkBlock registry (callsWith Memo.find? registry depth) info.definition.body
      (callStart info arguments walk) = .ok value inner)
    (innerMemo : inner.memo.Faithful registry) (isReturned : inner.returned = some frame)
    (framePlain : frame.Plain) :
    (inner.memo.remember info.definition.name arguments frame).Faithful registry := by
  refine ⟨innerMemo.plain.remember _ _ framePlain, ?_⟩
  intro other otherInfo isUntyped entry member freshDepth others right alike othersPlain clear
    result after run
  rw [Memo.entries_remember] at member
  split at member
  next same =>
    have isOther : name = other := by
      rw [← isName]
      simpa using same
    subst isOther
    rcases Memo.mem_writeEntry member with before | ⟨isResult, written⟩
    · rw [isName] at before
      exact innerMemo.results name otherInfo isUntyped entry before freshDepth others right alike
        othersPlain clear result after run
    · have sameInfo : otherInfo = info := by
        have registered := isUntyped.1
        rw [untyped.1] at registered
        exact (Option.some.inj registered).symm
      subst sameInfo
      have toArguments : ArgumentsAlike arguments others := by
        rcases written with entrySame | entryIs
        · exact (sameArguments_alike entrySame).symm.trans alike
        · exact entryIs ▸ alike
      obtain ⟨rightInner, paired, rfl, _⟩ :=
        body.inner (toArguments.paired plain othersPlain) memo walked clear run
      rw [isResult, ← isReturned]
      exact paired.returned
  next =>
    exact innerMemo.results other otherInfo isUntyped entry member freshDepth others right alike
      othersPlain clear result after run

end Memory

/-! ## Calls that look up -/

section Calls

variable {registry : Registry} {depth : Nat} {name : Text} {info : FunctionInfo}

theorem memo_faithful_after (body : BodyMatch registry depth info)
    (untyped : registry.Untyped name info) (isName : (info.definition.name : Text) = name)
    {arguments : List (Option Frame)} {walk inner right : Walk} {value : Unit}
    (plain : ArgumentsPlain arguments) (memo : walk.memo.Faithful registry)
    (walked : walkBlock registry (callsWith Memo.find? registry depth) info.definition.body
      (callStart info arguments walk) = .ok value inner)
    (paired : inner.Paired (Memo.Faithful registry) right) :
    (callMemo info arguments inner).Faithful registry := by
  unfold callMemo
  cases isReturned : inner.returned with
  | none => exact paired.memo
  | some frame =>
    have framePlain : frame.Plain := by
      have frames := paired.returned
      rw [isReturned] at frames
      generalize right.returned = other at frames
      cases frames with
      | some frames => exact frames.leftPlain
    exact .remember body untyped isName plain memo walked paired.memo isReturned framePlain

def CallsMatch (registry : Registry) (depth : Nat) (info : FunctionInfo) : Prop :=
  ∀ freshDepth, HelperFollows (Exhausted depth freshDepth) (pairing (Memo.Faithful registry))
    (clearCheck registry (callsWith Memo.find? registry depth) (freshCalls registry freshDepth)
      (clearCall registry freshDepth)) info

theorem callsMatch_of_bodyMatch (body : BodyMatch registry depth info)
    (untyped : registry.Untyped name info) (isName : (info.definition.name : Text) = name) :
    CallsMatch registry (depth + 1) info := by
  intro freshDepth leftArguments rightArguments left right arguments paired clear rightResult
    rightAfter rightRun
  obtain ⟨leftPlain, rightPlain⟩ := argumentsPlain_of_paired arguments
  unfold Walker.Yields
  rw [callsWith_of_ordered (ordered_of_plain leftPlain)]
  cases found : left.memo.find? info.definition.name leftArguments with
  | some frame =>
    obtain ⟨entry, member, same, rfl⟩ := Memo.exists_of_find? found
    rw [isName] at member
    have alike := (sameArguments_alike same).trans (forall₂_alike arguments)
    have frames := paired.memo.results name info untyped entry member freshDepth rightArguments
      right alike rightPlain clear rightResult rightAfter rightRun
    obtain ⟨_, _, _, _, _, _, rfl⟩ := exists_of_freshCalls rightRun
    exact ⟨frames, paired.frames, paired.returned, paired.problems, paired.memo⟩
  | none =>
    cases walked : walkBlock registry (callsWith Memo.find? registry depth) info.definition.body
        (callStart info leftArguments left) with
    | error fault inner =>
      obtain ⟨smaller, _, _, rfl, rightWalked, _, _⟩ := exists_of_freshCalls rightRun
      have yields := body smaller _ _ (callStart_paired info right arguments paired.memo) clear _ _
        rightWalked
      unfold Walker.Yields at yields
      rw [walked] at yields
      simp only [enter_of_error walked]
      exact ⟨yields.1, Nat.succ_lt_succ yields.2⟩
    | ok value inner =>
      obtain ⟨rightInner, innerPaired, rfl, rfl⟩ :=
        body.inner arguments paired.memo walked clear rightRun
      have memo := memo_faithful_after body untyped isName leftPlain paired.memo walked innerPaired
      simp only [enter_of_ok walked]
      exact ⟨innerPaired.returned, paired.frames, paired.returned, paired.problems, memo⟩

end Calls

/-! ## Scripts -/

section Scripts

variable {statements : List Stmt} {condition : Prop}

theorem block_follows (admitted : ∀ part ∈ blockParts statements, Admitted condition part)
    {allowed : Fault → Prop} {memory : Memo → Prop} {leftHelper rightHelper : HelperCall}
    {clearCall : ClearCall} {definition : FunctionDefinition}
    (defined : definition ∈ functionsOf statements)
    (helps : ∀ part ∈ blockParts definition.body, ∀ name info, calledName? part = some name →
      (registryOf statements).Untyped name info →
      HelperFollows allowed (pairing memory)
        (clearCheck (registryOf statements) leftHelper rightHelper clearCall) info)
    {left right : Walk} (paired : left.Paired memory right)
    (clear : clearEffects (registryOf statements) rightHelper clearCall
      (blockEffects definition.body) right = true) :
    Walker.Follows allowed (walkBlock (registryOf statements) leftHelper definition.body) left
      (walkBlock (registryOf statements) rightHelper definition.body) right
      fun _ leftAfter _ rightAfter => leftAfter.Paired memory rightAfter := by
  have declared : ∀ hint, ∀ frame ∈ declaredFrame? hint, Frame.Paired frame frame :=
    fun hint frame isDeclared => (plain_of_declaredFrame? hint frame isDeclared).paired
  have operations : OperationsFollow allowed (pairing memory) (Admitted condition)
      (clearCheck (registryOf statements) leftHelper rightHelper clearCall) :=
    operations_follow_paired
  refine walkBlock_follows operations ((sound_registryOf statements).returnsHold declared) declared
    (fun part inBody => ?_) paired clear
  exact ⟨admitted part (mem_blockParts_of_functionsOf defined inBody), helps part inBody⟩

theorem bodyMatch_of_callsMatch (admitted : ∀ part ∈ blockParts statements, Admitted condition part)
    {depth : Nat} {info : FunctionInfo} (defined : info.definition ∈ functionsOf statements)
    (inside : ∀ callee calleeInfo, (registryOf statements).Untyped callee calleeInfo →
      CallsMatch (registryOf statements) depth calleeInfo) :
    BodyMatch (registryOf statements) depth info :=
  fun freshDepth _ _ paired clear => block_follows admitted defined
    (fun _ _ callee calleeInfo _ isUntyped => inside callee calleeInfo isUntyped freshDepth) paired
    clear

/-- Calls of a script that look up match those that do not. The induction is on the number of
calls that may still be inside each other; results are remembered when the call that yields them
ends. -/
theorem callsMatch (admitted : ∀ part ∈ blockParts statements, Admitted condition part)
    (depth : Nat) {name : Text} {info : FunctionInfo}
    (untyped : (registryOf statements).Untyped name info) :
    CallsMatch (registryOf statements) depth info := by
  induction depth generalizing name info with
  | zero =>
    intro freshDepth _ _ _ _ _ _ _ _ _ rightRun
    obtain ⟨smaller, _, _, rfl, _⟩ := exists_of_freshCalls rightRun
    exact ⟨rfl, Nat.succ_pos smaller⟩
  | succ depth inDepth =>
    obtain ⟨defined, _, isName⟩ := sound_registryOf statements name info untyped.1
    exact callsMatch_of_bodyMatch
      (bodyMatch_of_callsMatch admitted defined fun _ _ isUntyped => inDepth isUntyped) untyped
      isName

theorem callsWith_faithful (admitted : ∀ part ∈ blockParts statements, Admitted condition part)
    (depth : Nat) {name : Text} {info : FunctionInfo}
    (untyped : (registryOf statements).Untyped name info) :
    HelperKeeps AnyFault Frame.Plain (Memo.Faithful (registryOf statements))
      (callsWith Memo.find? (registryOf statements) depth) info := by
  refine scriptCalls_keep operations_keep_plain plain_of_declaredFrame? admitted (fun _ => id)
    (fun _ _ _ _ faithful found => faithful.plain.find? found) ?_
    (Registry.budget_of_allowed trivial) untyped trivial
  intro depth callee calleeInfo arguments walk value after frame isUntyped plain memo walked
    isReturned afterMemo framePlain
  obtain ⟨defined, _, isName⟩ := sound_registryOf statements callee calleeInfo isUntyped.1
  have body := bodyMatch_of_callsMatch admitted defined
    fun _ _ untyped => callsMatch admitted depth untyped
  exact .remember body isUntyped isName plain memo walked afterMemo isReturned framePlain

theorem faithfulBody_yields
    (admitted : ∀ part ∈ blockParts statements, Admitted condition part) (depth : Nat)
    {definition : FunctionDefinition} (defined : definition ∈ functionsOf statements)
    {memo : Memo} (faithful : memo.Faithful (registryOf statements)) :
    Walker.Yields AnyFault
      (walkBlock (registryOf statements)
        (callsWith Memo.find? (registryOf statements) depth) definition.body)
      (analysisStart definition memo)
      fun _ after => after.Holds Frame.Plain (Memo.Faithful (registryOf statements)) :=
  block_keeps operations_keep_plain plain_of_declaredFrame? admitted defined
    (fun _ _ untyped => callsWith_faithful admitted depth untyped)
    (analysisStart_holds plain_of_declaredFrame? definition faithful)

end Scripts

/-! ## Verdicts -/

theorem fits_alike {type other : ColumnType} (alike : type.Alike other) (declared : ColumnType) :
    Report.fits type declared = Report.fits other declared := by
  unfold Report.fits
  rw [alike.same (.refl declared), alike.isNullable, alike.base.same (.refl declared.base)]

theorem missingColumns_alike {frame other : Frame} (alike : frame.Alike other) (declared : Frame) :
    Report.missingColumns declared frame = Report.missingColumns declared other := by
  simp only [Report.missingColumns, alike.hasColumn]

theorem extraColumns_of_paired {frame other : Frame} (paired : frame.Paired other)
    {declared : Frame} (none : Report.extraColumns declared other = []) :
    Report.extraColumns declared frame = [] := by
  rw [Report.extraColumns_eq_nil_iff] at none ⊢
  intro column member
  obtain ⟨type, inOther, _⟩ := exists_mem_of_alike paired.alike paired.leftPlain member
  exact none (column.1, type) inOther

theorem typeDifferences_of_alike {frame other : Frame} (alike : frame.Alike other)
    {declared : Frame} (none : Report.typeDifferences declared other = []) :
    Report.typeDifferences declared frame = [] := by
  rw [Report.typeDifferences_eq_nil_iff] at none ⊢
  intro column member type isType
  have types := alike.column? column.1
  have fitting := none column member
  rw [Option.mem_def.mp isType] at types
  generalize other.column? column.1 = answer at types fitting
  cases types with
  | some types =>
    rw [fits_alike types]
    exact fitting _ rfl

theorem returnFindings_isEmpty (declared : Option Frame) {inferred other : Option Frame}
    (paired : Option.Rel Frame.Paired inferred other) :
    (Report.returnFindings declared inferred).isEmpty =
      (Report.returnFindings declared other).isEmpty := by
  cases declared with
  | none => rfl
  | some declared =>
    cases paired with
    | none => rfl
    | some frames =>
      rw [Bool.eq_iff_iff]
      simp only [Report.returnFindings, List.isEmpty_iff, List.append_eq_nil_iff]
      constructor
      · rintro ⟨⟨missing, extra⟩, types⟩
        refine ⟨⟨?_, extraColumns_of_paired frames.symm extra⟩,
          typeDifferences_of_alike frames.alike.symm types⟩
        rwa [← missingColumns_alike frames.alike]
      · rintro ⟨⟨missing, extra⟩, types⟩
        refine ⟨⟨?_, extraColumns_of_paired frames extra⟩,
          typeDifferences_of_alike frames.alike types⟩
        rwa [missingColumns_alike frames.alike]

/-- Two summaries of a function say the same, up to the order of columns. -/
structure SummariesAgree (summary other : Summary) : Prop where
  name : summary.name = other.name
  line : summary.line = other.line
  inputs : summary.inputs = other.inputs
  declared : summary.declared = other.declared
  inferred : Option.Rel (fun left right => Frame.same left right = true) summary.inferred
    other.inferred
  hasProblems : summary.hasProblems = other.hasProblems
  passed : (Report.verdict summary).passed = (Report.verdict other).passed

theorem same_of_paired {left right : Frame} (paired : left.Paired right)
    (leftWellFormed : left.WellFormed) (rightWellFormed : right.WellFormed) :
    left.same right = true := by
  simp [Frame.same, Frame.sameColumns_iff.mpr paired.alike, leftWellFormed.closed,
    rightWellFormed.closed]

theorem isEmpty_of_length_eq {left right : List α} (lengths : left.length = right.length) :
    left.isEmpty = right.isEmpty := by
  cases left <;> cases right <;> simp_all

theorem summariesAgree_of_paired {memory : Memo → Prop} {left right : Walk}
    (paired : left.Paired memory right)
    (leftWellFormed : ∀ frame ∈ left.returned, frame.WellFormed)
    (rightWellFormed : ∀ frame ∈ right.returned, frame.WellFormed)
    (definition : FunctionDefinition) :
    SummariesAgree (summaryAfter definition left) (summaryAfter definition right) where
  name := rfl
  line := rfl
  inputs := rfl
  declared := rfl
  inferred := by
    show Option.Rel _ left.returned right.returned
    have frames := paired.returned
    generalize left.returned = first at frames leftWellFormed ⊢
    generalize right.returned = second at frames rightWellFormed ⊢
    cases frames with
    | none => exact .none
    | some frames =>
      exact .some (same_of_paired frames (leftWellFormed _ rfl) (rightWellFormed _ rfl))
  hasProblems := congrArg Bool.not (isEmpty_of_length_eq paired.problems)
  passed := by
    have problems := isEmpty_of_length_eq paired.problems
    have findings := returnFindings_isEmpty (declarations definition).returns paired.returned
    rw [Bool.eq_iff_iff, List.isEmpty_iff, List.isEmpty_iff] at problems findings
    rw [Bool.eq_iff_iff]
    simp [Report.verdict, summaryAfter, problems, findings]

/-! ## Analyses -/

theorem analysisStart_paired {memory : Memo → Prop} (definition : FunctionDefinition)
    {memo : Memo} (memoHolds : memory memo) (other : Memo) :
    (analysisStart definition memo).Paired memory (analysisStart definition other) := by
  refine ⟨fun name => ?_, .none, rfl, memoHolds⟩
  show Option.Rel _ ((declarations definition).inputs.get? name)
    ((declarations definition).inputs.get? name)
  cases found : (declarations definition).inputs.get? name with
  | none => exact .none
  | some frame => exact .some (inputs_plain definition name frame found).paired

def analyzeAlone (statements : List Stmt) (definition : FunctionDefinition) :
    Except Fault (Option Summary × Memo) :=
  analyzeFunction (registryOf statements)
    (freshCalls (registryOf statements) (callLimit (registryOf statements))) definition .empty

/-- What holds of a function and its summary when the analysis of the function alone agrees. -/
def AgreesAlone (statements : List Stmt) (definition : FunctionDefinition) (summary : Summary) :
    Prop :=
  ∃ alone memo, analyzeAlone statements definition = .ok (some alone, memo) ∧
    (clearFunction (registryOf statements) definition = true → SummariesAgree summary alone)

theorem body_agrees_alone {statements : List Stmt}
    (admitted : ∀ part ∈ blockParts statements, Admitted True part)
    (acyclic : (registryOf statements).Acyclic) {definition : FunctionDefinition}
    (defined : definition ∈ functionsOf statements) (analyzed : isAnalyzed definition = true)
    {memo : Memo}
    (remembered : memo.Faithful (registryOf statements) ∧ memo.Holds Frame.Regular) :
    Walker.Yields (LongNumberOnly True)
      (walkBlock (registryOf statements)
        (callHelper (registryOf statements) (callLimit (registryOf statements))) definition.body)
      (analysisStart definition memo) fun _ after =>
        AgreesAlone statements definition (summaryAfter definition after) ∧
          after.memo.Faithful (registryOf statements) ∧ after.memo.Holds Frame.Regular := by
  let registry := registryOf statements
  let limit := callLimit registry
  obtain ⟨faithful, memoHolds⟩ := remembered
  have never : ∀ fault, ¬ LongNumberOnly True fault := fun _ isLong => isLong.2 trivial
  have helps : ∀ name info, registry.Untyped name info →
      HelperKeeps (LongNumberOnly True) Frame.Regular (Memo.Holds Frame.Regular)
        (callsWith Memo.find? registry limit) info :=
    fun _ _ untyped => regularCalls_keep admitted acyclic
      (fun _ _ _ _ memo found => memo.find? found)
      (fun _ name arguments _ memo frame => memo.remember name arguments frame) untyped
  have aloneHelps : ∀ name info, registry.Untyped name info →
      HelperKeeps (LongNumberOnly True) Frame.Regular (fun _ => True)
        (freshCalls registry limit) info :=
    fun _ _ untyped => regularCalls_keep admitted acyclic (fun _ _ _ _ _ found => by cases found)
      (fun _ _ _ _ _ _ => trivial) untyped
  obtain ⟨_, after, run, holds⟩ :=
    (regularBody_yields admitted defined helps memoHolds).exists_ok never
  have aloneYields : Walker.Yields (LongNumberOnly True)
      (walkBlock registry (freshCalls registry limit) definition.body)
      (analysisStart definition .empty) fun _ after =>
        after.Holds Frame.Regular fun _ => True :=
    regularBody_yields admitted defined aloneHelps trivial
  obtain ⟨_, aloneAfter, aloneRun, aloneHolds⟩ := aloneYields.exists_ok never
  have keepsFaithful := faithfulBody_yields admitted limit defined faithful
  rw [callHelper_eq_callsWith]
  unfold Walker.Yields at keepsFaithful ⊢
  rw [run] at keepsFaithful ⊢
  refine ⟨⟨summaryAfter definition aloneAfter, aloneAfter.memo, ?_, fun clear => ?_⟩,
    keepsFaithful.memo, holds.memo⟩
  · rw [analyzeAlone, analyzeFunction_of_analyzed analyzed, aloneRun]
  · have follows := block_follows admitted defined
      (fun _ _ name info _ untyped => callsMatch admitted limit untyped limit)
      (analysisStart_paired definition faithful .empty) clear
    exact summariesAgree_of_paired (follows.of_ok run aloneRun)
      (fun frame isReturned => (holds.returned frame isReturned).2)
      (fun frame isReturned => (aloneHolds.returned frame isReturned).2) definition

/-- The analysis of a script agrees on each function with an analysis of that function that goes
through the bodies of called functions every time, where all joins on the way are clear. So it
does not matter which functions were analysed before. -/
theorem analyzeStatements_agrees_alone {statements : List Stmt}
    (labels : ∀ part ∈ blockParts statements, LabelsText part)
    (writable : ∀ part ∈ blockParts statements, NamesWritable part)
    (acyclic : (registryOf statements).Acyclic) :
    ∃ summaries, analyzeStatements statements = .ok summaries ∧
      List.Forall₂ (AgreesAlone statements) ((functionsOf statements).filter isAnalyzed)
        summaries := by
  have admitted : ∀ part ∈ blockParts statements, Admitted True part :=
    fun part inScript => ⟨labels part inScript, fun _ => writable part inScript⟩
  have ends : Ends (LongNumberOnly True) _ (analyzeStatements statements) :=
    analyzeAll_ends
      (fun definition defined analyzed memo remembered =>
        body_agrees_alone admitted acyclic defined analyzed remembered)
      ⟨Memo.faithful_empty _, Memo.holds_empty _⟩
  cases analyzed : analyzeStatements statements with
  | ok summaries =>
    rw [analyzed] at ends
    exact ⟨summaries, rfl, ends⟩
  | error fault =>
    rw [analyzed] at ends
    exact absurd trivial ends.2

def joinCaller (name : String) (line : Nat) (schema : Text) : Stmt :=
  .function false
    { name := name, line := line
      parameters :=
        { regular := [
            { name := "a"
              hint := some (.subscript (.name "DF")
                (.literal (.text "\x7bk: Int64, v: Int64\x7d"))) },
            { name := "b", hint := some (.subscript (.name "DF") (.literal (.text schema))) }] } }
    [.returning (some (.call (.name "h") [.name "a", .name "b"] []))]

def twoCallers (first second : Text) : List Stmt :=
  [.function false
      { name := "h", line := 1, parameters := { regular := [{ name := "l" }, { name := "r" }] } }
      [.returning (some (.call (.attribute (.name "l") "join") [.name "r"]
        [.mk (some "on") (.literal (.text "k"))]))],
   joinCaller "f" 3 first, joinCaller "g" 5 second]

def clearCallers : List Stmt :=
  twoCallers "\x7bk: Int64, v: Utf8, w: Date\x7d" "\x7bk: Int64, w: Date, v: Utf8\x7d"

theorem clearCallers_agree_alone :
    (∀ part ∈ blockParts clearCallers, LabelsText part) ∧
    (∀ part ∈ blockParts clearCallers, NamesWritable part) ∧
    (registryOf clearCallers).Acyclic ∧
    (∀ definition ∈ (functionsOf clearCallers).filter isAnalyzed,
      clearFunction (registryOf clearCallers) definition = true) ∧
    ∃ summaries, analyzeStatements clearCallers = .ok summaries ∧
      List.Forall₂ (AgreesAlone clearCallers) ((functionsOf clearCallers).filter isAnalyzed)
        summaries := by
  have labels : ∀ part ∈ blockParts clearCallers, LabelsText part := by
    simp [clearCallers, twoCallers, joinCaller, blockParts, Stmt.parts, FunctionHeader.parts,
      Parameters.all, Parameter.parts, allParts, Expr.parts, keywordsParts, Keyword.parts,
      LabelsText, aliasLabel?]
  have writable : ∀ part ∈ blockParts clearCallers, NamesWritable part := by
    simp [clearCallers, twoCallers, joinCaller, blockParts, Stmt.parts, FunctionHeader.parts,
      Parameters.all, Parameter.parts, allParts, Expr.parts, keywordsParts, Keyword.parts,
      NamesWritable, columnNames, columnName?, joinNames, joinRequest, given?, keywordLiteral?,
      Literal.isWritable]
  have acyclic : (registryOf clearCallers).Acyclic :=
    Registry.acyclic_of_heights (fun name => if name = "h" then 0 else 1) (by decide +kernel)
  exact ⟨labels, writable, acyclic, by decide +kernel,
    analyzeStatements_agrees_alone labels writable acyclic⟩

def unclearCallers : List Stmt :=
  twoCallers "\x7bk: Int64, v: Utf8, v_right: Date\x7d" "\x7bk: Int64, v_right: Date, v: Utf8\x7d"

/-- Then look-ups matter: the second function is given what was found for the first one, which
is not what its own analysis comes to. -/
theorem unclearCallers_disagree :
    (match analyzeStatements unclearCallers,
        (functionsOf unclearCallers).getLast?.map (analyzeAlone unclearCallers) with
      | .ok [_, summary], some (.ok (some alone, _)) =>
        match summary.inferred, alone.inferred with
        | some inferred, some inferredAlone => some (inferred.same inferredAlone)
        | _, _ => none
      | _, _ => none) = some false := by
  decide +kernel

end FrameCheck.Analysis
