import FrameCheck.Proofs.Binding
import FrameCheck.Proofs.Correspondence
import FrameCheck.Proofs.Flattening

/-!
Functions that only return an expression. Calling one that has no signature with variables comes
to the same as its expression does with the variables in place of the parameters. The call is one
level deeper; this makes no difference unless the functions that the expression reaches come back
to themselves.
-/

namespace FrameCheck.Analysis

open Syntax Typing

/-! ## Variables for parameters -/

/-- The variable that is given for a parameter. Other names stay what they are. -/
def givenFor : (parameters given : List String) → String → String
  | parameter :: parameters, first :: given, name =>
    if parameter = name then first else givenFor parameters given name
  | _, _, name => name

theorem givenFor_cases (parameters given : List String) (name : String) :
    givenFor parameters given name = name ∨
      name ∈ parameters ∧ givenFor parameters given name ∈ given := by
  fun_induction givenFor parameters given name with
  | case1 => simp
  | case2 parameter parameters first given name differ inRest =>
    rcases inRest with same | ⟨isParameter, isGiven⟩
    · exact .inl same
    · exact .inr ⟨List.mem_cons_of_mem _ isParameter, List.mem_cons_of_mem _ isGiven⟩
  | case3 => exact .inl rfl

theorem keptBy_givenFor {registry : Registry} {parameters given : List String}
    (neutral : ∀ name ∈ parameters ++ given, name ≠ "pl" ∧ registry.get? name = none) :
    registry.KeptBy (givenFor parameters given) := by
  rw [List.forall_mem_append] at neutral
  constructor
  · intro name
    rcases givenFor_cases parameters given name with same | ⟨isParameter, isGiven⟩
    · rw [same]
    · rw [(neutral.2 _ isGiven).2, (neutral.1 _ isParameter).2]
  · intro name
    rcases givenFor_cases parameters given name with same | ⟨isParameter, isGiven⟩
    · rw [same]
    · simp [(neutral.2 _ isGiven).1, (neutral.1 _ isParameter).1]

/-! ## The start of a call -/

def argumentEntries (parameters : List Parameter) (arguments : List (Option Frame)) :
    List (Text × Frame) :=
  (parameters.zip arguments).filterMap fun (parameter, argument) =>
    argument.map fun frame => (parameter.name, frame)

theorem get?_insertAll_cons (table : Table Text Frame) (parameter : Parameter)
    (parameters : List Parameter) (argument : Option Frame) (arguments : List (Option Frame))
    (name : String) :
    ∃ other : Table Text Frame,
      table.insertAll (argumentEntries (parameter :: parameters) (argument :: arguments)) =
        other.insertAll (argumentEntries parameters arguments) ∧
      other.get? name =
        if parameter.name = name then argument.or (table.get? name) else table.get? name := by
  cases argument with
  | none => exact ⟨table, rfl, by simp⟩
  | some frame =>
    refine ⟨table.insert parameter.name frame, rfl, ?_⟩
    simp [Table.get?_insert, Text.ofString_inj]

theorem get?_insertAll_of_not_mem {parameters : List Parameter} {name : String}
    (absent : name ∉ parameters.map Parameter.name) (arguments : List (Option Frame))
    (table : Table Text Frame) :
    (table.insertAll (argumentEntries parameters arguments)).get? name = table.get? name := by
  induction parameters generalizing arguments table with
  | nil => rfl
  | cons parameter rest inRest =>
    rw [List.map_cons, List.mem_cons, not_or] at absent
    cases arguments with
    | nil => rfl
    | cons argument arguments =>
      obtain ⟨other, same, isOther⟩ :=
        get?_insertAll_cons table parameter rest argument arguments name
      rw [same, inRest absent.2, isOther, if_neg (Ne.symm absent.1)]

theorem get?_insertAll_of_mem {parameters : List Parameter}
    (distinct : (parameters.map Parameter.name).Nodup) {given : List String}
    (count : given.length = parameters.length) (frames : String → Option Frame)
    {name : String} (isParameter : name ∈ parameters.map Parameter.name)
    (table : Table Text Frame) :
    (table.insertAll (argumentEntries parameters (given.map frames))).get? name =
      (frames (givenFor (parameters.map Parameter.name) given name)).or (table.get? name) := by
  induction parameters generalizing given table with
  | nil => cases isParameter
  | cons parameter rest inRest =>
    rw [List.map_cons, List.nodup_cons] at distinct
    cases given with
    | nil => cases count
    | cons first given =>
      obtain ⟨other, same, isOther⟩ :=
        get?_insertAll_cons table parameter rest (frames first) (given.map frames) name
      rw [List.map_cons, List.map_cons, givenFor, same]
      by_cases isFirst : parameter.name = name
      · -- the other parameters have other names
        rw [get?_insertAll_of_not_mem (isFirst ▸ distinct.1), isOther, if_pos isFirst,
          if_pos isFirst]
      · have isLater : name ∈ rest.map Parameter.name :=
          (List.mem_cons.mp isParameter).resolve_left (Ne.symm isFirst)
        rw [inRest distinct.2 (Nat.succ.inj count) isLater, isOther, if_neg isFirst,
          if_neg isFirst]

theorem get?_bindArguments {parameters : List Parameter}
    (distinct : (parameters.map Parameter.name).Nodup) {given : List String}
    (count : given.length = parameters.length) (frames : String → Option Frame)
    {name : String} (isParameter : name ∈ parameters.map Parameter.name) :
    (bindArguments parameters (given.map frames)).get? name =
      frames (givenFor (parameters.map Parameter.name) given name) := by
  have found := get?_insertAll_of_mem distinct count frames isParameter .empty
  rwa [Table.get?_empty, Option.or_none] at found

/-! ## Answers -/

def answer : EStateM.Result Fault Walk α → Except Fault α
  | .ok value _ => .ok value
  | .error fault _ => .error fault

theorem Matches.answer {excused : Fault → Prop} {related : Walk → Walk → Prop}
    {left right : EStateM.Result Fault Walk α} (results : Matches excused related left right) :
    Analysis.answer left = Analysis.answer right ∨
      ∃ fault, excused fault ∧ Analysis.answer left = .error fault := by
  cases results with
  | ok value walks => exact .inl rfl
  | error fault walks => exact .inl rfl
  | excuse isExcused => exact .inr ⟨_, isExcused, rfl⟩

theorem Walker.Yields.answer_ne {allowed : Fault → Prop} {step : Walker α} {walk : Walk}
    {outcome : α → Walk → Prop} (yields : Walker.Yields allowed step walk outcome) {fault : Fault}
    (refused : ¬ allowed fault) : answer (step walk) ≠ .error fault := by
  unfold Walker.Yields at yields
  cases result : step walk with
  | ok value after => simp [answer]
  | error other after =>
    rw [result] at yields
    rintro ⟨⟩
    exact refused yields

/-! ## Calls that end -/

namespace Registry

/-- The functions without a signature that an expression reaches through calls. -/
def Reached (registry : Registry) (expression : Expr) (name : Text) : Prop :=
  ∃ part ∈ expression.parts, ∃ callee ∈ calledName? part,
    (∃ info, registry.Untyped callee info) ∧ Relation.ReflTransGen registry.Calls callee name

def Settled (registry : Registry) (name : Text) : Prop :=
  ∀ other, Relation.ReflTransGen registry.Calls name other →
    ¬ Relation.TransGen registry.Calls other other

theorem settled_budget (registry : Registry) (allowed : Fault → Prop) :
    registry.Budget allowed fun depth name =>
      registry.Settled name ∧ registry.rank name < depth where
  exhausted _ within := absurd within.2 (Nat.not_lt_zero _)
  descends _ _ callee within calls := by
    have lower := rank_lt_of_calls (within.1 callee (.single calls)) calls
    refine ⟨fun other reached => within.1 other (.head calls reached), ?_⟩
    omega

end Registry

/-- An expression that reaches no function that comes back to itself never runs out of calls. -/
theorem infer_not_endless {registry : Registry} {expression : Expr}
    (settled : ∀ name, registry.Reached expression name →
      ¬ Relation.TransGen registry.Calls name name)
    {depth : Nat} (deep : registry.size < depth) (walk : Walk) :
    answer (infer registry (callHelper registry depth) expression walk) ≠ .error .endlessCalls := by
  have operations : OperationsKeep (· ≠ .endlessCalls) (fun _ => True) fun _ => True :=
    operations_keep_any (by simp)
  have returns : registry.ReturnsHold fun _ => True := fun _ _ _ _ _ _ _ => trivial
  have answered : expression.Every (Answered (· ≠ .endlessCalls) (fun _ => True) (fun _ => True)
      (fun _ => True) registry (callHelper registry depth)) := by
    intro part inExpression
    refine ⟨trivial, fun name info called untyped => ?_⟩
    have isSettled : registry.Settled name := fun other reached =>
      settled other ⟨part, inExpression, name, called, ⟨info, untyped⟩, reached⟩
    have within : registry.rank name < depth := (registry.rank_le_size name).trans_lt deep
    rw [callHelper_eq_callsWith]
    exact callsWith_keeps operations returns (fun _ _ _ => trivial) (fun _ _ => .inr (by simp))
      (by simp) (Registry.remembers_of_memory (by simp)) (fun _ _ _ _ _ => trivial)
      (registry.settled_budget _) depth untyped ⟨isSettled, within⟩
  have holds : walk.Holds (fun _ => True) fun _ => True :=
    ⟨fun _ _ _ => trivial, fun _ _ => trivial, trivial⟩
  exact ((infer_yields operations returns).1 expression answered walk holds).answer_ne (by simp)

/-! ## Inlining -/

/-- A function without a signature that only returns an expression over its parameters. -/
structure Registry.Gives (registry : Registry) (function : String) (info : FunctionInfo)
    (parameters : List String) (value : Expr) : Prop where
  untyped : registry.Untyped function info
  named : info.definition.regularParameters.map Parameter.name = parameters
  distinct : parameters.Nodup
  body : info.definition.body = [.returning (some value)]
  closed : ∀ name ∈ frameVariables registry value, name ∈ parameters

def callWith (function : String) (given : List String) : Expr :=
  .call (.name function) (given.map .name) []

def Walk.framesOf (walk : Walk) (given : List String) : List (Option Frame) :=
  given.map fun name : String => walk.frames.get? name

def Correspondence.ofCall (parameters given : List String) :
    Correspondence (givenFor parameters given) (· ∈ parameters) where
  related left right :=
    (∀ name ∈ parameters,
      left.frames.get? name = right.frames.get? (givenFor parameters given name)) ∧
    left.memo = right.memo
  frames both := both.1
  memo both := both.2
  note both _ := both
  remember both _ := ⟨both.1, rfl⟩

section Inlining

variable {registry : Registry} {function : String} {info : FunctionInfo}
  {parameters given : List String} {value : Expr} {walk : Walk}

theorem inferAll_names (helper : HelperCall) (given : List String) (walk : Walk) :
    inferAll registry helper (given.map .name) walk = .ok (walk.framesOf given) walk := by
  induction given with
  | nil =>
    rw [List.map_nil, inferAll]
    rfl
  | cons first rest inRest =>
    have found : infer registry helper (.name first) walk = .ok (walk.frames.get? first) walk := by
      rw [infer]
      rfl
    rw [List.map_cons, inferAll, Steps.bind_of_ok found, Steps.bind_of_ok inRest]
    rfl

theorem infer_callWith (untyped : registry.Untyped function info) (helper : HelperCall) :
    infer registry helper (callWith function given) walk =
      helper info (walk.framesOf given) walk := by
  rw [callWith, infer, untyped.1]
  refine (Steps.bind_of_ok (inferAll_names helper given walk)).trans ?_
  rw [functionCall, untyped.2]

theorem body_matches (gives : registry.Gives function info parameters value)
    (count : given.length = parameters.length)
    (neutral : ∀ name ∈ parameters ++ given, name ≠ "pl" ∧ registry.get? name = none)
    (depth : Nat) :
    Matches NoFault (Correspondence.ofCall parameters given).related
      (infer registry (callHelper registry depth) value
        (callStart info (walk.framesOf given) walk))
      (infer registry (callHelper registry depth) (value.rename (givenFor parameters given))
        walk) := by
  obtain ⟨_, rfl, distinct, _, closed⟩ := gives
  rw [List.length_map] at count
  refine (infer_matches (keptBy_givenFor neutral) (.ofCall _ given)
    (callHelper_agrees (.inl rfl))).1 value closed _ _ ⟨fun name isParameter => ?_, rfl⟩
  exact get?_bindArguments distinct count _ isParameter

theorem answer_enter (body : info.definition.body = [.returning (some value)])
    (helper : HelperCall) (arguments : List (Option Frame)) (walk : Walk) :
    answer (enter registry helper info arguments walk) =
      answer (infer registry helper value (callStart info arguments walk)) := by
  cases found : infer registry helper value (callStart info arguments walk) with
  | ok frame after =>
    have walked : walkBlock registry helper info.definition.body (callStart info arguments walk) =
        .ok ⟨⟩ { after with returned := frame } := by
      rw [body, walkBlock_singleton, walkStatement]
      exact Steps.bind_of_ok found
    rw [enter_of_ok walked]
    rfl
  | error fault after =>
    have walked : walkBlock registry helper info.definition.body (callStart info arguments walk) =
        .error fault after := by
      rw [body, walkBlock_singleton, walkStatement]
      exact Steps.bind_of_error found
    rw [enter_of_error walked]
    rfl

theorem infer_callWith_enters (untyped : registry.Untyped function info)
    (plain : ∀ argument ∈ walk.framesOf given, ∀ frame ∈ argument, frame.Plain)
    (unknown : walk.memo.find? info.definition.name (walk.framesOf given) = none) (depth : Nat) :
    infer registry (callHelper registry (depth + 1)) (callWith function given) walk =
      enter registry (callHelper registry depth) info (walk.framesOf given) walk := by
  rw [infer_callWith untyped, callHelper_eq_callsWith, callHelper_eq_callsWith,
    callsWith_of_ordered (ordered_of_plain plain), unknown]

/-- Calling a function that only returns an expression is inlining it: the call comes to what the
expression comes to with the given variables in place of the parameters, be it a frame, none or a
fault. Only calls that are too deep inside each other may stop it alone, and only where the
expression reaches a function that comes back to itself. -/
theorem helperCall_inlines (gives : registry.Gives function info parameters value)
    (count : given.length = parameters.length)
    (neutral : ∀ name ∈ parameters ++ given, name ≠ "pl" ∧ registry.get? name = none)
    (plain : ∀ argument ∈ walk.framesOf given, ∀ frame ∈ argument, frame.Plain)
    (unknown : walk.memo.find? info.definition.name (walk.framesOf given) = none) :
    (∀ depth,
      answer (infer registry (callHelper registry (depth + 1)) (callWith function given) walk) =
        answer (infer registry (callHelper registry depth)
          (value.rename (givenFor parameters given)) walk)) ∧
    (answer (inferExpression registry (callWith function given) walk) =
        answer (inferExpression registry (value.rename (givenFor parameters given)) walk) ∨
      answer (inferExpression registry (callWith function given) walk) = .error .endlessCalls ∧
        ∃ name, registry.Reached value name ∧ Relation.TransGen registry.Calls name name) := by
  have inBody : ∀ depth,
      answer (infer registry (callHelper registry (depth + 1)) (callWith function given) walk) =
        answer (infer registry (callHelper registry depth) value
          (callStart info (walk.framesOf given) walk)) := by
    intro depth
    rw [infer_callWith_enters gives.untyped plain unknown, answer_enter gives.body]
  have inPlace : ∀ depth,
      answer (infer registry (callHelper registry (depth + 1)) (callWith function given) walk) =
        answer (infer registry (callHelper registry depth)
          (value.rename (givenFor parameters given)) walk) := by
    intro depth
    rw [inBody]
    exact (body_matches gives count neutral depth).answer.resolve_right (by simp)
  refine ⟨inPlace, ?_⟩
  -- the call may go as deep as the expression, so its body has one call less
  have oneMore : HelpersAgree (· = .endlessCalls) (callHelper registry (registry.size + 149))
      (callHelper registry (callLimit registry)) :=
    callHelper_agrees (.inr ⟨Nat.le_succ _, rfl⟩)
  rcases (infer_agrees oneMore (value.rename (givenFor parameters given)) walk).answer with
    same | ⟨_, rfl, endless⟩
  · exact .inl ((inPlace _).trans same)
  · have stopped := (inPlace _).trans endless
    refine .inr ⟨stopped, by_contra fun settled => ?_⟩
    refine infer_not_endless (fun name reached cycle => settled ⟨name, reached, cycle⟩) ?_ _
      ((inBody _).symm.trans stopped)
    omega

end Inlining

def keepingKey : FunctionDefinition where
  header := { name := "g", line := 1, parameters := { regular := [{ name := "d" }] } }
  body := [.returning (some (.call (.attribute (.name "d") "select")
    [.call (.attribute (.name "pl") "col") [.literal (.text "k")] []] []))]

def joinedKeys : Expr :=
  .call (.name "g")
    [.call (.attribute (.name "l") "join") [.name "r"]
      [.mk (some "on") (.literal (.text "k"))]] []

def joiningKeys : FunctionDefinition where
  header :=
    { name := "f", line := 3
      parameters := { regular := [{ name := "l" }, { name := "r" }] } }
  body := [.returning (some joinedKeys)]

def keyFunctions : Registry :=
  .ofDefinitions [keepingKey, joiningKeys]

def keyFrames : Walk where
  frames := .ofList
    [("x", .ofList [(.text "k", .int64), (.text "v", .float64)]),
      ("y", .ofList [(.text "k", .int64), (.text "w", .utf8)])]

theorem joiningKeys_inlines :
    keyFunctions.Gives "f" ⟨joiningKeys, none⟩ ["l", "r"] joinedKeys ∧
    (match answer (inferExpression keyFunctions (callWith "f" ["x", "y"]) keyFrames) with
      | .ok (some frame) => frame.hasColumn (.text "k") && !frame.hasColumn (.text "w")
      | _ => false) = true ∧
    answer (inferExpression keyFunctions (callWith "f" ["x", "y"]) keyFrames) =
      answer (inferExpression keyFunctions
        (joinedKeys.rename (givenFor ["l", "r"] ["x", "y"])) keyFrames) := by
  have registered : keyFunctions.get? (Text.ofString "f") = some ⟨joiningKeys, none⟩ := rfl
  have looked : frameVariables keyFunctions joinedKeys = ["l", "r"] := by
    have isKnown : keyFunctions.contains (Text.ofString "g") = true := by decide +kernel
    simp [joinedKeys, frameVariables, allFrameVariables, isKnown]
  have gives : keyFunctions.Gives "f" ⟨joiningKeys, none⟩ ["l", "r"] joinedKeys :=
    ⟨⟨registered, rfl⟩, rfl, by decide, rfl, by simp [looked]⟩
  have found : (match answer (inferExpression keyFunctions (callWith "f" ["x", "y"]) keyFrames) with
      | .ok (some frame) => frame.hasColumn (.text "k") && !frame.hasColumn (.text "w")
      | _ => false) = true := by decide +kernel
  refine ⟨gives, found, ?_⟩
  have count : ["x", "y"].length = ["l", "r"].length := rfl
  have neutral : ∀ name ∈ ["l", "r"] ++ ["x", "y"],
      name ≠ "pl" ∧ keyFunctions.get? (Text.ofString name) = none := by decide +kernel
  have plain : ∀ argument ∈ keyFrames.framesOf ["x", "y"], ∀ frame ∈ argument, frame.Plain := by
    decide +kernel
  refine (helperCall_inlines gives count neutral plain rfl).2.resolve_right fun stopped => ?_
  rw [stopped.1] at found
  cases found

end FrameCheck.Analysis
