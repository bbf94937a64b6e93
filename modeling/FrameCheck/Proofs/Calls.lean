import FrameCheck.Proofs.Invariants

/-!
Calls of functions without a signature. A call is answered by a look-up in what is remembered,
or else through the body of the function. What look-ups find is a parameter here, so that the
calls of an analysis stand beside those that go through the body every time.
-/

namespace FrameCheck.Analysis

open Syntax Typing

/-! ## Memory -/

namespace Memo

def Holds (property : Frame → Prop) (memo : Memo) : Prop :=
  ∀ function, ∀ entry ∈ memo.entries function, property entry.result

theorem entries_remember (memo : Memo) (function other : Text)
    (arguments : List (Option Frame)) (result : Frame) :
    (memo.remember function arguments result).entries other =
      if function == other then writeEntry arguments result (memo.entries function)
      else memo.entries other := by
  rw [remember, entries, Table.get?_insert]
  split
  · rfl
  · rfl

theorem mem_writeEntry {arguments : List (Option Frame)} {result : Frame}
    {entries : List MemoEntry} {entry : MemoEntry}
    (member : entry ∈ writeEntry arguments result entries) :
    entry ∈ entries ∨
      entry.result = result ∧ (sameArguments entry.arguments arguments = true ∨
        entry.arguments = arguments) := by
  induction entries with
  | nil =>
    simp only [writeEntry, List.mem_singleton] at member
    subst member
    exact .inr ⟨rfl, .inr rfl⟩
  | cons first rest inRest =>
    rw [writeEntry] at member
    split at member
    next same =>
      rcases List.mem_cons.mp member with rfl | later
      · exact .inr ⟨rfl, .inl same⟩
      · exact .inl (List.mem_cons_of_mem _ later)
    next =>
      rcases List.mem_cons.mp member with rfl | later
      · exact .inl List.mem_cons_self
      · rcases inRest later with before | written
        · exact .inl (List.mem_cons_of_mem _ before)
        · exact .inr written

theorem exists_of_find? {memo : Memo} {function : Text} {arguments : List (Option Frame)}
    {frame : Frame} (found : memo.find? function arguments = some frame) :
    ∃ entry ∈ memo.entries function,
      sameArguments entry.arguments arguments = true ∧ entry.result = frame := by
  obtain ⟨entry, isFound, rfl⟩ := Option.map_eq_some_iff.mp found
  have same := List.find?_some isFound
  exact ⟨entry, List.mem_of_find?_eq_some isFound, same, rfl⟩

theorem Holds.remember {property : Frame → Prop} {memo : Memo} (holds : memo.Holds property)
    (function : Text) (arguments : List (Option Frame)) {result : Frame}
    (resultHolds : property result) : (memo.remember function arguments result).Holds property := by
  intro other entry member
  rw [entries_remember] at member
  split at member
  · rcases mem_writeEntry member with before | written
    · exact holds function entry before
    · rw [written.1]
      exact resultHolds
  · exact holds other entry member

theorem Holds.find? {property : Frame → Prop} {memo : Memo} (holds : memo.Holds property)
    {function : Text} {arguments : List (Option Frame)} {frame : Frame}
    (found : memo.find? function arguments = some frame) : property frame := by
  obtain ⟨entry, member, _, rfl⟩ := exists_of_find? found
  exact holds function entry member

@[simp] theorem entries_empty (function : Text) : Memo.entries .empty function = [] := rfl

theorem holds_empty (property : Frame → Prop) : Memo.Holds property .empty := by
  intro function entry member
  simp at member

end Memo

/-! ## Calls that look up -/

abbrev Recall := Memo → Text → List (Option Frame) → Option Frame

def Recall.never : Recall := fun _ _ _ => none

/-- Calls that are answered by what look-ups find, or else through the body of the function. -/
def callsWith (lookUp : Recall) (registry : Registry) : (depth : Nat) → HelperCall
  | 0 => fun _ _ => throw .endlessCalls
  | depth + 1 => fun info arguments => do
    if !ordered arguments then throw .unorderedLabels
    match lookUp (← get).memo info.definition.name arguments with
    | some frame => return some frame
    | none => enter registry (callsWith lookUp registry depth) info arguments

theorem callHelper_eq_callsWith (registry : Registry) (depth : Nat) :
    callHelper registry depth = callsWith Memo.find? registry depth := by
  induction depth with
  | zero => rfl
  | succ depth inDepth =>
    rw [callHelper, callsWith]
    exact inDepth ▸ rfl

section Equations

variable {lookUp : Recall} {registry : Registry} {depth : Nat} {info : FunctionInfo}
  {arguments : List (Option Frame)}

theorem callsWith_of_ordered (isOrdered : ordered arguments = true) (walk : Walk) :
    callsWith lookUp registry (depth + 1) info arguments walk =
      match lookUp walk.memo info.definition.name arguments with
      | some frame => .ok (some frame) walk
      | none => enter registry (callsWith lookUp registry depth) info arguments walk := by
  simp only [callsWith, isOrdered]
  show (match lookUp walk.memo info.definition.name arguments with
    | some frame => Pure.pure (some frame)
    | none => enter registry (callsWith lookUp registry depth) info arguments : Walker _) walk = _
  cases lookUp walk.memo info.definition.name arguments <;> rfl

theorem callsWith_of_unordered (unordered : ordered arguments = false) (walk : Walk) :
    callsWith lookUp registry (depth + 1) info arguments walk = .error .unorderedLabels walk := by
  simp only [callsWith, unordered]
  rfl

def callStart (info : FunctionInfo) (arguments : List (Option Frame)) (walk : Walk) : Walk :=
  { frames := bindArguments info.definition.regularParameters arguments, memo := walk.memo }

def callMemo (info : FunctionInfo) (arguments : List (Option Frame)) (after : Walk) : Memo :=
  match after.returned with
  | some frame => after.memo.remember info.definition.name arguments frame
  | none => after.memo

theorem enter_of_ok {helper : HelperCall} {walk after : Walk} {value : Unit}
    (result : walkBlock registry helper info.definition.body (callStart info arguments walk) =
      .ok value after) :
    enter registry helper info arguments walk =
      .ok after.returned { walk with memo := callMemo info arguments after } := by
  unfold callStart at result
  simp only [enter, result]
  rfl

theorem enter_of_error {helper : HelperCall} {walk after : Walk} {fault : Fault}
    (result : walkBlock registry helper info.definition.body (callStart info arguments walk) =
      .error fault after) :
    enter registry helper info arguments walk =
      .error fault { walk with memo := after.memo } := by
  unfold callStart at result
  simp only [enter, result]

end Equations

/-! ## What calls keep -/

section Calls

variable {allowed : Fault → Prop} {property : Frame → Prop} {memory : Memo → Prop}
  {admitted : Expr → Prop} {registry : Registry}

theorem bindArguments_holds {parameters : List Parameter} {arguments : List (Option Frame)}
    (argumentsHold : ∀ argument ∈ arguments, ∀ frame ∈ argument, property frame)
    (name : Text) (frame : Frame)
    (found : (bindArguments parameters arguments).get? name = some frame) : property frame := by
  rcases Table.get?_insertAll found with inEmpty | ⟨entry, member, rfl⟩
  · simp at inEmpty
  · obtain ⟨pair, inZip, isEntry⟩ := List.mem_filterMap.mp member
    obtain ⟨bound, isBound, rfl⟩ := Option.map_eq_some_iff.mp isEntry
    exact argumentsHold pair.2 (List.of_mem_zip inZip).2 bound isBound

theorem callStart_holds {info : FunctionInfo} {arguments : List (Option Frame)} {walk : Walk}
    (argumentsHold : ∀ argument ∈ arguments, ∀ frame ∈ argument, property frame)
    (holds : walk.Holds property memory) :
    (callStart info arguments walk).Holds property memory :=
  ⟨bindArguments_holds argumentsHold, by simp [callStart], holds.memo⟩

theorem enter_keeps {helper : HelperCall} {info : FunctionInfo}
    {arguments : List (Option Frame)} {walk : Walk}
    (body : Walker.Yields allowed (walkBlock registry helper info.definition.body)
      (callStart info arguments walk) fun _ after => after.Holds property memory)
    (remembers : ∀ value after frame,
      walkBlock registry helper info.definition.body (callStart info arguments walk) =
        .ok value after → after.returned = some frame → memory after.memo → property frame →
      memory (after.memo.remember info.definition.name arguments frame))
    (holds : walk.Holds property memory) :
    Walker.Yields allowed (enter registry helper info arguments) walk fun result after =>
      (∀ frame ∈ result, property frame) ∧ after.Holds property memory := by
  unfold Walker.Yields at body ⊢
  cases result : walkBlock registry helper info.definition.body (callStart info arguments walk) with
  | error fault after =>
    rw [result] at body
    rw [enter_of_error result]
    exact body
  | ok value after =>
    rw [result] at body
    rw [enter_of_ok result]
    refine ⟨body.returned, holds.frames, holds.returned, ?_⟩
    show memory (callMemo info arguments after)
    unfold callMemo
    cases isReturned : after.returned with
    | none => exact body.memo
    | some frame =>
      exact remembers value after frame result isReturned body.memo (body.returned frame isReturned)

/-- How many calls may still be inside each other when a function is called: enough for the calls
inside it, unless running out of them is allowed. -/
structure Registry.Budget (allowed : Fault → Prop) (registry : Registry)
    (within : Nat → Text → Prop) : Prop where
  exhausted : ∀ name, within 0 name → allowed .endlessCalls
  descends : ∀ depth caller callee, within (depth + 1) caller → registry.Calls caller callee →
    within depth callee

theorem Registry.Acyclic.budget (acyclic : registry.Acyclic) :
    registry.Budget allowed fun depth name => registry.rank name < depth where
  exhausted _ within := absurd within (Nat.not_lt_zero _)
  descends _ _ callee within calls := by
    have lower := Registry.rank_lt_of_calls (acyclic callee) calls
    omega

theorem Registry.budget_of_allowed (endless : allowed .endlessCalls) :
    registry.Budget allowed fun _ _ => True where
  exhausted _ _ := endless
  descends _ _ _ _ _ := trivial

/-- A memo keeps its property when the frame of a call that has ended is added to it. -/
def Registry.Remembers (registry : Registry) (lookUp : Recall) (property : Frame → Prop)
    (memory : Memo → Prop) : Prop :=
  ∀ depth name info arguments walk value after frame, registry.Untyped name info →
    (∀ argument ∈ arguments, ∀ frame ∈ argument, property frame) → memory walk.memo →
    walkBlock registry (callsWith lookUp registry depth) info.definition.body
      (callStart info arguments walk) = .ok value after →
    after.returned = some frame → memory after.memo → property frame →
    memory (after.memo.remember info.definition.name arguments frame)

theorem Registry.remembers_of_memory {lookUp : Recall}
    (remembers : ∀ memo name arguments frame,
      (∀ argument ∈ arguments, ∀ frame ∈ argument, property frame) → memory memo →
      property frame → memory (memo.remember name arguments frame)) :
    registry.Remembers lookUp property memory := by
  intro _ _ info arguments _ _ after frame _ argumentsHold _ _ _ holds frameHolds
  exact remembers after.memo info.definition.name arguments frame argumentsHold holds frameHolds

/-- Calls keep the properties, as long as those inside them stay within their budget. The
induction is on the number of calls that may still be inside each other. -/
theorem callsWith_keeps {lookUp : Recall} (operations : OperationsKeep allowed property admitted)
    (returns : registry.ReturnsHold property)
    (declared : ∀ hint, ∀ frame ∈ declaredFrame? hint, property frame)
    (orders : ∀ arguments, (∀ argument ∈ arguments, ∀ frame ∈ argument, property frame) →
      ordered arguments = true ∨ allowed .unorderedLabels)
    (recalls : ∀ memo name arguments frame, memory memo →
      lookUp memo name arguments = some frame → property frame)
    (remembers : registry.Remembers lookUp property memory)
    (bodies : ∀ name info, registry.Untyped name info →
      ∀ part ∈ blockParts info.definition.body, admitted part)
    {within : Nat → Text → Prop} (budget : registry.Budget allowed within)
    (depth : Nat) {name : Text} {info : FunctionInfo} (untyped : registry.Untyped name info)
    (isWithin : within depth name) :
    HelperKeeps allowed property memory (callsWith lookUp registry depth) info := by
  induction depth generalizing name info with
  | zero => exact fun _ _ _ _ => .throw (budget.exhausted name isWithin)
  | succ depth inDepth =>
    intro arguments walk argumentsHold holds
    have body : Walker.Yields allowed
        (walkBlock registry (callsWith lookUp registry depth) info.definition.body)
        (callStart info arguments walk) fun _ after => after.Holds property memory := by
      refine walkBlock_yields operations returns declared (fun part inBody => ?_)
        (callStart_holds argumentsHold holds)
      refine ⟨bodies name info untyped part inBody, fun callee calleeInfo called isUntyped => ?_⟩
      have calls : registry.Calls name callee :=
        ⟨⟨info, untyped, part, inBody, called⟩, calleeInfo, isUntyped⟩
      exact inDepth isUntyped (budget.descends depth name callee isWithin calls)
    have entered := enter_keeps body
      (fun _ _ _ => remembers depth name info arguments walk _ _ _ untyped argumentsHold holds.memo)
      holds
    unfold Walker.Yields at entered ⊢
    cases isOrdered : ordered arguments with
    | false =>
      rw [callsWith_of_unordered isOrdered]
      exact (orders arguments argumentsHold).resolve_left (by simp [isOrdered])
    | true =>
      rw [callsWith_of_ordered isOrdered]
      cases found : lookUp walk.memo info.definition.name arguments with
      | none => exact entered
      | some frame =>
        have frameHolds : property frame := recalls _ _ _ _ holds.memo found
        exact ⟨by simpa using frameHolds, holds⟩

end Calls

end FrameCheck.Analysis
