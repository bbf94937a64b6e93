import FrameCheck.Proofs.LostFrames

/-!
What becomes of the frame of a variable. An assignment gives the variable the frame of its value,
if there is one, and leaves all other variables as they are. A value without a frame leaves the
variable with the frame that it had, so a variable has the frame of the last of its values for
which one was found. That is the frame of its last value, unless none was found for that one and
there was a frame before.
-/

namespace FrameCheck.Analysis

open Syntax

/-! ## Values that are found -/

namespace Effect

def find (registry : Registry) (helper : HelperCall) : Effect → Walker (Option Frame)
  | .declare _ hint => return declaredFrame? hint
  | .assign _ value => infer registry helper value
  | .give value => infer registry helper value

def put : Effect → Option Frame → Walker Unit
  | .declare name _, frame => Walker.assign name frame
  | .assign name _, frame => Walker.assign name frame
  | .give _, frame => modify fun walk => { walk with returned := frame }

theorem run_eq_find_put (registry : Registry) (helper : HelperCall) (effect : Effect) :
    effect.run registry helper = (do effect.put (← effect.find registry helper)) := by
  cases effect with
  | declare name hint => simp [run, find, put]
  | assign name value => rfl
  | give value => rfl

end Effect

def findValues (registry : Registry) (helper : HelperCall) (name : Text) :
    List Effect → Walker (List (Option Frame))
  | [] => return []
  | effect :: rest => do
    let frame ← effect.find registry helper
    effect.put frame
    let later ← findValues registry helper name rest
    return if effect.target? = some name then frame :: later else later

section Walks

variable {registry : Registry} {helper : HelperCall} {name : Text}

theorem findValues_eq_runEffects (effects : List Effect) :
    (do let _ ← findValues registry helper name effects) =
      runEffects registry helper effects := by
  induction effects with
  | nil => simp [findValues, runEffects]
  | cons effect rest inRest =>
    simp [findValues, runEffects, Effect.run_eq_find_put, ← inRest]

theorem exists_findValues {effects : List Effect} {walk after : Walk}
    (result : runEffects registry helper effects walk = .ok ⟨⟩ after) :
    ∃ found, findValues registry helper name effects walk = .ok found after := by
  rw [← findValues_eq_runEffects] at result
  obtain ⟨found, last, isFound, same⟩ := Steps.bind_eq_ok_iff.mp result
  cases same
  exact ⟨found, isFound⟩

theorem findValues_cons {effect : Effect} {rest : List Effect} {walk after : Walk}
    {found : List (Option Frame)}
    (result : findValues registry helper name (effect :: rest) walk = .ok found after) :
    ∃ frame middle next later, effect.find registry helper walk = .ok frame middle ∧
      effect.put frame middle = .ok ⟨⟩ next ∧
      findValues registry helper name rest next = .ok later after ∧
      found = if effect.target? = some name then frame :: later else later := by
  obtain ⟨frame, middle, isFound, others⟩ := Steps.bind_eq_ok_iff.mp result
  obtain ⟨_, next, isPut, others⟩ := Steps.bind_eq_ok_iff.mp others
  obtain ⟨later, last, inRest, same⟩ := Steps.bind_eq_ok_iff.mp others
  cases same
  exact ⟨frame, middle, next, later, isFound, isPut, inRest, rfl⟩

end Walks

/-! ## The frame that is kept -/

/-- The frame of the last value for which one was found. Before there is such a value, it is the
frame at the start. -/
def lastFound (start : Option Frame) (found : List (Option Frame)) : Option Frame :=
  found.foldl (fun kept frame => frame.or kept) start

def lastValue (start : Option Frame) (found : List (Option Frame)) : Option Frame :=
  found.getLast?.getD start

theorem lastFound_eq_none_iff {start : Option Frame} {found : List (Option Frame)} :
    lastFound start found = none ↔ start = none ∧ ∀ frame ∈ found, frame = none := by
  induction found generalizing start with
  | nil => simp [lastFound]
  | cons frame rest inRest =>
    have step : lastFound start (frame :: rest) = lastFound (frame.or start) rest := rfl
    rw [step, inRest, Option.or_eq_none_iff, List.forall_mem_cons]
    tauto

theorem lastFound_eq_lastValue_iff {start : Option Frame} {found : List (Option Frame)} :
    lastFound start found = lastValue start found ↔
      (found.getLast? = some none → start = none ∧ ∀ frame ∈ found, frame = none) := by
  rcases List.eq_nil_or_concat' found with rfl | ⟨before, last, rfl⟩
  · simp [lastFound, lastValue]
  · have value : lastValue start (before ++ [last]) = last := by simp [lastValue]
    rw [value, List.getLast?_concat]
    cases last with
    | some frame => simp [lastFound]
    | none =>
      rw [lastFound_eq_none_iff]
      exact (imp_iff_right rfl).symm

section Runs

variable {registry : Registry} {depth : Nat} {walk after : Walk} {name : Text}

theorem frames_of_find {effect : Effect} {frame : Option Frame}
    (result : effect.find registry (callHelper registry depth) walk = .ok frame after) :
    after.frames = walk.frames := by
  cases effect with
  | declare target hint =>
    cases result
    rfl
  | assign target value => exact (infer_extends result).frames
  | give value => exact (infer_extends result).frames

theorem Walk.get?_assigned_self (walk : Walk) (name : Text) (frame : Option Frame) :
    (walk.assigned name frame).frames.get? name = frame.or (walk.frames.get? name) := by
  cases frame with
  | none => rfl
  | some frame => simp [assigned, Table.get?_insert]

theorem get?_of_put {effect : Effect} {frame : Option Frame}
    (result : effect.put frame walk = .ok ⟨⟩ after) :
    after.frames.get? name =
      if effect.target? = some name then frame.or (walk.frames.get? name)
      else walk.frames.get? name := by
  have assigned : ∀ target, Walker.assign target frame walk = .ok ⟨⟩ after →
      after.frames.get? name =
        if some target = some name then frame.or (walk.frames.get? name)
        else walk.frames.get? name := by
    intro target result
    rw [assign_eq_ok] at result
    cases result
    split
    next isTarget =>
      cases isTarget
      exact walk.get?_assigned_self name frame
    next other => exact Walk.get?_assigned (by simpa using other) frame
  cases effect with
  | declare target hint => exact assigned target result
  | assign target value => exact assigned target result
  | give value =>
    cases result
    rfl

theorem get?_of_findValues {effects : List Effect} {found : List (Option Frame)}
    (result : findValues registry (callHelper registry depth) name effects walk =
      .ok found after) :
    after.frames.get? name = lastFound (walk.frames.get? name) found := by
  induction effects generalizing walk found with
  | nil =>
    cases result
    rfl
  | cons effect rest inRest =>
    obtain ⟨frame, middle, next, later, isFound, isPut, others, rfl⟩ := findValues_cons result
    rw [inRest others, get?_of_put isPut, frames_of_find isFound]
    split <;> rfl

end Runs

/-- A statement `name = value`, and whole runs of statements. An assignment gives its variable the
frame of the value, if there is one; otherwise the variable keeps what it had, so it has the frame
of its value exactly if one was found or if it had none before. Other variables stay as they are.
After any run, a variable has the frame of its last value, unless none was found for that one and
the variable had one at the start or from an earlier value. -/
theorem variable_keeps_last_frame (registry : Registry) (name : String) (walk : Walk) :
    (∀ value fault middle, inferExpression registry value walk = .error fault middle →
      walkStatements registry [.assign [.name name] value] walk = .error fault middle) ∧
    (∀ value frame middle, inferExpression registry value walk = .ok frame middle →
      ∃ after, walkStatements registry [.assign [.name name] value] walk = .ok ⟨⟩ after ∧
        after.frames.get? name = frame.or (walk.frames.get? name) ∧
        (after.frames.get? name = frame ↔ frame ≠ none ∨ walk.frames.get? name = none) ∧
        ∀ other : Text, other ≠ name → after.frames.get? other = walk.frames.get? other) ∧
    ∀ statements after, walkStatements registry statements walk = .ok ⟨⟩ after →
      ∃ found, findValues registry (callHelper registry (callLimit registry)) name
          (blockEffects statements) walk = .ok found after ∧
        after.frames.get? name = lastFound (walk.frames.get? name) found ∧
        (after.frames.get? name = lastValue (walk.frames.get? name) found ↔
          (found.getLast? = some none →
            walk.frames.get? name = none ∧ ∀ frame ∈ found, frame = none)) := by
  refine ⟨fun value fault middle failed => ?_, fun value frame middle inferred => ?_,
    fun statements after walked => ?_⟩
  · rw [walkStatements, walkBlock_singleton, walkStatement]
    exact Steps.bind_of_error failed
  · have frames : middle.frames = walk.frames := (infer_extends inferred).frames
    refine ⟨middle.assigned name frame, ?_, ?_, ?_, fun other differ => ?_⟩
    · rw [walkStatements, walkBlock_singleton, walkStatement]
      exact (Steps.bind_of_ok inferred).trans (assign_eq_ok _ _ _)
    · rw [Walk.get?_assigned_self, frames]
    · rw [Walk.get?_assigned_self, frames]
      cases frame <;> simp
    · rw [Walk.get?_assigned differ.symm, frames]
  · rw [walkStatements, walkBlock_eq_runEffects] at walked
    obtain ⟨found, isFound⟩ := exists_findValues walked
    have kept := get?_of_findValues isFound
    refine ⟨found, isFound, kept, ?_⟩
    rw [kept]
    exact lastFound_eq_lastValue_iff

def tracking : Walk where
  frames := .ofList [("d", .ofList [(.text "a", .int64)])]

def dropping : Expr :=
  .call (.attribute (.name "d") "drop") [.literal (.text "a")] []

/-- A value without a frame does not take the frame away from its variable. -/
theorem dropping_keeps_frame :
    (match inferExpression .empty dropping tracking,
        walkStatements .empty [.assign [.name "d"] dropping] tracking with
      | .ok none _, .ok _ after => (after.frames.get? "d").isSome
      | _, _ => false) = true := by
  decide +kernel

def renewing : List Stmt :=
  [.assign [.name "x"] (.name "d"), .assign [.name "x"] dropping]

theorem renewing_outlives_value :
    ∃ after frame, walkStatements .empty renewing tracking = .ok ⟨⟩ after ∧
      findValues .empty (callHelper .empty (callLimit .empty)) "x" (blockEffects renewing)
        tracking = .ok [some frame, none] after ∧
      after.frames.get? "x" = some frame ∧
      after.frames.get? "x" ≠ lastValue (tracking.frames.get? "x") [some frame, none] := by
  have walks : Steps.holdsAfter (fun _ _ => true)
      (walkStatements .empty renewing tracking) = true := by
    decide +kernel
  have finds : Steps.holdsAfter (fun found _ => found.map Option.isSome == [true, false])
      (findValues .empty (callHelper .empty (callLimit .empty)) "x" (blockEffects renewing)
        tracking) = true := by
    decide +kernel
  obtain ⟨_, after, isWalked, -⟩ := Steps.exists_of_holdsAfter walks
  obtain ⟨values, _, isFound, pattern⟩ := Steps.exists_of_holdsAfter finds
  obtain ⟨frame, rfl⟩ : ∃ frame, values = [some frame, none] := by
    simpa [List.map_eq_cons_iff, Option.isSome_iff_exists] using pattern
  obtain ⟨_, _, runs⟩ := variable_keeps_last_frame .empty "x" tracking
  obtain ⟨found, collected, kept, isLast⟩ := runs renewing after isWalked
  have same := isFound.symm.trans collected
  cases same
  refine ⟨after, frame, isWalked, isFound, kept, fun agrees => ?_⟩
  obtain ⟨_, noFrame⟩ := isLast.mp agrees rfl
  exact absurd (noFrame (some frame) List.mem_cons_self) (by simp)

end FrameCheck.Analysis
