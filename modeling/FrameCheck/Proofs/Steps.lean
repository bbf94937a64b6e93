import Mathlib.Data.List.Forall2

/-!
Steps that may fail, over a state and without one: where two of them in a row come to, and all
those of a list.
-/

namespace FrameCheck.Steps

variable {ε σ α β : Type u} {step : EStateM ε σ α} {next : α → EStateM ε σ β}
  {state after last : σ}

theorem bind_of_ok {value : α} (result : step state = .ok value after) :
    (step >>= next) state = next value after := by
  simp only [bind, EStateM.bind, result]

theorem bind_of_error {error : ε} (result : step state = .error error after) :
    (step >>= next) state = .error error after := by
  simp only [bind, EStateM.bind, result]

theorem bind_eq_ok_iff {value : β} :
    (step >>= next) state = .ok value last ↔
      ∃ first after, step state = .ok first after ∧ next first after = .ok value last := by
  cases result : step state with
  | ok first after =>
    rw [bind_of_ok result]
    constructor
    · intro succeeds
      exact ⟨first, after, rfl, succeeds⟩
    · rintro ⟨_, _, same, succeeds⟩
      cases same
      exact succeeds
  | error error after =>
    rw [bind_of_error result]
    simp

theorem exists_of_bind_ok {ε : Type u} {α β : Type v} {result : Except ε α}
    {next : α → Except ε β} {value : β} (succeeded : result >>= next = .ok value) :
    ∃ first, result = .ok first ∧ next first = .ok value := by
  cases result with
  | error error => cases succeeded
  | ok first => exact ⟨first, rfl, succeeded⟩

theorem eq_error_of_bind_pure {ε : Type u} {α β : Type v} {result : Except ε α}
    {transform : α → β} {error : ε}
    (failed : (do return transform (← result) : Except ε β) = .error error) :
    result = .error error := by
  cases result with
  | error other =>
    cases failed
    rfl
  | ok value => cases failed

def holdsAfter (test : α → σ → Bool) : EStateM.Result ε σ α → Bool
  | .ok value after => test value after
  | .error _ _ => false

theorem exists_of_holdsAfter {test : α → σ → Bool} {result : EStateM.Result ε σ α}
    (holds : holdsAfter test result = true) :
    ∃ value after, result = .ok value after ∧ test value after = true := by
  cases result with
  | error error after => cases holds
  | ok value after => exact ⟨value, after, rfl, holds⟩

def holdsOf {ε : Type u} {α : Type v} (test : α → Bool) : Except ε α → Bool
  | .ok value => test value
  | .error _ => false

theorem exists_of_holdsOf {ε : Type u} {α : Type v} {test : α → Bool} {result : Except ε α}
    (holds : holdsOf test result = true) : ∃ value, result = .ok value ∧ test value = true := by
  cases result with
  | error error => cases holds
  | ok value => exact ⟨value, rfl, holds⟩

section Lists

variable {ε : Type u} {α : Type v} {β : Type w} {step : α → Except ε β} {first : α} {rest : List α}

theorem mapM_cons_of_error {error : ε} (failed : step first = .error error) :
    (first :: rest).mapM step = .error error := by
  rw [List.mapM_cons, failed]
  rfl

theorem mapM_cons_of_ok {value : β} (succeeded : step first = .ok value) :
    (first :: rest).mapM step = (rest.mapM step).map (value :: ·) := by
  rw [List.mapM_cons, succeeded]
  cases rest.mapM step <;> rfl

theorem mapM_eq_ok_iff {items : List α} {values : List β} :
    items.mapM step = .ok values ↔
      List.Forall₂ (fun item value => step item = .ok value) items values := by
  induction items generalizing values with
  | nil =>
    rw [List.mapM_nil, List.forall₂_nil_left_iff]
    exact ⟨fun isOk => (Except.ok.inj isOk).symm, fun isNil => congrArg Except.ok isNil.symm⟩
  | cons first rest inRest =>
    cases result : step first with
    | error error =>
      rw [mapM_cons_of_error result]
      refine ⟨nofun, fun each => ?_⟩
      cases each with
      | cons succeeded _ => rw [result] at succeeded; cases succeeded
    | ok value =>
      rw [mapM_cons_of_ok result]
      constructor
      · intro isOk
        cases others : rest.mapM step with
        | error error => rw [others] at isOk; cases isOk
        | ok later =>
          rw [others] at isOk
          cases isOk
          exact .cons result (inRest.mp others)
      · intro each
        cases each with
        | cons succeeded others =>
          rw [result] at succeeded
          cases succeeded
          rw [inRest.mpr others]
          rfl

theorem mapM_eq_error_iff {items : List α} {error : ε} :
    items.mapM step = .error error ↔
      ∃ before offender after, items = before ++ offender :: after ∧
        (∀ item ∈ before, ∃ value, step item = .ok value) ∧ step offender = .error error := by
  induction items with
  | nil => simp [pure, Except.pure]
  | cons first rest inRest =>
    cases result : step first with
    | error failure =>
      rw [mapM_cons_of_error result]
      constructor
      · rintro ⟨⟩
        exact ⟨[], first, rest, rfl, nofun, result⟩
      · rintro ⟨before, offender, after, split, succeed, failed⟩
        cases before with
        | nil =>
          cases split
          rw [result] at failed
          cases failed
          rfl
        | cons _ others =>
          cases split
          obtain ⟨value, succeeded⟩ := succeed first List.mem_cons_self
          rw [result] at succeeded
          cases succeeded
    | ok value =>
      have onlyRest : (rest.mapM step).map (value :: ·) = .error error ↔
          rest.mapM step = .error error := by
        cases rest.mapM step <;> simp [Except.map]
      rw [mapM_cons_of_ok result, onlyRest, inRest]
      constructor
      · rintro ⟨before, offender, after, rfl, succeed, failed⟩
        exact ⟨first :: before, offender, after, rfl,
          List.forall_mem_cons.mpr ⟨⟨value, result⟩, succeed⟩, failed⟩
      · rintro ⟨before, offender, after, split, succeed, failed⟩
        cases before with
        | nil =>
          cases split
          rw [result] at failed
          cases failed
        | cons _ others =>
          cases split
          exact ⟨others, offender, after, rfl, (List.forall_mem_cons.mp succeed).2, failed⟩

theorem exists_mapM_ok_iff {items : List α} :
    (∃ values, items.mapM step = .ok values) ↔ ∀ item ∈ items, ∃ value, step item = .ok value := by
  constructor
  · rintro ⟨values, succeeded⟩ item member
    have each := mapM_eq_ok_iff.mp succeeded
    clear succeeded
    induction each with
    | nil => cases member
    | @cons _ value _ _ isOk _ inRest =>
      rcases List.mem_cons.mp member with rfl | later
      · exact ⟨value, isOk⟩
      · exact inRest later
  · intro each
    cases result : items.mapM step with
    | ok values => exact ⟨values, rfl⟩
    | error error =>
      rcases mapM_eq_error_iff.mp result with ⟨before, offender, after, rfl, _, failed⟩
      rcases each offender (List.mem_append_right _ List.mem_cons_self) with ⟨value, succeeded⟩
      rw [failed] at succeeded
      cases succeeded

end Lists

end FrameCheck.Steps
