import FrameCheck.Proofs.Changes
import FrameCheck.Proofs.Points

/-!
The hints of a function are read twice: for its callers, who see a signature, and for its own
analysis, which also notes what cannot be read. Both readings come to the same frames. A function
is analysed if some hint holds a schema, and what its callers see is what is checked about it.
-/

namespace FrameCheck

namespace Table

variable {κ : Type u} {ν : Type v} {ω : Type w} [BEq κ]

theorem map_write (transform : ν → ω) (key : κ) (value : ν) (entries : List (κ × ν)) :
    (write key value entries).map (fun entry => (entry.1, transform entry.2)) =
      write key (transform value) (entries.map fun entry => (entry.1, transform entry.2)) := by
  induction entries with
  | nil => rfl
  | cons entry rest inRest =>
    rw [write, List.map_cons, write]
    split
    · rfl
    · rw [List.map_cons, inRest]

theorem mapValues_insert (transform : ν → ω) (table : Table κ ν) (key : κ) (value : ν) :
    (table.insert key value).mapValues (fun _ value => transform value) =
      (table.mapValues fun _ value => transform value).insert key (transform value) := by
  unfold insert mapValues
  simp only [mk.injEq]
  exact map_write transform key value table.entries

theorem insertAll_cons (table : Table κ ν) (entry : κ × ν) (rest : List (κ × ν)) :
    table.insertAll (entry :: rest) = (table.insert entry.1 entry.2).insertAll rest :=
  rfl

theorem mapValues_insertAll (transform : ν → ω) (table : Table κ ν) (entries : List (κ × ν)) :
    (table.insertAll entries).mapValues (fun _ value => transform value) =
      (table.mapValues fun _ value => transform value).insertAll
        (entries.map fun entry => (entry.1, transform entry.2)) := by
  induction entries generalizing table with
  | nil => rfl
  | cons entry rest inRest =>
    rw [insertAll_cons, inRest, mapValues_insert, List.map_cons, insertAll_cons]

theorem isEmpty_write (key : κ) (value : ν) (entries : List (κ × ν)) :
    (write key value entries).isEmpty = false := by
  cases entries with
  | nil => rfl
  | cons entry rest =>
    rw [write]
    split <;> rfl

theorem eq_empty_of_isEmpty {table : Table κ ν} (isEmpty : table.isEmpty = true) :
    table = .empty := by
  obtain ⟨entries, distinct⟩ := table
  cases entries with
  | nil => rfl
  | cons entry rest => cases isEmpty

theorem isEmpty_insertAll (table : Table κ ν) (entries : List (κ × ν)) :
    (table.insertAll entries).isEmpty = (table.isEmpty && entries.isEmpty) := by
  induction entries generalizing table with
  | nil => simp [insertAll]
  | cons entry rest inRest =>
    have written : (table.insert entry.1 entry.2).isEmpty = false :=
      isEmpty_write entry.1 entry.2 table.entries
    rw [insertAll_cons, inRest, written]
    simp

end Table

namespace Analysis

open Syntax

/-! ## Schemas in hints -/

def HoldsSchema (hint : Expr) (schema : Text) : Prop :=
  hint = .subscript (.name "DF") (.literal (.text schema)) ∧ schema.isEmpty = false

theorem schemaText?_eq_some_iff {hint : Expr} {schema : Text} :
    schemaText? hint = some schema ↔ HoldsSchema hint schema := by
  unfold HoldsSchema
  constructor
  · intro found
    unfold schemaText? at found
    split at found
    · split at found
      · cases found
      next notEmpty =>
        cases found
        exact ⟨rfl, by simpa using notEmpty⟩
    · cases found
  · rintro ⟨rfl, notEmpty⟩
    simp [schemaText?, notEmpty]

def parameterHint? (parameter : Parameter) : Option (Expr × (Schema.Error → Problem)) :=
  parameter.hint.map fun hint => (hint, .parameterSchema parameter.name)

/-- The hints of a function, those of its regular parameters first, each with the problem that it
is if its schema cannot be read. -/
def hints (definition : FunctionDefinition) : List (Expr × (Schema.Error → Problem)) :=
  definition.regularParameters.filterMap parameterHint? ++
    (definition.header.returns.map fun hint => (hint, .returnSchema)).toList

def IsHinted (definition : FunctionDefinition) : Prop :=
  ∃ hint ∈ hints definition, ∃ schema, HoldsSchema hint.1 schema

def unreadable? (hint : Expr × (Schema.Error → Problem)) : Option Problem :=
  match (schemaText? hint.1).map Schema.parseSchema with
  | some (.error error) => some (hint.2 error)
  | _ => none

/-! ## What an analysis reads -/

theorem bind_declaredFrame? (hint : Option Expr) :
    hint.bind declaredFrame? =
      match hint.bind hintedFrame? with
      | some (.ok frame) => some frame
      | _ => none := by
  cases hint <;> rfl

def parameterFrame? (parameter : Parameter) : Option (Text × Frame) :=
  (parameter.hint.bind declaredFrame?).map fun frame => (parameter.name, frame)

theorem inputs_foldl_declareParameter (parameters : List Parameter) (declared : Declarations) :
    (parameters.foldl declareParameter declared).inputs =
      declared.inputs.insertAll (parameters.filterMap parameterFrame?) := by
  induction parameters generalizing declared with
  | nil => rfl
  | cons parameter rest inRest =>
    rw [List.foldl_cons, inRest, List.filterMap_cons, parameterFrame?, bind_declaredFrame?,
      declareParameter]
    rcases parameter.hint.bind hintedFrame? with _ | (_ | _) <;> rfl

theorem problems_foldl_declareParameter (parameters : List Parameter) (declared : Declarations) :
    (parameters.foldl declareParameter declared).problems =
      declared.problems ++ (parameters.filterMap parameterHint?).filterMap unreadable? := by
  induction parameters generalizing declared with
  | nil => simp
  | cons parameter rest inRest =>
    rw [List.foldl_cons, inRest, declareParameter]
    cases isHint : parameter.hint with
    | none => simp [parameterHint?, isHint]
    | some hint =>
      have here : parameterHint? parameter = some (hint, .parameterSchema parameter.name) := by
        rw [parameterHint?, isHint, Option.map_some]
      rw [List.filterMap_cons_some here, List.filterMap_cons, unreadable?]
      simp only [Option.bind_some, hintedFrame?]
      rcases (schemaText? hint).map Schema.parseSchema with _ | (_ | _) <;> simp

theorem isHinted_foldl_declareParameter (parameters : List Parameter) (declared : Declarations) :
    (parameters.foldl declareParameter declared).isHinted =
      (declared.isHinted ||
        (parameters.filterMap parameterHint?).any fun hint => (schemaText? hint.1).isSome) := by
  induction parameters generalizing declared with
  | nil => simp
  | cons parameter rest inRest =>
    rw [List.foldl_cons, inRest, declareParameter]
    cases isHint : parameter.hint with
    | none => simp [parameterHint?, isHint]
    | some hint =>
      have here : parameterHint? parameter = some (hint, .parameterSchema parameter.name) := by
        rw [parameterHint?, isHint, Option.map_some]
      rw [List.filterMap_cons_some here, List.any_cons]
      simp only [Option.bind_some, hintedFrame?]
      cases schemaText? hint with
      | none => simp
      | some schema => cases parsed : Schema.parseSchema schema <;> simp [parsed]

theorem declarations_inputs (definition : FunctionDefinition) :
    (declarations definition).inputs =
      Table.ofList (definition.regularParameters.filterMap parameterFrame?) := by
  rw [declarations, inputs_declareReturn, inputs_foldl_declareParameter]
  rfl

theorem declarations_returns (definition : FunctionDefinition) :
    (declarations definition).returns = definition.header.returns.bind declaredFrame? := by
  rw [declarations, declareReturn, bind_declaredFrame?]
  rcases definition.header.returns.bind hintedFrame? with _ | (_ | _)
  · exact returns_foldl_declareParameter definition.regularParameters {}
  · exact returns_foldl_declareParameter definition.regularParameters {}
  · rfl

theorem declarations_problems (definition : FunctionDefinition) :
    (declarations definition).problems = (hints definition).filterMap unreadable? := by
  have parameters := problems_foldl_declareParameter definition.regularParameters {}
  rw [declarations, declareReturn, hints, List.filterMap_append]
  cases definition.header.returns with
  | none => simpa using parameters
  | some hint =>
    simp only [Option.bind_some, Option.map_some, Option.toList_some, hintedFrame?,
      List.filterMap_cons, List.filterMap_nil, unreadable?]
    rcases (schemaText? hint).map Schema.parseSchema with _ | (_ | _) <;> simpa using parameters

theorem isAnalyzed_iff (definition : FunctionDefinition) :
    isAnalyzed definition = true ↔ IsHinted definition := by
  have parameters := isHinted_foldl_declareParameter definition.regularParameters {}
  have hinted : isAnalyzed definition =
      (hints definition).any fun hint => (schemaText? hint.1).isSome := by
    rw [isAnalyzed, declarations, declareReturn, hints, List.any_append]
    cases definition.header.returns with
    | none => simpa using parameters
    | some hint =>
      simp only [Option.bind_some, Option.map_some, Option.toList_some, hintedFrame?,
        List.any_cons, List.any_nil, Bool.or_false]
      cases schemaText? hint with
      | none => simpa using parameters
      | some schema => cases parsed : Schema.parseSchema schema <;> simp [parsed]
  rw [hinted, List.any_eq_true, IsHinted]
  simp only [Option.isSome_iff_exists, schemaText?_eq_some_iff]

/-! ## What callers read -/

theorem declarations_inputs_eq (definition : FunctionDefinition) :
    (declarations definition).inputs =
      (declaredParameters definition).mapValues fun _ parameter => parameter.2 := by
  rw [declarations_inputs, declaredParameters, Table.ofList, Table.ofList,
    Table.mapValues_insertAll Prod.snd, List.map_filterMap]
  have firsts : definition.regularParameters =
      definition.regularParameters.zipIdx.map Prod.fst := by simp
  conv_lhs => rw [firsts, List.filterMap_map]
  congr 1
  refine List.filterMap_congr fun entry _ => ?_
  obtain ⟨parameter, position⟩ := entry
  show parameterFrame? parameter = _
  unfold parameterFrame?
  cases isHint : parameter.hint with
  | none => simp [isHint]
  | some hint => cases isDeclared : declaredFrame? hint <;> simp [isHint, isDeclared]

theorem isEmpty_declaredParameters (definition : FunctionDefinition) :
    (declaredParameters definition).isEmpty = true ↔
      ∀ hint ∈ definition.regularParameters.filterMap parameterHint?,
        declaredFrame? hint.1 = none := by
  have sizes : (declaredParameters definition).isEmpty =
      (declarations definition).inputs.isEmpty := by
    rw [declarations_inputs_eq]
    exact List.isEmpty_map.symm
  rw [sizes, declarations_inputs, Table.ofList, Table.isEmpty_insertAll]
  have empty : (Table.empty : Table Text Frame).isEmpty = true := rfl
  rw [empty, Bool.true_and, List.isEmpty_iff, List.filterMap_eq_nil_iff, List.forall_mem_filterMap]
  refine forall₂_congr fun parameter _ => ?_
  cases isHint : parameter.hint <;> simp [parameterFrame?, parameterHint?, isHint]

/-- What a signature can be: none, if no hint declares a frame, or else the declared frames. -/
theorem signature?_cases (definition : FunctionDefinition) :
    (signature? definition = none ∧ (declaredParameters definition).isEmpty = true ∧
      definition.header.returns.bind declaredFrame? = none) ∨
    (¬ ((declaredParameters definition).isEmpty = true ∧
        definition.header.returns.bind declaredFrame? = none) ∧
      ∃ signature, signature? definition = some signature ∧
        signature.parameters = declaredParameters definition ∧
        signature.returns = definition.header.returns.bind declaredFrame?) := by
  unfold signature?
  simp only [Bool.and_eq_true, Option.isNone_iff_eq_none]
  split
  next none => exact .inl ⟨rfl, none⟩
  next some => exact .inr ⟨some, _, rfl, rfl, rfl⟩

theorem signature?_eq_none_iff (definition : FunctionDefinition) :
    signature? definition = none ↔ ∀ hint ∈ hints definition, declaredFrame? hint.1 = none := by
  have undeclared : ((declaredParameters definition).isEmpty = true ∧
      definition.header.returns.bind declaredFrame? = none) ↔
      ∀ hint ∈ hints definition, declaredFrame? hint.1 = none := by
    rw [isEmpty_declaredParameters, hints, List.forall_mem_append]
    refine and_congr_right fun _ => ?_
    cases definition.header.returns <;> simp
  rw [← undeclared]
  rcases signature?_cases definition with ⟨unsigned, none⟩ | ⟨some, signature, isSigned, _⟩
  · exact iff_of_true unsigned none
  · exact iff_of_false (by simp [isSigned]) some

def seenInputs (definition : FunctionDefinition) : Table Text Frame :=
  match signature? definition with
  | some signature => signature.parameters.mapValues fun _ parameter => parameter.2
  | none => .empty

def seenReturn (definition : FunctionDefinition) : Option Frame :=
  (signature? definition).bind Signature.returns

theorem declarations_inputs_eq_seenInputs (definition : FunctionDefinition) :
    (declarations definition).inputs = seenInputs definition := by
  rw [declarations_inputs_eq, seenInputs]
  rcases signature?_cases definition with ⟨unsigned, none, _⟩ | ⟨_, signature, isSigned, same, _⟩
  · rw [unsigned, Table.eq_empty_of_isEmpty none]
    rfl
  · rw [isSigned, ← same]

theorem declarations_returns_eq_seenReturn (definition : FunctionDefinition) :
    (declarations definition).returns = seenReturn definition := by
  rw [declarations_returns, seenReturn]
  rcases signature?_cases definition with ⟨unsigned, _, none⟩ | ⟨_, signature, isSigned, _, same⟩
  · rw [unsigned, none]
    rfl
  · rw [isSigned, Option.bind_some, same]

/-! ## Summaries -/

/-- A summary shows what callers see, and starts its problems with one for each schema that cannot
be read; the others are of the body. -/
structure ShowsHints (definition : FunctionDefinition) (summary : Summary) : Prop where
  inputs : summary.inputs = seenInputs definition
  declared : summary.declared = seenReturn definition
  problems : ∃ found, summary.problems = (hints definition).filterMap unreadable? ++ found ∧
    ∀ problem ∈ found, problem.isOfHint = false

theorem showsHints_of_walked {registry : Registry} {depth : Nat} {definition : FunctionDefinition}
    {memo : Memo} {walk : Walk}
    (walked : walkBlock registry (callHelper registry depth) definition.body
      (analysisStart definition memo) = .ok ⟨⟩ walk) :
    ShowsHints definition (summaryAfter definition walk) where
  inputs := declarations_inputs_eq_seenInputs definition
  declared := declarations_returns_eq_seenReturn definition
  problems := by
    rw [walkBlock_eq_runEffects] at walked
    obtain ⟨found, isFound, ofBody⟩ := runEffects_grows walked
    exact ⟨found, isFound.trans (congrArg (· ++ found) (declarations_problems definition)), ofBody⟩

/-- What callers see of a function is what is checked about it. A function without a schema in its
hints is passed over. Any other one has a summary, unless the walk through its body breaks off; it
shows the frames of the signature that callers see, and a problem for each schema that cannot be
read. There is no signature if none can be read. -/
theorem analyzeFunction_showsHints (registry : Registry) (depth : Nat)
    (definition : FunctionDefinition) (memo : Memo) :
    (analyzeFunction registry (callHelper registry depth) definition memo = .ok (none, memo) ↔
      ¬ IsHinted definition) ∧
    ((∃ summary after, analyzeFunction registry (callHelper registry depth) definition memo =
        .ok (some summary, after)) ↔
      IsHinted definition ∧
        ∃ walk, walkBlock registry (callHelper registry depth) definition.body
          (analysisStart definition memo) = .ok ⟨⟩ walk) ∧
    (∀ summary after, analyzeFunction registry (callHelper registry depth) definition memo =
      .ok (some summary, after) → ShowsHints definition summary) ∧
    (signature? definition = none ↔ ∀ hint ∈ hints definition, declaredFrame? hint.1 = none) := by
  rw [← isAnalyzed_iff]
  cases analyzed : isAnalyzed definition with
  | false =>
    rw [analyzeFunction_of_not_analyzed analyzed]
    exact ⟨by simp, by simp, by simp, signature?_eq_none_iff definition⟩
  | true =>
    rw [analyzeFunction_of_analyzed analyzed]
    cases walked : walkBlock registry (callHelper registry depth) definition.body
        (analysisStart definition memo) with
    | error fault walk => exact ⟨by simp, by simp, by simp, signature?_eq_none_iff definition⟩
    | ok value walk =>
      refine ⟨by simp, by simp, ?_, signature?_eq_none_iff definition⟩
      rintro summary after ⟨⟩
      exact showsHints_of_walked walked

def partlyHinted : FunctionDefinition where
  header :=
    { name := "f", line := 1
      parameters :=
        { regular := [
            { name := "a"
              hint := some (.subscript (.name "DF") (.literal (.text "\x7bx: Int64?\x7d"))) },
            { name := "b"
              hint := some (.subscript (.name "DF") (.literal (.text "\x7by: Integer\x7d"))) },
            { name := "c", hint := some (.subscript (.name "DF") (.literal (.text ""))) }] }
      returns := some (.subscript (.name "DF") (.literal (.text "\x7bz\x7d"))) }
  body := [.returning (some (.name "a"))]

theorem partlyHinted_showsHints :
    IsHinted partlyHinted ∧
    ∃ summary after,
      analyzeFunction .empty (callHelper .empty 1) partlyHinted .empty = .ok (some summary, after) ∧
      ShowsHints partlyHinted summary ∧ summary.problems.length = 2 := by
  obtain ⟨_, _, shows, _⟩ := analyzeFunction_showsHints .empty 1 partlyHinted .empty
  have analyzed : Steps.holdsOf
      (fun found => found.1.any fun summary => summary.problems.length == 2)
      (analyzeFunction .empty (callHelper .empty 1) partlyHinted .empty) = true := by
    decide +kernel
  obtain ⟨⟨_, after⟩, isAnalyzed, holds⟩ := Steps.exists_of_holdsOf analyzed
  obtain ⟨summary, rfl, two⟩ := (Option.any_eq_true _ _).mp holds
  exact ⟨⟨_, List.mem_cons_self, _, rfl, rfl⟩, summary, after, isAnalyzed,
    shows summary after isAnalyzed, beq_iff_eq.mp two⟩

def circling : FunctionDefinition where
  header := { name := "h", line := 1, parameters := { regular := [{ name := "x" }] } }
  body := [.returning (some (.call (.name "h") [.name "x"] []))]

def circlingCaller : FunctionDefinition where
  header :=
    { name := "f", line := 3
      parameters :=
        { regular := [
            { name := "d"
              hint := some (.subscript (.name "DF") (.literal (.text "\x7ba: Int64\x7d"))) }] } }
  body := [.returning (some (.call (.name "h") [.name "d"] []))]

/-- A walk through a body may break off. Then there is no summary, whatever the hints are. -/
theorem circlingCaller_has_no_summary :
    IsHinted circlingCaller ∧
    (match analyzeFunction (.ofDefinitions [circling, circlingCaller])
        (callHelper (.ofDefinitions [circling, circlingCaller])
          (callLimit (.ofDefinitions [circling, circlingCaller]))) circlingCaller .empty with
      | .error fault => some fault
      | .ok _ => none) = some Fault.endlessCalls :=
  ⟨⟨_, List.mem_cons_self, _, rfl, rfl⟩, by decide +kernel⟩

end Analysis

end FrameCheck
