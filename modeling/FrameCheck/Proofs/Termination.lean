import FrameCheck.Proofs.WellFormed

/-!
Analyses end. Where labels are texts and functions without a signature do not come back to
themselves, the analysis of a script yields its summaries: calls are never inside each other
deeper than there are functions, and labels always have an order. Only a whole number of too
many digits, given as the name of a column that is then not found, can make it break off.
-/

namespace FrameCheck.Analysis

open Syntax Typing

/-- The analysis of a script yields its summaries, if it labels columns by texts only and no
function without a signature comes back to itself. It breaks off only where a column is named
by a whole number that is too long to be written. -/
theorem analyzeStatements_ends {statements : List Stmt}
    (labels : ∀ part ∈ blockParts statements, LabelsText part)
    (acyclic : (registryOf statements).Acyclic) :
    (∃ summaries, analyzeStatements statements = .ok summaries ∧
      ∀ text, parseStatements text = .ok statements → analyzeScript text = .ok summaries) ∨
    (analyzeStatements statements = .error .longNumber ∧
      ¬ ∀ part ∈ blockParts statements, NamesWritable part) := by
  let registry := registryOf statements
  let writable := ∀ part ∈ blockParts statements, NamesWritable part
  have admitted : ∀ part ∈ blockParts statements, Admitted writable part :=
    fun part inScript => ⟨labels part inScript, fun holds => holds part inScript⟩
  have helps : ∀ name info, registry.Untyped name info →
      HelperKeeps (LongNumberOnly writable) Frame.Regular (Memo.Holds Frame.Regular)
        (callHelper registry (callLimit registry)) info := by
    intro name info untyped
    rw [callHelper_eq_callsWith]
    exact regularCalls_keep admitted acyclic
      (fun memo name arguments frame memoRegular found => memoRegular.find? found)
      (fun memo name arguments frame memoRegular regular =>
        memoRegular.remember name arguments regular) untyped
  let unconditional : FunctionDefinition → Summary → Prop := fun _ _ => True
  have bodies : ∀ definition ∈ functionsOf statements, isAnalyzed definition = true →
      ∀ memo, Memo.Holds Frame.Regular memo →
      Walker.Yields (LongNumberOnly writable)
        (walkBlock registry (callHelper registry (callLimit registry)) definition.body)
        (analysisStart definition memo) fun _ after =>
          unconditional definition (summaryAfter definition after) ∧
            Memo.Holds Frame.Regular after.memo := by
    intro definition defined _ memo memoRegular
    exact (regularBody_yields admitted defined helps memoRegular).mono
      fun _ after holds => ⟨trivial, holds.memo⟩
  have ends : Ends (LongNumberOnly writable) _ (analyzeStatements statements) :=
    analyzeAll_ends bodies (Memo.holds_empty _)
  cases analyzed : analyzeStatements statements with
  | ok summaries =>
    refine .inl ⟨summaries, rfl, fun text read => ?_⟩
    simp [analyzeScript, read, analyzed, Except.mapError, bind, Except.bind]
  | error fault =>
    rw [analyzed] at ends
    obtain ⟨rfl, unwritable⟩ := ends
    exact .inr ⟨rfl, unwritable⟩

def relayScript : List Stmt :=
  [.function false
      { name := "inner", line := 1, parameters := { regular := [{ name := "x" }] } }
      [.returning (some (.name "x"))],
   .function false
      { name := "outer", line := 3, parameters := { regular := [{ name := "x" }] } }
      [.returning (some (.call (.name "inner") [.name "x"] []))],
   .function false
      { name := "entry", line := 5
        parameters :=
          { regular := [
              { name := "d"
                hint := some (.subscript (.name "DF") (.literal (.text "\x7ba: Int64\x7d"))) }] } }
      [.returning (some (.call (.name "outer")
        [.call (.attribute (.name "d") "select")
          [.call (.attribute (.call (.attribute (.name "pl") "col") [.literal (.text "a")] [])
            "alias") [.literal (.text "b")] []] []] []))]]

theorem relayScript_ends :
    (∀ part ∈ blockParts relayScript, LabelsText part) ∧
    (registryOf relayScript).Acyclic ∧
    (∀ part ∈ blockParts relayScript, NamesWritable part) ∧
    ∃ summaries, analyzeStatements relayScript = .ok summaries := by
  have labels : ∀ part ∈ blockParts relayScript, LabelsText part := by
    simp [relayScript, blockParts, Stmt.parts, FunctionHeader.parts, Parameters.all,
      Parameter.parts, allParts, Expr.parts, keywordsParts, LabelsText, aliasLabel?,
      Literal.IsText]
  have writable : ∀ part ∈ blockParts relayScript, NamesWritable part := by
    simp [relayScript, blockParts, Stmt.parts, FunctionHeader.parts, Parameters.all,
      Parameter.parts, allParts, Expr.parts, keywordsParts, NamesWritable, columnNames,
      columnName?, joinNames, Literal.isWritable]
  have acyclic : (registryOf relayScript).Acyclic :=
    Registry.acyclic_of_heights
      (fun name => if name = "entry" then 2 else if name = "outer" then 1 else 0) (by decide)
  refine ⟨labels, acyclic, writable, ?_⟩
  rcases analyzeStatements_ends labels acyclic with ⟨summaries, analyzed, _⟩ | ⟨_, unwritable⟩
  · exact ⟨summaries, analyzed⟩
  · exact absurd writable unwritable

def longNumberScript : List Stmt :=
  [.function false
      { name := "f", line := 1
        parameters :=
          { regular := [
              { name := "d"
                hint := some (.subscript (.name "DF") (.literal (.text "\x7ba: Int64\x7d"))) }] } }
      [.returning (some (.call (.attribute (.name "d") "select")
        [.call (.attribute (.name "pl") "col")
          [.literal (.int (Magnitude.powerOfTen Literal.wholeDigitLimit))] []] []))]]

/-- The fault is met: a problem with such a number cannot be written. -/
theorem longNumberScript_breaks_off :
    (match analyzeStatements longNumberScript with
      | .error fault => some fault
      | .ok _ => none) = some Fault.longNumber := by
  decide +kernel

end FrameCheck.Analysis
