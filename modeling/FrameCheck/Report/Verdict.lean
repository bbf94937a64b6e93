import FrameCheck.Analysis.Problem

/-!
Verdicts: a function passes when its analysis found no problem and the frame it returns has
the declared columns, each of a type that fits the declared one.
-/

namespace FrameCheck.Report

open Analysis

inductive Finding where
  | problem (cause : Problem)
  | missingColumn (column : Literal) (declared : ColumnType)
  | extraColumn (column : Literal) (inferred : ColumnType)
  | typeDifference (column : Literal) (declared inferred : ColumnType)
  | inferenceFailure (message : Text)

def Finding.message : Finding → Text
  | .problem cause => cause.message
  | .missingColumn column declared =>
    "Missing column '" ++ column.display ++ "' of type " ++ declared.text
  | .extraColumn column inferred =>
    "Extra column '" ++ column.display ++ "' of type " ++ inferred.text ++
      " not in declared return type"
  | .typeDifference column declared inferred =>
    "Column '" ++ column.display ++ "' has type " ++ inferred.text ++ ", but declared type is " ++
      declared.text
  | .inferenceFailure message => message

def Finding.isWritable : Finding → Bool
  | .problem cause => cause.isWritable
  | .missingColumn column declared => column.isWritable && declared.isWritable
  | .extraColumn column inferred => column.isWritable && inferred.isWritable
  | .typeDifference column declared inferred =>
    column.isWritable && declared.isWritable && inferred.isWritable
  | .inferenceFailure _ => true

structure Verdict where
  function : Text
  passed : Bool
  findings : List Finding := []

/-- Whether reports can be written about the function. Of one that passed they give only the
name. -/
def Verdict.isWritable (verdict : Verdict) : Bool :=
  verdict.passed || verdict.findings.all Finding.isWritable

def Verdict.description (verdict : Verdict) : Text :=
  "CheckResult(" ++ verdict.function ++ ": " ++ (if verdict.passed then "PASSED" else "FAILED") ++
    ", errors=" ++ toString verdict.findings.length ++ ")"

/-- Whether an inferred type fits a declared one: they are the same, or differ only in that
the declared one allows nulls. -/
def fits (inferred declared : ColumnType) : Bool :=
  inferred.same declared ||
    (declared.isNullable && !inferred.isNullable && inferred.base.same declared.base)

/-! The comparison of a declared with an inferred frame. -/

def missingColumns (declared inferred : Frame) : List Finding :=
  declared.columns.entries.filterMap fun column =>
    if inferred.hasColumn column.1 then none else some (.missingColumn column.1 column.2)

def extraColumns (declared inferred : Frame) : List Finding :=
  inferred.columns.entries.filterMap fun column =>
    if declared.hasColumn column.1 then none else some (.extraColumn column.1 column.2)

def typeDifferences (declared inferred : Frame) : List Finding :=
  declared.columns.entries.filterMap fun column =>
    match inferred.column? column.1 with
    | some type =>
      if fits type column.2 then none else some (.typeDifference column.1 column.2 type)
    | none => none

def returnFindings : (declared inferred : Option Frame) → List Finding
  | none, _ => []
  | some _, none => [.inferenceFailure "Could not infer return type"]
  | some declared, some inferred =>
    missingColumns declared inferred ++ extraColumns declared inferred ++
      typeDifferences declared inferred

def verdict (summary : Summary) : Verdict :=
  let findings := summary.problems.map .problem ++
    returnFindings summary.declared summary.inferred
  { function := summary.name, passed := findings.isEmpty, findings := findings }

end FrameCheck.Report
