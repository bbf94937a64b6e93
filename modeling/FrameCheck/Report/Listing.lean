import FrameCheck.Report.Verdict

/-!
The report for readers: a line for each function, the findings against those that did not
pass, and a summary, with marks for colours.
-/

namespace FrameCheck.Report

open Analysis

structure Palette where
  pass : Text
  fail : Text
  reset : Text

namespace Palette

def coloured : Palette where
  pass := "\x1b[32m"
  fail := "\x1b[31m"
  reset := "\x1b[0m"

def plain : Palette where
  pass := ""
  fail := ""
  reset := ""

end Palette

def verdictLines (palette : Palette) (verdict : Verdict) : List Text :=
  let status : Text :=
    if verdict.passed then palette.pass ++ "OK" ++ palette.reset
    else palette.fail ++ "FAIL" ++ palette.reset
  let findings : List Text :=
    if verdict.passed then []
    else verdict.findings.map fun finding => "    - " ++ finding.message
  ("  " ++ verdict.function ++ ": " ++ status) :: findings

def passedCount (verdicts : List Verdict) : Nat :=
  verdicts.countP Verdict.passed

def failedCount (verdicts : List Verdict) : Nat :=
  verdicts.length - passedCount verdicts

def summaryLine (palette : Palette) (verdicts : List Verdict) : Text :=
  let passed : Text := toString (passedCount verdicts)
  if failedCount verdicts = 0 then
    palette.pass ++ "All " ++ passed ++ " function(s) passed." ++ palette.reset
  else
    palette.fail ++ toString (failedCount verdicts) ++ " function(s) failed, " ++ passed ++
      " passed." ++ palette.reset

def listing (palette : Palette) (verdicts : List Verdict) : Text :=
  if verdicts.isEmpty then "No functions with DF annotations found.\n"
  else
    Text.intercalate "\n"
      (verdicts.flatMap (verdictLines palette) ++ [{}, summaryLine palette verdicts])

def listingText (palette : Palette) (verdicts : List Verdict) : Except Fault Text :=
  if verdicts.all Verdict.isWritable then .ok (listing palette verdicts) else .error .longNumber

/-! Text without marks for colours. -/

def isMarkParameter (char : Char) : Bool :=
  char.isDigit || char == ';'

/-- What follows a mark for a colour, whose escape character has been read. -/
def afterMark? : List CodePoint → Option (List CodePoint)
  | .char '[' :: rest =>
    match rest.dropWhile (CodePoint.meets isMarkParameter) with
    | .char 'm' :: rest => some rest
    | _ => none
  | _ => none

theorem afterMark?_length {points rest : List CodePoint} (found : afterMark? points = some rest) :
    rest.length < points.length := by
  unfold afterMark? at found
  split at found
  · next tail =>
    split at found
    · next marked equal =>
      have shorter : (tail.dropWhile (CodePoint.meets isMarkParameter)).length ≤ tail.length :=
        (List.dropWhile_sublist (CodePoint.meets isMarkParameter)).length_le
      rw [equal] at shorter
      simp only [Option.some.injEq] at found
      subst found
      simp only [List.length_cons] at *
      omega
    · contradiction
  · contradiction

def dropMarks : List CodePoint → List CodePoint
  | [] => []
  | point :: rest =>
    if point = .char '\x1b' then
      match found : afterMark? rest with
      | some rest' =>
        have := afterMark?_length found
        dropMarks rest'
      | none => point :: dropMarks rest
    else point :: dropMarks rest
termination_by points => points.length
decreasing_by
  all_goals simp only [List.length_cons]
  all_goals omega

def withoutMarks (text : Text) : Text :=
  ⟨dropMarks text.points⟩

end FrameCheck.Report
