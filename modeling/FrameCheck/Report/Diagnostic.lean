import FrameCheck.Report.Json
import FrameCheck.Report.Verdict

/-! Diagnostics: findings with their places in files, for editors and other tools. -/

namespace FrameCheck.Report

open Analysis

inductive Severity where
  | error
  | warning
  | info
  | hint
deriving DecidableEq, Repr

namespace Severity

def name : Severity → Text
  | .error => "error"
  | .warning => "warning"
  | .info => "info"
  | .hint => "hint"

def all : List Severity :=
  [.error, .warning, .info, .hint]

end Severity

structure UnknownSeverity where
  name : Text
deriving DecidableEq, Repr

def UnknownSeverity.message (error : UnknownSeverity) : Text :=
  Text.quoted error.name ++ " is not a valid DiagnosticSeverity"

def Severity.ofName (name : Text) : Except UnknownSeverity Severity :=
  match Severity.all.find? fun severity => severity.name == name with
  | some severity => .ok severity
  | none => .error ⟨name⟩

structure Diagnostic where
  file : Text
  line : Int
  column : Int
  message : Text
  severity : Severity
  endLine : Option Int := none
  endColumn : Option Int := none
  source : Text := "polypolarism"

def Diagnostic.members (diagnostic : Diagnostic) : List (String × Json) :=
  [("file", .text diagnostic.file), ("line", .number diagnostic.line),
    ("column", .number diagnostic.column), ("message", .text diagnostic.message),
    ("severity", .text diagnostic.severity.name), ("source", .text diagnostic.source)] ++
  (diagnostic.endLine.map fun line => ("end_line", Json.number line)).toList ++
  (diagnostic.endColumn.map fun column => ("end_column", Json.number column)).toList

/-- The diagnostics of verdicts: one for each finding against a function that did not pass, at
the line of the function, or at the first line if that is not known. -/
def diagnostics (verdicts : List Verdict) (file : Text) (lines : Table Text Int) :
    List Diagnostic :=
  (verdicts.filter fun verdict => !verdict.passed).flatMap fun verdict =>
    verdict.findings.map fun finding =>
      { file := file
        line := (lines.get? verdict.function).getD 1
        column := 0
        message := finding.message
        severity := .error }

def document (verdicts : List Verdict) (file : Text) (lines : Table Text Int) : Json :=
  .objectOf [("file", .text file), ("diagnostics",
    .arrayOf ((diagnostics verdicts file lines).map fun diagnostic =>
      .objectOf diagnostic.members))]

def documentText (verdicts : List Verdict) (file : Text) (lines : Table Text Int) :
    Except Fault Text :=
  let document := document verdicts file lines
  if verdicts.all Verdict.isWritable && document.isWritable then .ok (document.render 0)
  else .error .longNumber

end FrameCheck.Report
