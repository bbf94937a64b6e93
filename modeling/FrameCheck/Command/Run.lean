import FrameCheck.Command.Check
import FrameCheck.Command.Options
import FrameCheck.Report.Diagnostic
import FrameCheck.Report.Listing

/-!
The command: what it prints and how it ends, for its arguments and the files that it finds.
-/

namespace FrameCheck.Command

open Analysis Report

structure Outcome where
  exitCode : Nat := 0
  output : Text := {}
  errors : Text := {}
deriving DecidableEq, Repr

def usageText : String :=
  "usage: polypolarism [-h] [--version] [-v] [--no-color] [--format \x7btext,json\x7d]\n" ++
  "                    [paths ...]\n"

def helpText : String :=
  usageText ++
  "\n" ++
  "Static type checker for Polars DataFrames\n" ++
  "\n" ++
  "positional arguments:\n" ++
  "  paths                 Files or directories to check\n" ++
  "\n" ++
  "options:\n" ++
  "  -h, --help            show this help message and exit\n" ++
  "  --version             show program's version number and exit\n" ++
  "  -v, --verbose         Show verbose output\n" ++
  "  --no-color            Disable colored output\n" ++
  "  --format \x7btext,json\x7d  Output format (default: text)\n"

def versionText : String :=
  "polypolarism 0.1.0\n"

/-- What is found in the paths so far: verdicts, the lines of functions by name, and the file
that was checked last. -/
structure Findings where
  verdicts : List Verdict := []
  lines : Table Text Int := .empty
  file : Option Path := none

inductive Refusal where
  | missing (path : Path)
  | failed (path : Path) (error : CheckError)
deriving DecidableEq, Repr

def Refusal.message : Refusal → Text
  | .missing path => "Error: Path not found: " ++ path.text
  | .failed path error => "Error checking " ++ path.text ++ ": " ++ error.message

namespace Findings

def addFile (findings : Findings) (path : Path) (summaries : List Summary) : Findings where
  verdicts := findings.verdicts ++ summaries.map verdict
  lines := findings.lines.insertAll <| summaries.map fun summary =>
    (summary.name, Int.ofNat summary.line)
  file := some path

def addVerdicts (findings : Findings) (verdicts : List Verdict) : Findings :=
  { findings with verdicts := findings.verdicts ++ verdicts }

def addNode (findings : Findings) (path : Path) : Option Node → Except Refusal Findings
  | none => .error (.missing path)
  | some (.file content) =>
    match analyzeContent content with
    | .ok summaries => .ok (findings.addFile path summaries)
    | .error error => .error (.failed path error)
  | some (.directory entries) => .ok (findings.addVerdicts (checkEntries entries))
  | some .device => .ok findings

def addPaths (find? : Path → Option Node) (findings : Findings) :
    List Path → Except Refusal Findings
  | [] => .ok findings
  | path :: rest => do addPaths find? (← findings.addNode path (find? path)) rest

def fileText (findings : Findings) : Text :=
  (findings.file.map Path.text).getD (.ofString "unknown")

def report (findings : Findings) (options : Options) : Except Fault Text :=
  match options.format with
  | .json => documentText findings.verdicts findings.fileText findings.lines
  | .text => do
    let text ← listingText .coloured findings.verdicts
    return if options.colours then text else withoutMarks text

def exitCode (findings : Findings) : Nat :=
  if findings.verdicts.all Verdict.passed then 0 else 1

end Findings

def check (find? : Path → Option Node) (options : Options) : Except Fault Outcome :=
  if options.paths.isEmpty then .ok { output := helpText }
  else
    match Findings.addPaths find? {} (options.paths.map Path.ofText) with
    | .error refusal => .ok { exitCode := 1, errors := refusal.message ++ "\n" }
    | .ok findings =>
      (findings.report options).map fun text =>
        { exitCode := findings.exitCode, output := text ++ "\n" }

/-- Run the command. The one fault that it does not catch is a number in the report that is too
long to be written. -/
def run (find? : Path → Option Node) (arguments : List Text) : Except Fault Outcome :=
  match parse arguments with
  | .error error =>
    .ok { exitCode := 2, errors := usageText ++ "polypolarism: error: " ++ error.message ++ "\n" }
  | .ok .help => .ok { output := helpText }
  | .ok .version => .ok { output := versionText }
  | .ok (.check options) => check find? options

end FrameCheck.Command
