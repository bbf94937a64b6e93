import FrameCheck.Analysis.Script
import FrameCheck.Command.FileTree
import FrameCheck.Report.Verdict
import FrameCheck.Text.Octets

/-! Checking files and directories. -/

namespace FrameCheck.Command

open Analysis Report

inductive CheckError where
  | missingFile (path : Path)
  | missingDirectory (path : Path)
  /-- A directory is not read as a script. -/
  | directory (path : Path)
  | octets (error : Text.OctetsError)
  | script (error : ScriptError)
deriving DecidableEq, Repr

def CheckError.message : CheckError → Text
  | .missingFile path => "File not found: " ++ path.text
  | .missingDirectory path => "Directory not found: " ++ path.text
  | .directory path => "[Errno 21] Is a directory: " ++ Text.quoted path.text
  | .octets error => error.message
  | .script error => error.message

def analyzeContent (content : List UInt8) : Except CheckError (List Summary) :=
  match Text.ofOctets content with
  | .error error => .error (.octets error)
  | .ok text => (analyzeScript text).mapError .script

def checkContent (content : List UInt8) : Except CheckError (List Verdict) :=
  (analyzeContent content).map fun summaries => summaries.map verdict

def checkFile (path : Path) : Option Node → Except CheckError (List Verdict)
  | none => .error (.missingFile path)
  | some (.file content) => checkContent content
  | some (.directory _) => .error (.directory path)
  | some .device => checkContent []

/-- The verdicts on the functions of all scripts below a directory. Scripts that cannot be
analysed are passed over. -/
def checkEntries (entries : Entries) : List Verdict :=
  entries.scripts.flatMap fun content =>
    match checkContent content with
    | .ok verdicts => verdicts
    | .error _ => []

def checkDirectory (path : Path) : Option Node → Except CheckError (List Verdict)
  | none => .error (.missingDirectory path)
  | some node => .ok (checkEntries node.entries)

end FrameCheck.Command
