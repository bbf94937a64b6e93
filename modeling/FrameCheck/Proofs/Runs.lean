import FrameCheck.Command.Run
import FrameCheck.Proofs.Table

/-!
Runs of the command that get as far as their report, and the functions that they check. A
function is checked in the file that defines it, which a path names or a directory below one
holds. What a run has found is read off these functions, in order: one verdict each, the file
that was named last, and for each name the line of the last function that has it in a file that
was named.
-/

namespace FrameCheck.Command

open Analysis Report

/-! ## Checked functions -/

structure CheckedFunction where
  file : Path
  summary : Summary

def CheckedFunction.verdict (function : CheckedFunction) : Verdict :=
  Report.verdict function.summary

theorem CheckedFunction.passed_iff (function : CheckedFunction) :
    function.verdict.passed = true ↔ function.verdict.findings = [] :=
  List.isEmpty_iff

def Path.entry (path : Path) (name : Text) : Path :=
  { path with names := path.names ++ [name] }

mutual

def Node.scriptsAt (path : Path) (name : Text) : Node → List (Path × List UInt8)
  | .file content => if name.endsWith ".py" then [(path, content)] else []
  | .directory entries => entries.scriptsAt path
  | .device => []

def Entries.scriptsAt (path : Path) : Entries → List (Path × List UInt8)
  | .nil => []
  | .cons name node rest => node.scriptsAt (path.entry name) name ++ rest.scriptsAt path

end

mutual

theorem Node.scripts_eq (path : Path) (name : Text) :
    (node : Node) → node.scripts name = (node.scriptsAt path name).map Prod.snd
  | .file content => by
    rw [Node.scripts, Node.scriptsAt]
    split <;> rfl
  | .directory entries => by
    rw [Node.scripts, Node.scriptsAt]
    exact Entries.scripts_eq path entries
  | .device => by rw [Node.scripts, Node.scriptsAt, List.map_nil]

theorem Entries.scripts_eq (path : Path) :
    (entries : Entries) → entries.scripts = (entries.scriptsAt path).map Prod.snd
  | .nil => by rw [Entries.scripts, Entries.scriptsAt, List.map_nil]
  | .cons name node rest => by
    rw [Entries.scripts, Entries.scriptsAt, List.map_append,
      Node.scripts_eq (path.entry name) name node, Entries.scripts_eq path rest]

end

/-- The functions that are checked in a file; a file that cannot be analysed has none. -/
def functionsOfFile (file : Path) (content : List UInt8) : List CheckedFunction :=
  match analyzeContent content with
  | .ok summaries => summaries.map (CheckedFunction.mk file)
  | .error _ => []

def functionsAt (path : Path) : Option Node → List CheckedFunction
  | some (.file content) => functionsOfFile path content
  | some (.directory entries) =>
    (entries.scriptsAt path).flatMap fun script => functionsOfFile script.1 script.2
  | some .device => []
  | none => []

def checkedFunctions (find? : Path → Option Node) (paths : List Path) : List CheckedFunction :=
  paths.flatMap fun path => functionsAt path (find? path)

def isFile : Option Node → Bool
  | some (.file _) => true
  | _ => false

def namedFiles (find? : Path → Option Node) (paths : List Path) : List Path :=
  paths.filter fun path => isFile (find? path)

def lastLine (functions : List CheckedFunction) (name : Text) : Option Int :=
  ((functions.filter fun function => function.summary.name == name).getLast?).map
    fun function => function.summary.line

theorem lastLine_append (first second : List CheckedFunction) (name : Text) :
    lastLine (first ++ second) name = (lastLine second name).or (lastLine first name) := by
  rw [lastLine, List.filter_append, List.getLast?_append, Option.map_or]
  rfl

theorem checkEntries_eq (path : Path) (entries : Entries) :
    checkEntries entries =
      (functionsAt path (some (.directory entries))).map CheckedFunction.verdict := by
  unfold checkEntries
  rw [Entries.scripts_eq path, List.flatMap_map, functionsAt, List.map_flatMap]
  refine List.flatMap_congr fun script _ => ?_
  unfold functionsOfFile checkContent
  cases analyzeContent script.2 with
  | error _ => rfl
  | ok summaries => simp [Except.map, CheckedFunction.verdict, Function.comp_def]

/-! ## What a run finds -/

/-- What findings are after more of them: verdicts on functions that are checked, in files that
are named, with the functions of these. -/
structure Findings.Gathers (checked : List CheckedFunction) (files : List Path)
    (named : List CheckedFunction) (before after : Findings) : Prop where
  verdicts : after.verdicts = before.verdicts ++ checked.map CheckedFunction.verdict
  file : after.file = files.getLast?.or before.file
  lines : ∀ name, after.lines.get? name = (lastLine named name).or (before.lines.get? name)

namespace Findings

theorem Gathers.refl (findings : Findings) : Gathers [] [] [] findings findings where
  verdicts := (List.append_nil _).symm
  file := rfl
  lines _ := rfl

theorem Gathers.trans {checked others : List CheckedFunction} {files otherFiles : List Path}
    {named otherNamed : List CheckedFunction} {before middle after : Findings}
    (first : Gathers checked files named before middle)
    (second : Gathers others otherFiles otherNamed middle after) :
    Gathers (checked ++ others) (files ++ otherFiles) (named ++ otherNamed) before after where
  verdicts := by
    rw [second.verdicts, first.verdicts, List.map_append, List.append_assoc]
  file := by
    rw [second.file, first.file, List.getLast?_append, Option.or_assoc]
  lines name := by
    rw [second.lines, first.lines, lastLine_append, Option.or_assoc]

theorem gathers_addFile (findings : Findings) (path : Path) (summaries : List Summary) :
    Gathers (summaries.map (CheckedFunction.mk path)) [path]
      (summaries.map (CheckedFunction.mk path)) findings (findings.addFile path summaries) where
  verdicts := by simp [addFile, CheckedFunction.verdict, Function.comp_def]
  file := rfl
  lines name := by
    rw [addFile, Table.get?_insertAll_eq, lastLine, List.filter_map, List.filter_map,
      List.getLast?_map, List.getLast?_map, Option.map_map, Option.map_map]
    rfl

theorem gathers_addNode {findings after : Findings} {path : Path} {node : Option Node}
    (added : findings.addNode path node = .ok after) :
    Gathers (functionsAt path node) (if isFile node then [path] else [])
      (if isFile node then functionsAt path node else []) findings after := by
  unfold addNode at added
  split at added
  · cases added
  next content =>
    split at added
    next summaries analyzed =>
      cases added
      have functions : functionsAt path (some (.file content)) =
          summaries.map (CheckedFunction.mk path) := by
        rw [functionsAt, functionsOfFile, analyzed]
      rw [functions]
      exact gathers_addFile findings path summaries
    · cases added
  next entries =>
    cases added
    exact ⟨by rw [addVerdicts, checkEntries_eq path], rfl, fun _ => rfl⟩
  · cases added
    exact .refl _

theorem gathers_addPaths {find? : Path → Option Node} {paths : List Path}
    {findings after : Findings} (added : addPaths find? findings paths = .ok after) :
    Gathers (checkedFunctions find? paths) (namedFiles find? paths)
      (checkedFunctions find? (namedFiles find? paths)) findings after := by
  induction paths generalizing findings with
  | nil =>
    cases added
    exact .refl _
  | cons path rest inRest =>
    rw [addPaths] at added
    cases step : findings.addNode path (find? path) with
    | error refusal =>
      rw [step] at added
      cases added
    | ok middle =>
      rw [step] at added
      have gathered := (gathers_addNode step).trans (inRest added)
      cases file : isFile (find? path) with
      | true => simpa [checkedFunctions, namedFiles, file] using gathered
      | false => simpa [checkedFunctions, namedFiles, file] using gathered

end Findings

/-! ## Runs that reach their report -/

abbrev Options.places (options : Options) : List Path :=
  options.paths.map Path.ofText

/-- The arguments ask for a check of paths, and all of them are checked. -/
structure ReachesReport (find? : Path → Option Node) (arguments : List Text) (options : Options)
    (findings : Findings) : Prop where
  asked : parse arguments = .ok (.check options)
  named : options.paths ≠ []
  checked : Findings.addPaths find? {} options.places = .ok findings

namespace ReachesReport

variable {find? : Path → Option Node} {arguments : List Text} {options : Options}
  {findings : Findings}

theorem of_isOk (asked : parse arguments = .ok (.check options)) (named : options.paths ≠ [])
    (checked : (Findings.addPaths find? {} options.places).isOk = true) :
    ∃ findings, ReachesReport find? arguments options findings := by
  cases added : Findings.addPaths find? {} options.places with
  | error refusal =>
    rw [added] at checked
    cases checked
  | ok findings => exact ⟨findings, asked, named, added⟩

/-- Such a run prints its report and ends with the exit code of its findings, unless there is
something in the report that cannot be written. -/
theorem run_eq (reaches : ReachesReport find? arguments options findings) :
    run find? arguments = (findings.report options).map fun text =>
      { exitCode := findings.exitCode, output := text ++ "\n" } := by
  have notEmpty : options.paths.isEmpty = false := by
    simpa using reaches.named
  have isCheck : run find? arguments = check find? options := by
    unfold run
    rw [reaches.asked]
  rw [isCheck, check, notEmpty, if_neg Bool.false_ne_true, reaches.checked]

theorem run_eq_of_json (reaches : ReachesReport find? arguments options findings)
    (forTools : options.format = .json) :
    run find? arguments =
      (documentText findings.verdicts findings.fileText findings.lines).map fun text =>
        { exitCode := findings.exitCode, output := text ++ "\n" } := by
  rw [reaches.run_eq, Findings.report, forTools]

theorem run_eq_of_text (reaches : ReachesReport find? arguments options findings)
    (forReaders : options.format = .text) :
    run find? arguments = (listingText .coloured findings.verdicts).map fun text =>
      { exitCode := findings.exitCode
        output := (if options.colours then text else withoutMarks text) ++ "\n" } := by
  rw [reaches.run_eq, Findings.report, forReaders]
  cases listingText .coloured findings.verdicts <;> rfl

theorem gathers (reaches : ReachesReport find? arguments options findings) :
    Findings.Gathers (checkedFunctions find? options.places) (namedFiles find? options.places)
      (checkedFunctions find? (namedFiles find? options.places)) {} findings :=
  Findings.gathers_addPaths reaches.checked

theorem verdicts_eq (reaches : ReachesReport find? arguments options findings) :
    findings.verdicts = (checkedFunctions find? options.places).map CheckedFunction.verdict :=
  reaches.gathers.verdicts

end ReachesReport

end FrameCheck.Command
