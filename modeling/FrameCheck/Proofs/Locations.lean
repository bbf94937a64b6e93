import FrameCheck.Proofs.Runs

/-!
Where diagnostics point. A report for tools gives all its diagnostics the file that was named
last, and for the line it looks up the name of the function among those of the files that were
named. So diagnostics point at their functions when these stand in the file that was named last,
and no function of the same name comes after them on another line.
-/

namespace FrameCheck.Command

open Analysis Report

def diagnosticsAt (place : CheckedFunction → Text × Int) (functions : List CheckedFunction) :
    List Diagnostic :=
  functions.flatMap fun function =>
    function.verdict.findings.map fun finding =>
      { file := (place function).1
        line := (place function).2
        column := 0
        message := finding.message
        severity := .error }

def ownPlace (function : CheckedFunction) : Text × Int :=
  (function.file.text, function.summary.line)

/-- Where a report for tools says that a function is. -/
def reportedPlace (find? : Path → Option Node) (paths : List Path) (function : CheckedFunction) :
    Text × Int :=
  (((namedFiles find? paths).getLast?.map Path.text).getD "unknown",
    (lastLine (checkedFunctions find? (namedFiles find? paths)) function.summary.name).getD 1)

theorem diagnostics_eq (functions : List CheckedFunction) (file : Text) (lines : Table Text Int) :
    diagnostics (functions.map CheckedFunction.verdict) file lines =
      diagnosticsAt (fun function => (file, (lines.get? function.summary.name).getD 1))
        functions := by
  unfold diagnostics diagnosticsAt
  induction functions with
  | nil => rfl
  | cons function rest inRest =>
    rw [List.map_cons, List.flatMap_cons, ← inRest]
    cases passed : function.verdict.passed with
    | true =>
      rw [List.filter_cons_of_neg (by simp [passed]), function.passed_iff.mp passed]
      rfl
    | false =>
      rw [List.filter_cons_of_pos (by simp [passed]), List.flatMap_cons]
      rfl

theorem diagnosticsAt_eq_iff (first second : CheckedFunction → Text × Int)
    (functions : List CheckedFunction) :
    diagnosticsAt first functions = diagnosticsAt second functions ↔
      ∀ function ∈ functions, function.verdict.passed = false →
        first function = second function := by
  unfold diagnosticsAt
  induction functions with
  | nil => simp
  | cons function rest inRest =>
    rw [List.flatMap_cons, List.flatMap_cons, List.forall_mem_cons, ← inRest]
    constructor
    · intro same
      obtain ⟨here, later⟩ := List.append_inj same (by rw [List.length_map, List.length_map])
      refine ⟨fun failed => ?_, later⟩
      -- A function that did not pass has a finding, and its diagnostic shows the place.
      cases found : function.verdict.findings with
      | nil => simp [function.passed_iff.mpr found] at failed
      | cons finding others =>
        rw [found, List.map_cons, List.map_cons, List.cons.injEq, Diagnostic.mk.injEq] at here
        exact Prod.ext here.1.1 here.1.2.1
    · rintro ⟨here, later⟩
      rw [later]
      cases passed : function.verdict.passed with
      | true => rw [function.passed_iff.mp passed, List.map_nil, List.map_nil]
      | false => rw [here passed]

/-! ## The report of a run -/

section

variable {find? : Path → Option Node} {arguments : List Text} {options : Options}
  {findings : Findings}

theorem ReachesReport.diagnostics_eq (reaches : ReachesReport find? arguments options findings) :
    diagnostics findings.verdicts findings.fileText findings.lines =
      diagnosticsAt (reportedPlace find? options.places)
        (checkedFunctions find? options.places) := by
  have file : findings.file = (namedFiles find? options.places).getLast? := by
    rw [reaches.gathers.file, Option.or_none]
  have line : ∀ name, findings.lines.get? name =
      lastLine (checkedFunctions find? (namedFiles find? options.places)) name := by
    intro name
    rw [reaches.gathers.lines]
    exact Option.or_none
  have place : (fun function : CheckedFunction =>
      (findings.fileText, (findings.lines.get? function.summary.name).getD 1)) =
        reportedPlace find? options.places := by
    funext function
    rw [Findings.fileText, file, line]
    rfl
  rw [reaches.verdicts_eq, Command.diagnostics_eq, place]

def documentOf (file : Text) (diagnostics : List Diagnostic) : Json :=
  .objectOf [("file", .text file), ("diagnostics",
    .arrayOf (diagnostics.map fun diagnostic => .objectOf diagnostic.members))]

/-- A run for tools prints one diagnostic for each finding, at the reported place of its
function. All of them point at the definitions of their functions exactly when each function
that did not pass is reported where it is. -/
theorem diagnostics_point_iff (reaches : ReachesReport find? arguments options findings)
    (forTools : options.format = .json) :
    (run find? arguments =
      if findings.verdicts.all Verdict.isWritable && (documentOf findings.fileText
          (diagnosticsAt (reportedPlace find? options.places)
            (checkedFunctions find? options.places))).isWritable then
        .ok
          { exitCode := findings.exitCode
            output := (documentOf findings.fileText
              (diagnosticsAt (reportedPlace find? options.places)
                (checkedFunctions find? options.places))).render 0 ++ "\n" }
      else .error .longNumber) ∧
    (diagnosticsAt (reportedPlace find? options.places) (checkedFunctions find? options.places) =
        diagnosticsAt ownPlace (checkedFunctions find? options.places) ↔
      ∀ function ∈ checkedFunctions find? options.places, function.verdict.passed = false →
        reportedPlace find? options.places function = ownPlace function) := by
  refine ⟨?_, diagnosticsAt_eq_iff _ _ _⟩
  rw [reaches.run_eq_of_json forTools, ← reaches.diagnostics_eq, documentText]
  show Except.map _ (if _ then _ else _) = _
  rw [apply_ite (Except.map _)]
  rfl

end

/-! ## Files with functions that do not pass -/

def namesakes : FileTree where
  workingDirectory := .directory <|
    .cons "a.py" (.file "def f(d:DF[\"?\"]):0".toUTF8.data.toList) <|
    .cons "b.py" (.file []) <|
    .cons "c.py" (.file ("class A:\n def f(d:DF[\"?\"]):0\n" ++
      "class B:\n def f(d:DF[\"\x7ba:Int64\x7d\"]):0").toUTF8.data.toList) <|
    .cons "sub" (.directory
      (.cons "d.py" (.file "\ndef f(d:DF[\"?\"]):0".toUTF8.data.toList) .nil)) .nil

def toolOptions (paths : List Text) : Options where
  paths := paths
  format := .json

theorem single_file_points :
    ∃ findings, ReachesReport namesakes.find? ["--format", "json", "a.py"]
        (toolOptions ["a.py"]) findings ∧
      (diagnosticsAt ownPlace
        (checkedFunctions namesakes.find? (toolOptions ["a.py"]).places)).length = 1 ∧
      diagnosticsAt (reportedPlace namesakes.find? (toolOptions ["a.py"]).places)
          (checkedFunctions namesakes.find? (toolOptions ["a.py"]).places) =
        diagnosticsAt ownPlace
          (checkedFunctions namesakes.find? (toolOptions ["a.py"]).places) := by
  obtain ⟨findings, reaches⟩ : ∃ findings, ReachesReport namesakes.find?
      ["--format", "json", "a.py"] (toolOptions ["a.py"]) findings :=
    ReachesReport.of_isOk (by decide +kernel) (by decide) (by decide +kernel)
  refine ⟨findings, reaches, by decide +kernel, ?_⟩
  exact (diagnostics_point_iff reaches rfl).2.mpr (by decide +kernel)

structure Misplaces (paths : List Text) (reported own : List (Text × Int)) : Prop where
  differ : reported ≠ own
  atReported : ∃ findings, ReachesReport namesakes.find? ("--format" :: "json" :: paths)
      (toolOptions paths) findings ∧
    ((diagnostics findings.verdicts findings.fileText findings.lines).map
      fun diagnostic => (diagnostic.file, diagnostic.line)) = reported
  atOwn : ((diagnosticsAt ownPlace
      (checkedFunctions namesakes.find? (toolOptions paths).places)).map
    fun diagnostic => (diagnostic.file, diagnostic.line)) = own

theorem Misplaces.of_places {paths : List Text} {reported own : List (Text × Int)}
    (differ : reported ≠ own) (named : paths ≠ [])
    (asked : parse ("--format" :: "json" :: paths) = .ok (.check (toolOptions paths)))
    (evaluated : (Findings.addPaths namesakes.find? {} (toolOptions paths).places).isOk = true ∧
      ((diagnosticsAt (reportedPlace namesakes.find? (toolOptions paths).places)
          (checkedFunctions namesakes.find? (toolOptions paths).places)).map
        fun diagnostic => (diagnostic.file, diagnostic.line)) = reported ∧
      ((diagnosticsAt ownPlace
          (checkedFunctions namesakes.find? (toolOptions paths).places)).map
        fun diagnostic => (diagnostic.file, diagnostic.line)) = own) :
    Misplaces paths reported own := by
  obtain ⟨checked, atReported, atOwn⟩ := evaluated
  obtain ⟨findings, reaches⟩ := ReachesReport.of_isOk asked named checked
  exact ⟨differ, ⟨findings, reaches, by rw [reaches.diagnostics_eq, atReported]⟩, atOwn⟩

/-- A function in a file that is not the last, one with a namesake behind it, and one below a
directory. -/
theorem diagnostics_misplaced :
    Misplaces ["a.py", "b.py"] [("b.py", 1)] [("a.py", 1)] ∧
    Misplaces ["c.py"] [("c.py", 4)] [("c.py", 2)] ∧
    Misplaces ["sub"] [("unknown", 1)] [("sub/d.py", 2)] := by
  refine ⟨.of_places ?_ ?_ ?_ ?_, .of_places ?_ ?_ ?_ ?_, .of_places ?_ ?_ ?_ ?_⟩
  all_goals decide +kernel

end FrameCheck.Command
