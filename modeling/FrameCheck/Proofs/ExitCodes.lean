import FrameCheck.Proofs.JsonReports
import FrameCheck.Proofs.Runs

/-!
What exit codes say. A run that gets as far as its report ends with one exactly when a function
did not pass, and then both forms of the report show that: the text for tools denotes a value with a
diagnostic, and the one for readers has a line that says so, with a finding below it. All three rest
on the rule that a function passes exactly when there is no finding against it.
-/

namespace FrameCheck.Report

open JsonText

/-! ## Reports for tools -/

/-- A value with a list of diagnostics that is not empty. -/
def HasDiagnostic (value : Value) : Prop :=
  ∃ members first rest, value = .object members ∧
    members.lookup ("diagnostics" : Text) = some (.array (first :: rest))

def Consistent (verdicts : List Verdict) : Prop :=
  ∀ verdict ∈ verdicts, verdict.passed = true ↔ verdict.findings = []

theorem Consistent.exists_finding {verdicts : List Verdict} (consistent : Consistent verdicts)
    {verdict : Verdict} (member : verdict ∈ verdicts) (failed : verdict.passed = false) :
    ∃ finding others, verdict.findings = finding :: others := by
  apply List.exists_cons_of_ne_nil
  intro noFindings
  rw [(consistent verdict member).mpr noFindings] at failed
  cases failed

theorem diagnostics_ne_nil_iff {verdicts : List Verdict} (consistent : Consistent verdicts)
    (file : Text) (lines : Table Text Int) :
    diagnostics verdicts file lines ≠ [] ↔ ∃ verdict ∈ verdicts, verdict.passed = false := by
  rw [diagnostics, Ne, List.flatMap_eq_nil_iff]
  constructor
  · intro notEmpty
    by_contra noneFailed
    apply notEmpty
    intro verdict member
    obtain ⟨inVerdicts, failed⟩ := List.mem_filter.mp member
    exact absurd ⟨verdict, inVerdicts, by simpa using failed⟩ noneFailed
  · rintro ⟨verdict, member, failed⟩ allEmpty
    obtain ⟨finding, others, found⟩ := consistent.exists_finding member failed
    have isEmpty := allEmpty verdict (List.mem_filter.mpr ⟨member, by simp [failed]⟩)
    rw [found] at isEmpty
    cases isEmpty

theorem hasDiagnostic_document_iff {verdicts : List Verdict} (consistent : Consistent verdicts)
    (file : Text) (lines : Table Text Int) :
    HasDiagnostic (document verdicts file lines).denoted ↔
      ∃ verdict ∈ verdicts, verdict.passed = false := by
  have isObject : (document verdicts file lines).denoted =
      .object [("file", (Json.text file).denoted),
        ("diagnostics", .array ((diagnostics verdicts file lines).map fun diagnostic =>
          (Json.objectOf diagnostic.members).denoted))] := by
    rw [document, denoted_objectOf]
    simp only [List.map_cons, List.map_nil, denoted_arrayOf, List.map_map]
    rfl
  have notFile : (("diagnostics" : Text) == "file") = false := by decide +kernel
  rw [← diagnostics_ne_nil_iff consistent file lines, isObject]
  constructor
  · rintro ⟨members, first, rest, isMembers, found⟩ noDiagnostics
    cases isMembers
    simp [List.lookup_cons, notFile, noDiagnostics] at found
  · intro someDiagnostic
    obtain ⟨first, rest, isCons⟩ := List.exists_cons_of_ne_nil someDiagnostic
    refine ⟨_, (Json.objectOf first.members).denoted,
      rest.map fun diagnostic => (Json.objectOf diagnostic.members).denoted, rfl, ?_⟩
    simp [List.lookup_cons, notFile, isCons]

/-! ## Reports for readers -/

def listingLines (palette : Palette) (verdicts : List Verdict) : List Text :=
  if verdicts.isEmpty then ["No functions with DF annotations found.", {}]
  else verdicts.flatMap (verdictLines palette) ++ [{}, summaryLine palette verdicts]

theorem listing_eq (palette : Palette) (verdicts : List Verdict) :
    listing palette verdicts = Text.intercalate "\n" (listingLines palette verdicts) := by
  unfold listing listingLines
  split
  · decide +kernel
  · rfl

def passLine (palette : Palette) (name : Text) : Text :=
  "  " ++ name ++ ": " ++ (palette.pass ++ "OK" ++ palette.reset)

def failLine (palette : Palette) (name : Text) : Text :=
  "  " ++ name ++ ": " ++ (palette.fail ++ "FAIL" ++ palette.reset)

def findingLine (message : Text) : Text :=
  "    - " ++ message

/-- Somewhere a line says that a function did not pass, and the next one gives a finding. -/
def ShowsFailure (palette : Palette) (lines : List Text) : Prop :=
  ∃ before name message after,
    lines = before ++ failLine palette name :: findingLine message :: after

theorem verdictLines_of_passed {verdict : Verdict} (passed : verdict.passed = true)
    (palette : Palette) : verdictLines palette verdict = [passLine palette verdict.function] := by
  simp [verdictLines, passed, passLine]

theorem verdictLines_of_failed {verdict : Verdict} (failed : verdict.passed = false)
    (palette : Palette) :
    verdictLines palette verdict = failLine palette verdict.function ::
      verdict.findings.map fun finding => findingLine finding.message := by
  simp [verdictLines, failed, failLine, findingLine]

theorem head?_failLine (palette : Palette) (name : Text) :
    (failLine palette name).points.head? = some (.char ' ') := rfl

theorem failLine_ne_passLine (name other : Text) :
    failLine .coloured name ≠ passLine .coloured other := by
  intro same
  have failEnd : (Palette.coloured.fail ++ "FAIL" ++ Palette.coloured.reset).points =
      ("\x1b[31mFA" : Text).points ++ ("IL\x1b[0m" : Text).points := by decide +kernel
  have passEnd : (Palette.coloured.pass ++ "OK" ++ Palette.coloured.reset).points =
      ("\x1b[32m" : Text).points ++ ("OK\x1b[0m" : Text).points := by decide +kernel
  have points : ("  " ++ name ++ ": " : Text).points ++
        (Palette.coloured.fail ++ "FAIL" ++ Palette.coloured.reset).points =
      ("  " ++ other ++ ": " : Text).points ++
        (Palette.coloured.pass ++ "OK" ++ Palette.coloured.reset).points :=
    congrArg Text.points same
  rw [failEnd, passEnd, ← List.append_assoc, ← List.append_assoc] at points
  have ends : ("IL\x1b[0m" : Text).points = ("OK\x1b[0m" : Text).points :=
    List.append_inj_right' points (by decide +kernel)
  revert ends
  decide +kernel

theorem ne_failLine_of_passed {verdicts : List Verdict}
    (passed : ∀ verdict ∈ verdicts, verdict.passed = true) {line : Text}
    (member : line ∈ listingLines .coloured verdicts) (name : Text) :
    line ≠ failLine .coloured name := by
  have starts : line.points.head? ≠ some (.char ' ') → line ≠ failLine .coloured name := by
    rintro differs rfl
    exact differs (head?_failLine _ _)
  unfold listingLines at member
  split at member
  · simp only [List.mem_cons, List.not_mem_nil, or_false] at member
    rcases member with rfl | rfl
    · exact starts (by decide)
    · exact starts (by decide)
  · rw [List.mem_append, List.mem_flatMap] at member
    simp only [List.mem_cons, List.not_mem_nil, or_false] at member
    rcases member with ⟨verdict, inVerdicts, isLine⟩ | rfl | rfl
    · rw [verdictLines_of_passed (passed verdict inVerdicts), List.mem_singleton] at isLine
      rw [isLine]
      exact (failLine_ne_passLine name verdict.function).symm
    · exact starts (by decide)
    · apply starts
      unfold summaryLine
      split
      · exact ne_of_beq_false rfl
      · exact ne_of_beq_false rfl

theorem showsFailure_iff {verdicts : List Verdict} (consistent : Consistent verdicts) :
    ShowsFailure .coloured (listingLines .coloured verdicts) ↔
      ∃ verdict ∈ verdicts, verdict.passed = false := by
  constructor
  · rintro ⟨before, name, message, after, isLines⟩
    by_contra noneFailed
    have passed : ∀ verdict ∈ verdicts, verdict.passed = true := by
      intro verdict member
      by_contra notPassed
      exact noneFailed ⟨verdict, member, by simpa using notPassed⟩
    have member : failLine .coloured name ∈ listingLines .coloured verdicts := by
      rw [isLines]
      exact List.mem_append_right _ List.mem_cons_self
    exact ne_failLine_of_passed passed member name rfl
  · rintro ⟨verdict, member, failed⟩
    obtain ⟨finding, others, found⟩ := consistent.exists_finding member failed
    obtain ⟨before, after, split⟩ := List.append_of_mem member
    have notEmpty : verdicts.isEmpty = false := by simp [split]
    refine ⟨before.flatMap (verdictLines .coloured), verdict.function, finding.message,
      (others.map fun finding => findingLine finding.message) ++
        (after.flatMap (verdictLines .coloured) ++ [{}, summaryLine .coloured verdicts]), ?_⟩
    rw [listingLines, notEmpty, if_neg Bool.false_ne_true]
    nth_rewrite 1 [split]
    rw [List.flatMap_append, List.flatMap_cons, verdictLines_of_failed failed, found,
      List.map_cons]
    simp only [List.cons_append, List.append_assoc]

theorem countP_failed_add_passed (verdicts : List Verdict) :
    verdicts.countP (!·.passed) + verdicts.countP Verdict.passed = verdicts.length := by
  have all : verdicts.length = _ := List.length_eq_countP_add_countP Verdict.passed
  simp only [Bool.not_eq_true, Bool.decide_eq_false] at all
  rw [all, Nat.add_comm]

def countsLine (palette : Palette) (failed passed : Nat) : Text :=
  if failed = 0 then
    palette.pass ++ "All " ++ toString passed ++ " function(s) passed." ++ palette.reset
  else
    palette.fail ++ toString failed ++ " function(s) failed, " ++ toString passed ++ " passed." ++
      palette.reset

theorem getLast?_listingLines {verdicts : List Verdict} (checked : verdicts ≠ [])
    (palette : Palette) :
    (listingLines palette verdicts).getLast? =
      some (countsLine palette (verdicts.countP (!·.passed)) (verdicts.countP Verdict.passed)) := by
  have notEmpty : verdicts.isEmpty = false := by simpa using checked
  have failed : failedCount verdicts = verdicts.countP (!·.passed) := by
    have all := countP_failed_add_passed verdicts
    rw [failedCount, passedCount, ← all, Nat.add_sub_cancel]
  rw [listingLines, notEmpty, if_neg Bool.false_ne_true, List.getLast?_append]
  show some (summaryLine palette verdicts) = _
  rw [summaryLine, failed]
  rfl

end FrameCheck.Report

namespace FrameCheck.Command

open JsonText Report

/-! ## Exit codes of runs -/

theorem Findings.exitCode_eq_one_iff (findings : Findings) :
    findings.exitCode = 1 ↔ ∃ verdict ∈ findings.verdicts, verdict.passed = false := by
  unfold Findings.exitCode
  cases passed : findings.verdicts.all Verdict.passed with
  | true =>
    rw [List.all_eq_true] at passed
    simpa using passed
  | false => simpa using List.all_eq_false.mp passed

/-- What findings say with their exit code, with both reports and with the counts in one. Without a
report there was something to report. -/
structure Findings.TellOneStory (findings : Findings) : Prop where
  consistent : Consistent findings.verdicts
  forTools : (∀ verdict ∈ findings.verdicts, Reportable findings.lines verdict) →
    ∃ chars value,
      documentText findings.verdicts findings.fileText findings.lines = .ok (.ofChars chars) ∧
      (∀ other, Denotes chars other ↔ other = value) ∧
      (findings.exitCode = 1 ↔ HasDiagnostic value)
  unreported : (¬ ∀ verdict ∈ findings.verdicts, Reportable findings.lines verdict) →
    documentText findings.verdicts findings.fileText findings.lines = .error .longNumber ∧
      findings.exitCode = 1
  forReaders : findings.exitCode = 1 ↔
    ShowsFailure .coloured (listingLines .coloured findings.verdicts)
  listed : findings.verdicts.all Verdict.isWritable = true →
    listingText .coloured findings.verdicts =
      .ok (Text.intercalate "\n" (listingLines .coloured findings.verdicts))
  unlisted : findings.verdicts.all Verdict.isWritable = false →
    listingText .coloured findings.verdicts = .error .longNumber ∧ findings.exitCode = 1
  counts : findings.verdicts ≠ [] → (listingLines .coloured findings.verdicts).getLast? =
    some (countsLine .coloured (findings.verdicts.countP (!·.passed))
      (findings.verdicts.countP Verdict.passed))
  total : findings.verdicts.countP (!·.passed) + findings.verdicts.countP Verdict.passed =
    findings.verdicts.length

theorem Findings.exitCode_of_unreportable {findings : Findings}
    (unreportable : ¬ ∀ verdict ∈ findings.verdicts, Reportable findings.lines verdict) :
    findings.exitCode = 1 := by
  rw [exitCode_eq_one_iff]
  by_contra noneFailed
  refine unreportable fun verdict member failed => ?_
  exact absurd ⟨verdict, member, failed⟩ noneFailed

theorem Findings.exitCode_of_unwritable {findings : Findings}
    (unwritable : findings.verdicts.all Verdict.isWritable = false) : findings.exitCode = 1 := by
  refine exitCode_of_unreportable fun reportable => ?_
  have written : (findings.verdicts.all Verdict.isWritable &&
      (document findings.verdicts findings.fileText findings.lines).isWritable) = true :=
    reportable_iff.mpr reportable
  rw [unwritable] at written
  cases written

theorem Findings.TellOneStory.of_consistent {findings : Findings}
    (consistent : Consistent findings.verdicts) : findings.TellOneStory where
  consistent := consistent
  forTools reportable :=
    ⟨_, _, documentText_of_reportable reportable, (document _ _ _).denotes_render, by
      rw [exitCode_eq_one_iff, hasDiagnostic_document_iff consistent]⟩
  unreported unreportable :=
    ⟨documentText_of_not_reportable unreportable, exitCode_of_unreportable unreportable⟩
  forReaders := by rw [exitCode_eq_one_iff, showsFailure_iff consistent]
  listed writable := by rw [listingText, if_pos writable, listing_eq]
  unlisted unwritable := by
    rw [listingText, unwritable]
    exact ⟨rfl, exitCode_of_unwritable unwritable⟩
  counts checked := getLast?_listingLines checked _
  total := countP_failed_add_passed _

theorem ReachesReport.consistent {find? : Path → Option Node} {arguments : List Text}
    {options : Options} {findings : Findings}
    (reaches : ReachesReport find? arguments options findings) : Consistent findings.verdicts := by
  intro verdict member
  rw [reaches.verdicts_eq, List.mem_map] at member
  obtain ⟨function, _, rfl⟩ := member
  exact function.passed_iff

/-- A run that reaches its report ends with the exit code of its findings, and this says the same
as the report that it prints, whichever is asked for. -/
theorem exitCode_tells_report {find? : Path → Option Node} {arguments : List Text}
    {options : Options} {findings : Findings}
    (reaches : ReachesReport find? arguments options findings) :
    (options.format = .json → run find? arguments =
      (documentText findings.verdicts findings.fileText findings.lines).map fun text =>
        { exitCode := findings.exitCode, output := text ++ "\n" }) ∧
    (options.format = .text → run find? arguments =
      (listingText .coloured findings.verdicts).map fun text =>
        { exitCode := findings.exitCode
          output := (if options.colours then text else withoutMarks text) ++ "\n" }) ∧
    findings.TellOneStory :=
  ⟨reaches.run_eq_of_json, reaches.run_eq_of_text, .of_consistent reaches.consistent⟩

def mixedScript : Path → Option Node :=
  fun _ => some <| .file <|
    ("def f(d:DF[\"?\"]):0\n" ++ "def g(d:DF[\"\x7ba:Int64\x7d\"]):0").toUTF8.data.toList

def mixedListing : Text :=
  "  f: \x1b[31mFAIL\x1b[0m\n" ++
  "    - Parameter 'd': Expected '\x7b', got '?' at position 0\n" ++
  "  g: \x1b[32mOK\x1b[0m\n\n" ++
  "\x1b[31m1 function(s) failed, 1 passed.\x1b[0m\n"

def mixedDocument : Text :=
  "\x7b\n  \"file\": \"a.py\",\n  \"diagnostics\": [\n    \x7b\n" ++
  "      \"file\": \"a.py\",\n      \"line\": 1,\n      \"column\": 0,\n" ++
  "      \"message\": \"Parameter 'd': Expected '\x7b', got '?' at position 0\",\n" ++
  "      \"severity\": \"error\",\n      \"source\": \"polypolarism\"\n    \x7d\n  ]\n\x7d\n"

/-- Both reports on a function that passes and one that does not, as they are printed. -/
theorem mixedScript_tells_report :
    (∃ findings, ReachesReport mixedScript ["a.py"] { paths := ["a.py"] } findings ∧
      run mixedScript ["a.py"] = .ok { exitCode := 1, output := mixedListing } ∧
      mixedListing =
        Text.intercalate "\n" (listingLines .coloured findings.verdicts) ++ "\n" ∧
      ShowsFailure .coloured (listingLines .coloured findings.verdicts)) ∧
    ∃ findings chars value,
      ReachesReport mixedScript ["--format", "json", "a.py"]
        { paths := ["a.py"], format := .json } findings ∧
      run mixedScript ["--format", "json", "a.py"] =
        .ok { exitCode := 1, output := mixedDocument } ∧
      mixedDocument = .ofChars chars ++ "\n" ∧ Denotes chars value ∧ HasDiagnostic value := by
  have checked : (Findings.addPaths mixedScript {} [Path.ofText "a.py"]).isOk = true := by
    decide +kernel
  constructor
  · have printed : run mixedScript ["a.py"] = .ok { exitCode := 1, output := mixedListing } := by
      decide +kernel
    obtain ⟨findings, reaches⟩ : ∃ findings, ReachesReport mixedScript ["a.py"]
        { paths := ["a.py"] } findings :=
      ReachesReport.of_isOk (by decide +kernel) (by decide) checked
    obtain ⟨_, forReaders, story⟩ := exitCode_tells_report reaches
    have runs := forReaders rfl
    rw [printed] at runs
    cases writable : findings.verdicts.all Verdict.isWritable with
    | false =>
      rw [(story.unlisted writable).1] at runs
      cases runs
    | true =>
      rw [story.listed writable] at runs
      obtain ⟨code, text, _⟩ := Outcome.mk.inj (Except.ok.inj runs)
      exact ⟨findings, reaches, printed, text, story.forReaders.mp code.symm⟩
  · have printed : run mixedScript ["--format", "json", "a.py"] =
        .ok { exitCode := 1, output := mixedDocument } := by
      decide +kernel
    obtain ⟨findings, reaches⟩ : ∃ findings, ReachesReport mixedScript
        ["--format", "json", "a.py"] { paths := ["a.py"], format := .json } findings :=
      ReachesReport.of_isOk (by decide +kernel) (by decide) checked
    obtain ⟨forTools, _, story⟩ := exitCode_tells_report reaches
    have runs := forTools rfl
    rw [printed] at runs
    by_cases reportable : ∀ verdict ∈ findings.verdicts, Reportable findings.lines verdict
    · obtain ⟨chars, value, isText, denotes, tells⟩ := story.forTools reportable
      rw [isText] at runs
      obtain ⟨code, text, _⟩ := Outcome.mk.inj (Except.ok.inj runs)
      exact ⟨findings, chars, value, reaches, printed, text, (denotes value).mpr rfl,
        tells.mp code.symm⟩
    · rw [(story.unreported reportable).1] at runs
      cases runs

end FrameCheck.Command
