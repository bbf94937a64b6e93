import FrameCheck.Proofs.ExitCodes
import Mathlib.Data.List.Forall2
import Mathlib.Data.List.TakeWhile

/-!
Reports without colours. Taking the marks for colours out of a report gives the report that is
written without them, as long as the names and messages in it have no escape characters.

No mark can begin in one part of a report and end in another, since only the marks have escape
characters. So what is taken out of parts in a row is what is taken out of each of them (`Sheds`).
-/

namespace FrameCheck.Report

/-! ## Taking marks out -/

def IsMark (points : List CodePoint) : Prop :=
  ∃ parameters : List CodePoint,
    (∀ point ∈ parameters, point.meets isMarkParameter = true) ∧
      points = .char '\x1b' :: .char '[' :: (parameters ++ [.char 'm'])

/-- Every mark is taken out, from the left on, and what no mark starts at stays. -/
inductive Removed : List CodePoint → List CodePoint → Prop
  | nil : Removed [] []
  | mark {mark rest left : List CodePoint} (isMark : IsMark mark) (others : Removed rest left) :
      Removed (mark ++ rest) left
  | point {point : CodePoint} {rest left : List CodePoint}
      (noMark : ∀ mark, IsMark mark → ¬ mark <+: point :: rest) (others : Removed rest left) :
      Removed (point :: rest) (point :: left)

theorem afterMark?_append {parameters : List CodePoint}
    (areParameters : ∀ point ∈ parameters, point.meets isMarkParameter = true)
    (rest : List CodePoint) :
    afterMark? (.char '[' :: (parameters ++ .char 'm' :: rest)) = some rest := by
  have stops : (parameters ++ .char 'm' :: rest).dropWhile (CodePoint.meets isMarkParameter) =
      .char 'm' :: rest := by
    rw [List.dropWhile_append_of_pos areParameters, List.dropWhile_cons_of_neg (by decide)]
  simp only [afterMark?, stops]

theorem exists_mark_of_afterMark? {points rest : List CodePoint}
    (found : afterMark? points = some rest) :
    ∃ mark, IsMark mark ∧ .char '\x1b' :: points = mark ++ rest := by
  unfold afterMark? at found
  split at found
  next points =>
    split at found
    next others ends =>
      cases found
      refine ⟨_, ⟨points.takeWhile (CodePoint.meets isMarkParameter), ?_, rfl⟩, ?_⟩
      · exact fun _ member => List.mem_takeWhile_imp member
      · have split := List.takeWhile_append_dropWhile
          (p := CodePoint.meets isMarkParameter) (l := points)
        rw [ends] at split
        simp [split]
    next => cases found
  next => cases found

theorem dropMarks_mark {mark : List CodePoint} (isMark : IsMark mark) (rest : List CodePoint) :
    dropMarks (mark ++ rest) = dropMarks rest := by
  obtain ⟨parameters, areParameters, rfl⟩ := isMark
  have found := afterMark?_append areParameters rest
  simp only [List.cons_append, List.append_assoc, List.nil_append]
  rw [dropMarks, if_pos rfl]
  split
  next left same =>
    rw [found] at same
    cases same
    rfl
  next none =>
    rw [found] at none
    cases none

theorem dropMarks_cons_of_ne {point : CodePoint} (notEscape : point ≠ .char '\x1b')
    (rest : List CodePoint) : dropMarks (point :: rest) = point :: dropMarks rest := by
  rw [dropMarks, if_neg notEscape]

theorem dropMarks_append_of_not_mem {points : List CodePoint} (noEscape : .char '\x1b' ∉ points)
    (rest : List CodePoint) : dropMarks (points ++ rest) = points ++ dropMarks rest := by
  induction points with
  | nil => rfl
  | cons point points inPoints =>
    rw [List.mem_cons, not_or] at noEscape
    rw [List.cons_append, dropMarks_cons_of_ne (Ne.symm noEscape.1), inPoints noEscape.2,
      List.cons_append]

theorem dropMarks_cons_of_noMark {point : CodePoint} {rest : List CodePoint}
    (noMark : ∀ mark, IsMark mark → ¬ mark <+: point :: rest) :
    dropMarks (point :: rest) = point :: dropMarks rest := by
  rw [dropMarks]
  split
  next isEscape =>
    subst isEscape
    split
    next left found =>
      obtain ⟨mark, isMark, split⟩ := exists_mark_of_afterMark? found
      exact absurd ⟨left, split.symm⟩ (noMark mark isMark)
    next => rfl
  next => rfl

theorem removed_dropMarks (points : List CodePoint) : Removed points (dropMarks points) := by
  fun_induction dropMarks points with
  | case1 => exact .nil
  | case2 rest left found shorter inLeft =>
    obtain ⟨mark, isMark, split⟩ := exists_mark_of_afterMark? found
    rw [split]
    exact .mark isMark inLeft
  | case3 rest none inRest =>
    refine .point (fun mark isMark starts => ?_) inRest
    obtain ⟨parameters, areParameters, rfl⟩ := isMark
    obtain ⟨others, split⟩ := starts
    simp only [List.cons_append, List.append_assoc, List.nil_append, List.cons.injEq,
      true_and] at split
    rw [← split, afterMark?_append areParameters] at none
    cases none
  | case4 point rest notEscape inRest =>
    refine .point (fun mark isMark starts => ?_) inRest
    obtain ⟨parameters, -, rfl⟩ := isMark
    obtain ⟨others, split⟩ := starts
    exact notEscape (List.cons.inj split).1.symm

theorem removed_iff {points left : List CodePoint} :
    Removed points left ↔ dropMarks points = left := by
  constructor
  · intro removed
    induction removed with
    | nil => exact dropMarks.eq_1
    | mark isMark _ inRest => rw [dropMarks_mark isMark, inRest]
    | point noMark _ inRest => rw [dropMarks_cons_of_noMark noMark, inRest]
  · rintro rfl
    exact removed_dropMarks points

/-! ## Parts of reports -/

def EscapeFree (text : Text) : Prop :=
  .char '\x1b' ∉ text.points

instance (text : Text) : Decidable (EscapeFree text) :=
  inferInstanceAs (Decidable (¬ _))

/-- A part of a report becomes another when marks are taken out, whatever follows it. -/
structure Sheds (marked plain : Text) : Prop where
  dropMarks_append : ∀ rest, dropMarks (marked.points ++ rest) = plain.points ++ dropMarks rest
  escapeFree : EscapeFree plain

namespace Sheds

theorem of_escapeFree {text : Text} (escapeFree : EscapeFree text) : Sheds text text :=
  ⟨dropMarks_append_of_not_mem escapeFree, escapeFree⟩

theorem of_isMark {mark : Text} (isMark : IsMark mark.points) : Sheds mark {} where
  dropMarks_append rest := dropMarks_mark isMark rest
  escapeFree := List.not_mem_nil

theorem append {marked plain other otherPlain : Text} (first : Sheds marked plain)
    (second : Sheds other otherPlain) : Sheds (marked ++ other) (plain ++ otherPlain) where
  dropMarks_append rest := by
    show dropMarks (marked.points ++ other.points ++ rest) =
      plain.points ++ otherPlain.points ++ dropMarks rest
    rw [List.append_assoc, first.dropMarks_append, second.dropMarks_append, List.append_assoc]
  escapeFree member :=
    (List.mem_append.mp member).elim first.escapeFree second.escapeFree

theorem intercalate {separator : Text} (separates : EscapeFree separator) {lines plain : List Text}
    (each : List.Forall₂ Sheds lines plain) :
    Sheds (Text.intercalate separator lines) (Text.intercalate separator plain) := by
  induction each with
  | nil => exact of_escapeFree List.not_mem_nil
  | cons first rest inRest =>
    cases rest with
    | nil => exact first
    | cons second others => exact first.append ((of_escapeFree separates).append inRest)

theorem withoutMarks_eq {marked plain : Text} (sheds : Sheds marked plain) :
    withoutMarks marked = plain := by
  have dropped := sheds.dropMarks_append []
  rw [List.append_nil, dropMarks.eq_1, List.append_nil] at dropped
  rw [withoutMarks, dropped]

end Sheds

theorem escapeFree_toString (number : Nat) : EscapeFree (toString number : String) := by
  intro member
  obtain ⟨char, isDigit, same⟩ := List.mem_map.mp member
  rw [Nat.toString_eq_ofList_toDigits, String.toList_ofList] at isDigit
  have digit := Nat.isDigit_of_mem_toDigits (by decide) (by decide) isDigit
  cases same
  revert digit
  decide

/-! ## Reports -/

structure Palette.IsMarks (palette : Palette) : Prop where
  pass : IsMark palette.pass.points
  fail : IsMark palette.fail.points
  reset : IsMark palette.reset.points

theorem Palette.isMarks_coloured : coloured.IsMarks where
  pass := ⟨[.char '3', .char '2'], by decide, by decide +kernel⟩
  fail := ⟨[.char '3', .char '1'], by decide, by decide +kernel⟩
  reset := ⟨[.char '0'], by decide, by decide +kernel⟩

structure Verdict.IsEscapeFree (verdict : Verdict) : Prop where
  function : EscapeFree verdict.function
  findings : ∀ finding ∈ verdict.findings, EscapeFree finding.message

theorem sheds_statusLine {name mark status reset : Text} (nameFree : EscapeFree name)
    (isMark : IsMark mark.points) (statusFree : EscapeFree status) (isReset : IsMark reset.points) :
    Sheds ("  " ++ name ++ ": " ++ (mark ++ status ++ reset))
      ("  " ++ name ++ ": " ++ ({} ++ status ++ {})) :=
  (((Sheds.of_escapeFree (by decide +kernel)).append (.of_escapeFree nameFree)).append
    (.of_escapeFree (by decide +kernel))).append
      (((Sheds.of_isMark isMark).append (.of_escapeFree statusFree)).append (.of_isMark isReset))

section Listing

variable {palette : Palette} (isMarks : palette.IsMarks)
include isMarks

theorem sheds_verdictLines {verdict : Verdict} (escapeFree : verdict.IsEscapeFree) :
    List.Forall₂ Sheds (verdictLines palette verdict) (verdictLines .plain verdict) := by
  cases passed : verdict.passed with
  | true =>
    rw [verdictLines_of_passed passed, verdictLines_of_passed passed]
    exact .cons
      (sheds_statusLine escapeFree.function isMarks.pass (by decide +kernel) isMarks.reset)
      .nil
  | false =>
    rw [verdictLines_of_failed passed, verdictLines_of_failed passed]
    refine .cons
      (sheds_statusLine escapeFree.function isMarks.fail (by decide +kernel) isMarks.reset)
      (List.forall₂_same.mpr fun line member => ?_)
    obtain ⟨finding, isFinding, rfl⟩ := List.mem_map.mp member
    exact (Sheds.of_escapeFree (by decide +kernel)).append
      (.of_escapeFree (escapeFree.findings finding isFinding))

theorem sheds_summaryLine (verdicts : List Verdict) :
    Sheds (summaryLine palette verdicts) (summaryLine .plain verdicts) := by
  have number (count : Nat) : Sheds (toString count : String) (toString count : String) :=
    .of_escapeFree (escapeFree_toString count)
  unfold summaryLine
  split
  · exact ((((Sheds.of_isMark isMarks.pass).append (.of_escapeFree (by decide +kernel))).append
      (number _)).append (.of_escapeFree (by decide +kernel))).append (.of_isMark isMarks.reset)
  · exact (((((Sheds.of_isMark isMarks.fail).append (number _)).append
      (.of_escapeFree (by decide +kernel))).append (number _)).append
        (.of_escapeFree (by decide +kernel))).append (.of_isMark isMarks.reset)

theorem sheds_listing {verdicts : List Verdict}
    (escapeFree : ∀ verdict ∈ verdicts, verdict.IsEscapeFree) :
    Sheds (listing palette verdicts) (listing .plain verdicts) := by
  unfold listing
  split
  · exact .of_escapeFree (by decide +kernel)
  · apply Sheds.intercalate (by decide +kernel)
    have same :
        List.Forall₂ (fun left right => left = right ∧ left.IsEscapeFree) verdicts verdicts :=
      List.forall₂_same.mpr fun verdict member => ⟨rfl, escapeFree verdict member⟩
    refine List.rel_append (List.rel_flatMap same ?_)
      (.cons (.of_escapeFree (by decide +kernel)) (.cons (sheds_summaryLine isMarks verdicts) .nil))
    rintro verdict _ ⟨rfl, isEscapeFree⟩
    exact sheds_verdictLines isMarks isEscapeFree

end Listing

end FrameCheck.Report

namespace FrameCheck.Command

open Report

/-- A report without colours is the one that is written without marks: nothing else is taken out
of the coloured one, and no mark is left. -/
theorem report_without_colours {verdicts : List Verdict}
    (escapeFree : ∀ verdict ∈ verdicts, verdict.IsEscapeFree) :
    withoutMarks (listing .coloured verdicts) = listing .plain verdicts ∧
    Removed (listing .coloured verdicts).points (listing .plain verdicts).points ∧
    EscapeFree (listing .plain verdicts) ∧
    ∀ find? arguments options findings, ReachesReport find? arguments options findings →
      findings.verdicts = verdicts → options.format = .text → options.colours = false →
      verdicts.all Verdict.isWritable = true →
        run find? arguments =
          .ok { exitCode := findings.exitCode, output := listing .plain verdicts ++ "\n" } := by
  have sheds := sheds_listing Palette.isMarks_coloured escapeFree
  have without := sheds.withoutMarks_eq
  refine ⟨without, removed_iff.mpr (congrArg Text.points without), sheds.escapeFree, ?_⟩
  rintro find? arguments options findings reaches rfl isText noColours writable
  rw [reaches.run_eq_of_text isText, listingText, if_pos writable, noColours, Except.map,
    if_neg Bool.false_ne_true, without]

def lookalikes : List Verdict :=
  [{ function := "[32m", passed := false,
     findings := [.inferenceFailure "[0m", .inferenceFailure "1;2m"] },
    { function := "m", passed := true }]

theorem lookalikes_without_colours :
    (∀ verdict ∈ lookalikes, verdict.IsEscapeFree) ∧
    withoutMarks (listing .coloured lookalikes) =
      "  [32m: FAIL\n    - [0m\n    - 1;2m\n  m: OK\n\n1 function(s) failed, 1 passed." ∧
    Removed (listing .coloured lookalikes).points (listing .plain lookalikes).points := by
  have escapeFree : ∀ verdict ∈ lookalikes, verdict.IsEscapeFree := by
    intro verdict member
    simp only [lookalikes, List.mem_cons, List.not_mem_nil, or_false] at member
    rcases member with rfl | rfl
    · exact ⟨by decide +kernel, by decide +kernel⟩
    · exact ⟨by decide +kernel, by decide +kernel⟩
  obtain ⟨without, removed, -⟩ := report_without_colours escapeFree
  exact ⟨escapeFree, without.trans (by decide +kernel), removed⟩

end FrameCheck.Command
