import FrameCheck.Proofs.Alike
import FrameCheck.Proofs.Steps
import FrameCheck.Analysis.Walk

/-!
The columns of `select` and `with_columns`. Both report the same columns that are missing, and
`with_columns` writes over its frame what `select` makes a frame of: columns that are written over
keep their places, and new ones follow. What comes of it has no variable for further columns.
-/

namespace FrameCheck

/-- The columns of a frame with those of another one, if there is one, written over them. -/
def Frame.overlaid (frame : Frame) (selected : Option Frame) : Frame where
  columns := frame.columns.insertAll (selected.elim [] fun other => other.columns.entries)

namespace Frame

theorem names_overlaid_some (frame other : Frame) :
    (frame.overlaid (some other)).names =
      frame.names ++ other.names.filter fun name => !frame.hasColumn name := by
  have distinct : Table.Distinct (other.names.filter fun name => !frame.hasColumn name) :=
    other.columns.distinct_keys.filter _
  show (frame.columns.insertAll other.columns.entries).keys = _
  rw [Table.keys_insertAll]
  show frame.names ++ (other.names.filter fun name => !frame.hasColumn name).eraseDups = _
  rw [Table.eraseDups_of_distinct distinct]

theorem column?_overlaid (frame : Frame) (selected : Option Frame) (label : Literal) :
    (frame.overlaid selected).column? label =
      (selected.bind fun other => other.column? label).or (frame.column? label) := by
  cases selected with
  | none => rfl
  | some other => exact Table.get?_insertAll_table frame.columns other.columns label

end Frame

namespace Analysis

open Syntax Typing

/-! ## Calls -/

def selectedFrame? (columns : List (Literal × ColumnType)) : Option Frame :=
  if columns.isEmpty then none else some (.ofList columns)

def missingProblems (frame : Frame) (arguments : List Expr) : List Problem :=
  (outputColumns frame arguments).2.map .unknownColumn

section Calls

variable {frame : Frame} {arguments : List Expr} {walk after : Walk} {fault : Fault}

theorem report_eq_ok_iff {problems : List Problem} :
    Walker.report problems walk = .ok ⟨⟩ after ↔
      problems.all Problem.isWritable = true ∧
        after = { walk with problems := walk.problems ++ problems } := by
  unfold Walker.report
  cases problems.all Problem.isWritable with
  | false => exact ⟨nofun, nofun⟩
  | true =>
    constructor
    · rintro ⟨⟩
      exact ⟨rfl, rfl⟩
    · rintro ⟨_, rfl⟩
      rfl

theorem reporting_eq_ok_iff {problems : List Problem} {value result : Option Frame} :
    (do
      Walker.report problems
      return value : Walker (Option Frame)) walk = .ok result after ↔
      Walker.report problems walk = .ok ⟨⟩ after ∧ result = value := by
  refine Steps.bind_eq_ok_iff.trans ⟨?_, ?_⟩
  · rintro ⟨_, _, reported, ⟨⟩⟩
    exact ⟨reported, rfl⟩
  · rintro ⟨reported, rfl⟩
    exact ⟨⟨⟩, after, reported, rfl⟩

theorem selectCall_eq_ok_iff {selected : Option Frame} :
    selectCall frame arguments walk = .ok selected after ↔
      Walker.report (missingProblems frame arguments) walk = .ok ⟨⟩ after ∧
        selected = selectedFrame? (outputColumns frame arguments).1 :=
  reporting_eq_ok_iff

theorem withColumnsCall_eq_ok_iff {result : Option Frame} :
    withColumnsCall frame arguments walk = .ok result after ↔
      Walker.report (missingProblems frame arguments) walk = .ok ⟨⟩ after ∧
        result = some { columns := frame.columns.insertAll (outputColumns frame arguments).1 } :=
  reporting_eq_ok_iff

theorem calls_eq_error_iff :
    selectCall frame arguments walk = .error fault after ↔
      withColumnsCall frame arguments walk = .error fault after := by
  cases reported : Walker.report (missingProblems frame arguments) walk with
  | ok _ last =>
    rw [selectCall_eq_ok_iff.mpr ⟨reported, rfl⟩, withColumnsCall_eq_ok_iff.mpr ⟨reported, rfl⟩]
    exact ⟨nofun, nofun⟩
  | error other last =>
    have selecting : selectCall frame arguments walk = .error other last :=
      Steps.bind_of_error reported
    have adding : withColumnsCall frame arguments walk = .error other last :=
      Steps.bind_of_error reported
    rw [selecting, adding]

theorem names_selectedFrame? (columns : List (Literal × ColumnType)) :
    (selectedFrame? columns).elim [] Frame.names = (columns.map (·.1)).eraseDups := by
  cases columns with
  | nil => rfl
  | cons first rest => exact Table.keys_ofList (first :: rest)

theorem overlaid_selectedFrame? (frame : Frame) (columns : List (Literal × ColumnType)) :
    frame.overlaid (selectedFrame? columns) = { columns := frame.columns.insertAll columns } := by
  cases columns with
  | nil => rfl
  | cons first rest =>
    have gathered := Table.insertAll_ofList frame.columns (first :: rest)
    exact congrArg (fun columns => ({ columns := columns } : Frame)) gathered

end Calls

/-! ## Overlays -/

/-- What `with_columns` comes to where `select` comes to a frame, or to none: the columns of the
frame are updated with those that are selected, or stay as they are. -/
structure LaidOver (frame : Frame) (selected : Option Frame) (result : Frame) : Prop where
  updated : result = frame.overlaid selected
  names : result.names = frame.names ++
    (selected.elim [] Frame.names).filter fun name => !frame.hasColumn name
  written : ∀ other ∈ selected, ∀ label type, other.column? label = some type →
    result.column? label = some type
  kept : ∀ label, (∀ other ∈ selected, other.column? label = none) →
    result.column? label = frame.column? label
  alone : selected = none → result = { columns := frame.columns }

theorem laidOver_overlaid (frame : Frame) (selected : Option Frame) :
    LaidOver frame selected (frame.overlaid selected) where
  updated := rfl
  names := by
    cases selected with
    | none => exact (List.append_nil _).symm
    | some other => exact frame.names_overlaid_some other
  written := by
    rintro other ⟨⟩ label type found
    rw [frame.column?_overlaid]
    simp [found]
  kept := by
    intro label absent
    rw [frame.column?_overlaid]
    cases selected with
    | none => rfl
    | some other => simp [absent other rfl]
  alone := by
    rintro rfl
    rfl

/-- Adding columns is selecting them and laying them over the frame. Both calls leave the same walk
behind, with the same problems in the same order, or break off alike. What is selected stands in
the order in which the arguments first name it. -/
theorem withColumnsCall_overlays (frame : Frame) (arguments : List Expr) (walk : Walk) :
    (∀ selected after, selectCall frame arguments walk = .ok selected after →
      after = { walk with problems := walk.problems ++ missingProblems frame arguments } ∧
      selected.elim [] Frame.names = ((outputColumns frame arguments).1.map (·.1)).eraseDups ∧
      ∃ result, withColumnsCall frame arguments walk = .ok (some result) after ∧
        LaidOver frame selected result) ∧
    ∀ fault after, selectCall frame arguments walk = .error fault after ↔
      withColumnsCall frame arguments walk = .error fault after := by
  refine ⟨fun selected after succeeded => ?_, fun _ _ => calls_eq_error_iff⟩
  rcases selectCall_eq_ok_iff.mp succeeded with ⟨reported, rfl⟩
  refine ⟨(report_eq_ok_iff.mp reported).2, names_selectedFrame? _, _,
    withColumnsCall_eq_ok_iff.mpr ⟨reported, rfl⟩, ?_⟩
  rw [← overlaid_selectedFrame?]
  exact laidOver_overlaid frame _

def relabel (name label : Text) : Expr :=
  .call (.attribute (.call (.attribute (.name "pl") "col") [.literal (.text name)] []) "alias")
    [.literal (.text label)] []

def labelledPair : Frame :=
  .ofList [(.text "a", .int64), (.text "b", .nullable .utf8)]

def labelledArguments : List Expr :=
  [relabel "a" "c", relabel "b" "a", relabel "z" "b", relabel "b" "c"]

theorem labelledPair_overlaid :
    ∃ selected after result,
      selectCall labelledPair labelledArguments {} = .ok (some selected) after ∧
      selected.names.map Literal.display = ["c", "a"] ∧
      after.problems.length = 1 ∧
      withColumnsCall labelledPair labelledArguments {} = .ok (some result) after ∧
      LaidOver labelledPair (some selected) result ∧
      result.names.map Literal.display = ["a", "b", "c"] ∧
      result.column? (.text "a") = some (.nullable .utf8) := by
  rcases withColumnsCall_overlays labelledPair labelledArguments {} with ⟨overlays, _⟩
  rcases overlays _ _ rfl with ⟨_, _, result, added, laid⟩
  refine ⟨_, _, result, rfl, by decide +kernel, by decide +kernel, added, laid, ?_, ?_⟩
  · rw [laid.names]
    decide +kernel
  · exact laid.written _ rfl _ _ rfl

def openFrame : Frame :=
  { columns := .ofList [(.text "a", .int64)], rest := some "r" }

/-- Where nothing is selected, the variable for further columns is lost all the same. -/
theorem openFrame_closed :
    selectCall openFrame [] {} = .ok none {} ∧
    withColumnsCall openFrame [] {} = .ok (some { columns := openFrame.columns }) {} ∧
    openFrame.same { columns := openFrame.columns } = false := by
  exact ⟨rfl, rfl, by decide +kernel⟩

end Analysis

end FrameCheck
