import FrameCheck.Proofs.FrameOperations
import FrameCheck.Proofs.SelectedColumns
import FrameCheck.Proofs.ServingOperations

/-!
Calls of `with_columns` in a row. All arguments of a call look at its own frame, and those of the
next call at the frame with the columns that were added. Where the later arguments name none of
these columns, both calls come to what one call with all arguments comes to: the same frame, with
its columns in the same order, and problems that name the same missing columns. Only the columns
that a problem shows as available differ, so that an added label that cannot be written breaks off
the second call where the one call ends.
-/

namespace FrameCheck.Analysis

open Syntax Typing

/-! ## Frames that an expression cannot tell apart -/

def FindsAlike (frame other : Frame) (expression : Expr) : Prop :=
  ∀ name ∈ columnName? expression, frame.column? name = other.column? name

def MissedAlike (frame other : Frame) (first second : ColumnNotFound) : Prop :=
  ∃ name, first = ⟨name, frame.names⟩ ∧ second = ⟨name, other.names⟩

section Expressions

variable {frame other : Frame}

theorem plainColumn_findsAlike {expression : Expr} (alike : FindsAlike frame other expression)
    (label : Literal) :
    ResultsAlike (MissedAlike frame other) Eq (plainColumn frame label expression)
      (plainColumn other label expression) := by
  unfold plainColumn
  split
  next name isName =>
    split
    · exact .ok rfl
    · unfold columnType
      rw [← alike name isName]
      cases frame.column? name with
      | none => exact .error ⟨name, rfl, rfl⟩
      | some type => exact .ok rfl
  next =>
    split
    · split <;> exact .ok rfl
    · exact .ok rfl

theorem arithmetic_alike {label : Literal} {left right : Except ColumnNotFound OutputColumn}
    (columns : ResultsAlike (MissedAlike frame other) Eq left right) :
    ResultsAlike (MissedAlike frame other) Eq (do return arithmeticColumn label (← left))
      (do return arithmeticColumn label (← right)) := by
  apply columns.bind
  rintro column _ rfl
  exact .ok rfl

theorem columnUnder_findsAlike {expression : Expr}
    (alike : expression.Every (FindsAlike frame other)) (label : Literal) :
    ResultsAlike (MissedAlike frame other) Eq (columnUnder frame label expression)
      (columnUnder other label expression) := by
  fun_induction columnUnder frame label expression with
  | case1 label inner leftLabel others keywords operator right inLeft =>
    rw [columnUnder]
    exact arithmetic_alike (inLeft alike.left.function.object)
  | case2 label left operator right notAlias inLeft =>
    rw [columnUnder]
    · exact arithmetic_alike (inLeft alike.left)
    · exact notAlias
  | case3 label expression notAlias notBinary =>
    rw [columnUnder]
    · exact plainColumn_findsAlike alike.self label
    · exact notAlias
    · exact notBinary

theorem outputColumns_findsAlike {arguments : List Expr}
    (alike : ∀ argument ∈ arguments, argument.Every (FindsAlike frame other)) :
    (outputColumns frame arguments).1 = (outputColumns other arguments).1 ∧
      ∃ names : List Literal,
        (outputColumns frame arguments).2 = names.map (⟨·, frame.names⟩) ∧
        (outputColumns other arguments).2 = names.map (⟨·, other.names⟩) := by
  induction arguments with
  | nil => exact ⟨rfl, [], rfl, rfl⟩
  | cons first rest inRest =>
    rcases List.forall_mem_cons.mp alike with ⟨firstAlike, restAlike⟩
    rcases inRest restAlike with ⟨columns, names, missing, otherMissing⟩
    have results : ResultsAlike (MissedAlike frame other) Eq (outputColumn frame first)
        (outputColumn other first) := columnUnder_findsAlike (splitAlias_every firstAlike) _
    generalize found : outputColumn frame first = result at results
    generalize otherFound : outputColumn other first = otherResult at results
    cases results with
    | ok same =>
      subst same
      rw [outputColumns_cons_of_ok found, outputColumns_cons_of_ok otherFound, columns]
      exact ⟨rfl, names, missing, otherMissing⟩
    | error missed =>
      rcases missed with ⟨name, rfl, rfl⟩
      rw [outputColumns_cons_of_error found, outputColumns_cons_of_error otherFound, columns,
        missing, otherMissing]
      exact ⟨rfl, name :: names, rfl, rfl⟩

theorem outputColumns_append (earlier later : List Expr) :
    outputColumns frame (earlier ++ later) =
      ((outputColumns frame earlier).1 ++ (outputColumns frame later).1,
        (outputColumns frame earlier).2 ++ (outputColumns frame later).2) := by
  induction earlier with
  | nil => rfl
  | cons first rest inRest =>
    cases found : outputColumn frame first with
    | ok column =>
      rw [List.cons_append, outputColumns_cons_of_ok found, outputColumns_cons_of_ok found, inRest,
        List.append_assoc]
    | error error =>
      rw [List.cons_append, outputColumns_cons_of_error found, outputColumns_cons_of_error found,
        inRest, List.cons_append]

end Expressions

/-! ## Independent arguments -/

def added (frame : Frame) (arguments : List Expr) : Frame where
  columns := frame.columns.insertAll (outputColumns frame arguments).1

/-- No column that the later arguments name, at any depth, is one that the earlier ones yield. -/
def Independent (frame : Frame) (earlier later : List Expr) : Prop :=
  ∀ part ∈ allParts later, ∀ name ∈ columnName? part,
    ∀ column ∈ (outputColumns frame earlier).1, (column.1 == name) = false

instance (frame : Frame) (earlier later : List Expr) :
    Decidable (Independent frame earlier later) :=
  inferInstanceAs (Decidable (∀ part ∈ allParts later, ∀ name ∈ columnName? part,
    ∀ column ∈ (outputColumns frame earlier).1, (column.1 == name) = false))

def missingNames (frame : Frame) (arguments : List Expr) : List Literal :=
  (outputColumns frame arguments).2.map ColumnNotFound.name

def searchProblems (frame : Frame) (names : List Literal) : List Problem :=
  names.map fun name => .unknownColumn ⟨name, frame.names⟩

section Arguments

variable {frame : Frame} {earlier later arguments : List Expr}

theorem column?_added {name : Literal}
    (notWritten : ∀ column ∈ (outputColumns frame arguments).1, (column.1 == name) = false) :
    (added frame arguments).column? name = frame.column? name := by
  have none : (outputColumns frame arguments).1.filter (fun column => column.1 == name) = [] := by
    simpa [List.filter_eq_nil_iff] using notWritten
  show (frame.columns.insertAll (outputColumns frame arguments).1).get? name = _
  rw [Table.get?_insertAll_eq, none]
  rfl

theorem Independent.findsAlike (independent : Independent frame earlier later) :
    ∀ argument ∈ later, argument.Every (FindsAlike frame (added frame earlier)) := by
  intro argument isLater part isPart name isName
  have isThere : part ∈ allParts later := mem_allParts.mpr ⟨argument, isLater, isPart⟩
  exact (column?_added (independent part isThere name isName)).symm

theorem missingProblems_eq (frame : Frame) (arguments : List Expr) :
    missingProblems frame arguments = searchProblems frame (missingNames frame arguments) := by
  have itself : ∀ argument ∈ arguments, argument.Every (FindsAlike frame frame) :=
    fun _ _ _ _ _ _ => rfl
  rcases (outputColumns_findsAlike itself).2 with ⟨names, missing, _⟩
  simp [missingProblems, searchProblems, missingNames, missing]

theorem Independent.missingNames (independent : Independent frame earlier later) :
    missingNames (added frame earlier) later = missingNames frame later := by
  rcases (outputColumns_findsAlike independent.findsAlike).2 with ⟨names, missing, addedMissing⟩
  simp [Analysis.missingNames, missing, addedMissing]

theorem missingNames_append :
    missingNames frame (earlier ++ later) =
      missingNames frame earlier ++ missingNames frame later := by
  simp [missingNames, outputColumns_append]

theorem Independent.added (independent : Independent frame earlier later) :
    added (added frame earlier) later = added frame (earlier ++ later) := by
  have columns := (outputColumns_findsAlike independent.findsAlike).1
  unfold Analysis.added at columns ⊢
  rw [outputColumns_append, ← columns, Table.insertAll, Table.insertAll, Table.insertAll,
    List.foldl_append]

theorem searchProblems_writable_iff {names : List Literal} :
    (searchProblems frame names).all Problem.isWritable = true ↔
      ∀ name ∈ names, name.isWritable = true ∧ ∀ label ∈ frame.names, label.isWritable = true := by
  simp [searchProblems, Problem.isWritable, ColumnNotFound.isWritable]

theorem names_subset_added : frame.names ⊆ (added frame arguments).names := by
  show frame.columns.keys ⊆ (frame.columns.insertAll _).keys
  rw [Table.keys_insertAll]
  exact List.subset_append_left _ _

end Arguments

/-! ## Calls -/

def addInTurn (frame : Frame) (earlier later : List Expr) : Walker (Option Frame) := do
  match ← withColumnsCall frame earlier with
  | some middle => withColumnsCall middle later
  | none => return none

def Walk.searched (walk : Walk) (frame : Frame) (names : List Literal) : Walk :=
  { walk with problems := walk.problems ++ searchProblems frame names }

/-- What the later arguments miss can be reported after the earlier ones: they miss nothing, or all
labels that there are then can be written. -/
def ReportsLater (frame : Frame) (earlier later : List Expr) : Prop :=
  missingNames frame later = [] ∨ ∀ label ∈ (added frame earlier).names, label.isWritable = true

/-- Both ways have looked for the same names in vain, in the same order. -/
structure SearchedAlike (frame : Frame) (earlier later : List Expr) (walk atOnce inTurn : Walk) :
    Prop where
  atOnce : atOnce = walk.searched frame (missingNames frame earlier ++ missingNames frame later)
  inTurn : inTurn = (walk.searched frame (missingNames frame earlier)).searched
    (added frame earlier) (missingNames frame later)

section Calls

variable {frame : Frame} {earlier later arguments : List Expr} {walk after last : Walk}
  {result : Option Frame}

theorem withColumnsCall_ends_iff :
    withColumnsCall frame arguments walk = .ok result after ↔
      (searchProblems frame (missingNames frame arguments)).all Problem.isWritable = true ∧
        after = walk.searched frame (missingNames frame arguments) ∧
        result = some (added frame arguments) := by
  rw [withColumnsCall_eq_ok_iff, missingProblems_eq, report_eq_ok_iff, and_assoc]
  rfl

theorem withColumnsCall_breaks_off
    (unwritable :
      ¬ (searchProblems frame (missingNames frame arguments)).all Problem.isWritable = true) :
    withColumnsCall frame arguments walk = .error .longNumber walk := by
  rw [← missingProblems_eq] at unwritable
  have reporting :
      Walker.report (missingProblems frame arguments) walk = .error .longNumber walk := by
    rw [Walker.report, if_neg unwritable]
    rfl
  exact Steps.bind_of_error reporting

theorem addInTurn_of_first
    (first : (searchProblems frame (missingNames frame earlier)).all Problem.isWritable = true) :
    addInTurn frame earlier later walk =
      withColumnsCall (added frame earlier) later
        (walk.searched frame (missingNames frame earlier)) := by
  have ended : withColumnsCall frame earlier walk = .ok (some (added frame earlier))
      (walk.searched frame (missingNames frame earlier)) :=
    withColumnsCall_ends_iff.mpr ⟨first, rfl, rfl⟩
  exact Steps.bind_of_ok ended

theorem addInTurn_ends_iff (independent : Independent frame earlier later) :
    addInTurn frame earlier later walk = .ok result last ↔
      ((searchProblems frame (missingNames frame earlier)).all Problem.isWritable = true ∧
        (searchProblems (added frame earlier) (missingNames frame later)).all Problem.isWritable =
          true) ∧
        last = (walk.searched frame (missingNames frame earlier)).searched (added frame earlier)
          (missingNames frame later) ∧
        result = some (added frame (earlier ++ later)) := by
  by_cases first : (searchProblems frame (missingNames frame earlier)).all Problem.isWritable = true
  · rw [addInTurn_of_first first, withColumnsCall_ends_iff, independent.missingNames,
      independent.added]
    simp [first]
  · have broken : addInTurn frame earlier later walk = .error .longNumber walk :=
      Steps.bind_of_error (withColumnsCall_breaks_off first)
    simp [broken, first]

theorem atOnce_ends_iff :
    withColumnsCall frame (earlier ++ later) walk = .ok result after ↔
      ((searchProblems frame (missingNames frame earlier)).all Problem.isWritable = true ∧
        (searchProblems frame (missingNames frame later)).all Problem.isWritable = true) ∧
        after = walk.searched frame (missingNames frame earlier ++ missingNames frame later) ∧
        result = some (added frame (earlier ++ later)) := by
  have problems : searchProblems frame (missingNames frame earlier ++ missingNames frame later) =
      searchProblems frame (missingNames frame earlier) ++
        searchProblems frame (missingNames frame later) := List.map_append
  rw [withColumnsCall_ends_iff, missingNames_append, problems, List.all_append, Bool.and_eq_true]

theorem reports_before
    (writable : (searchProblems (added frame earlier) (missingNames frame later)).all
      Problem.isWritable = true) :
    (searchProblems frame (missingNames frame later)).all Problem.isWritable = true := by
  rw [searchProblems_writable_iff] at writable ⊢
  intro name isName
  rcases writable name isName with ⟨nameWritable, labelsWritable⟩
  exact ⟨nameWritable, fun label isLabel => labelsWritable label (names_subset_added isLabel)⟩

theorem reports_after_iff
    (writable : (searchProblems frame (missingNames frame later)).all Problem.isWritable = true) :
    (searchProblems (added frame earlier) (missingNames frame later)).all
        Problem.isWritable = true ↔
      ReportsLater frame earlier later := by
  rw [searchProblems_writable_iff] at writable ⊢
  constructor
  · intro reports
    cases missing : missingNames frame later with
    | nil => exact .inl missing
    | cons name others =>
      have isName : name ∈ missingNames frame later := by
        rw [missing]
        exact List.mem_cons_self
      exact .inr (reports name isName).2
  · rintro (missing | labelsWritable) name isName
    · rw [missing] at isName
      cases isName
    · exact ⟨(writable name isName).1, labelsWritable⟩

end Calls

/-- Arguments that name no column of the earlier ones may be added at once. Where both calls end,
the one call ends with the same frame, and both ways name the same missing columns in the same
order. Where the one call ends, so do both calls, unless the second one misses a column and cannot
write the labels that there are. -/
theorem withColumnsCall_fuses {frame : Frame} {earlier later : List Expr}
    (independent : Independent frame earlier later) (walk : Walk) :
    (∀ result inTurn, addInTurn frame earlier later walk = .ok result inTurn →
      ∃ atOnce, withColumnsCall frame (earlier ++ later) walk = .ok result atOnce ∧
        SearchedAlike frame earlier later walk atOnce inTurn) ∧
    (∀ result atOnce, withColumnsCall frame (earlier ++ later) walk = .ok result atOnce →
      ReportsLater frame earlier later →
      ∃ inTurn, addInTurn frame earlier later walk = .ok result inTurn ∧
        SearchedAlike frame earlier later walk atOnce inTurn) ∧
    ∀ result atOnce, withColumnsCall frame (earlier ++ later) walk = .ok result atOnce →
      ¬ ReportsLater frame earlier later →
      ∃ inTurn, addInTurn frame earlier later walk = .error .longNumber inTurn := by
  refine ⟨?_, ?_, ?_⟩
  · intro result inTurn ended
    rcases (addInTurn_ends_iff independent).mp ended with ⟨⟨first, second⟩, isInTurn, isResult⟩
    exact ⟨_, atOnce_ends_iff.mpr ⟨⟨first, reports_before second⟩, rfl, isResult⟩, rfl, isInTurn⟩
  · intro result atOnce ended reports
    rcases atOnce_ends_iff.mp ended with ⟨⟨first, second⟩, isAtOnce, isResult⟩
    exact ⟨_, (addInTurn_ends_iff independent).mpr
      ⟨⟨first, (reports_after_iff second).mpr reports⟩, rfl, isResult⟩, isAtOnce, rfl⟩
  · intro result atOnce ended cannot
    rcases atOnce_ends_iff.mp ended with ⟨⟨first, second⟩, _, _⟩
    have unwritable := fun writable => cannot ((reports_after_iff second).mp writable)
    rw [← independent.missingNames] at unwritable
    exact ⟨_, (addInTurn_of_first first).trans (withColumnsCall_breaks_off unwritable)⟩

def firstArguments : List Expr :=
  [relabel "a" "c", relabel "z" "d"]

def furtherArguments : List Expr :=
  [relabel "b" "c", relabel "y" "a",
   .call (.attribute (.binary (.call (.attribute (.name "pl") "col") [.literal (.text "b")] [])
      .multiply (.literal (.int 2))) "alias") [.literal (.text "a")] []]

theorem furtherArguments_fuse :
    Independent labelledPair firstArguments furtherArguments ∧
    ∃ result atOnce inTurn,
      withColumnsCall labelledPair (firstArguments ++ furtherArguments) {} =
        .ok (some result) atOnce ∧
      addInTurn labelledPair firstArguments furtherArguments {} = .ok (some result) inTurn ∧
      SearchedAlike labelledPair firstArguments furtherArguments {} atOnce inTurn ∧
      result.names.map Literal.display = ["a", "b", "c"] ∧
      inTurn.problems.length = 2 := by
  have independent : Independent labelledPair firstArguments furtherArguments := by
    decide +kernel
  have reports : ReportsLater labelledPair firstArguments furtherArguments :=
    .inr (by decide +kernel)
  rcases withColumnsCall_fuses independent {} with ⟨_, ends, _⟩
  rcases ends _ _ rfl reports with ⟨inTurn, ended, searched⟩
  refine ⟨independent, _, _, inTurn, rfl, ended, searched, by decide +kernel, ?_⟩
  rw [searched.inTurn]
  decide +kernel

def longLabel : Expr :=
  .call (.attribute (.call (.attribute (.name "pl") "lit") [.literal (.int 1)] []) "alias")
    [.literal (.int (Magnitude.powerOfTen Literal.wholeDigitLimit))] []

/-- The second call cannot show the label among the available columns, and breaks off. -/
theorem longLabel_keeps_calls_apart :
    Independent labelledPair [longLabel] [relabel "z" "d"] ∧
    (match withColumnsCall labelledPair ([longLabel] ++ [relabel "z" "d"]) {} with
      | .ok _ walk => some walk.problems.length
      | .error _ _ => none) = some 1 ∧
    (match addInTurn labelledPair [longLabel] [relabel "z" "d"] {} with
      | .ok _ _ => none
      | .error fault _ => some fault) = some Fault.longNumber := by
  refine ⟨by decide +kernel, by decide +kernel, by decide +kernel⟩

end FrameCheck.Analysis
