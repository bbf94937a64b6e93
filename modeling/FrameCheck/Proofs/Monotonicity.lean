import FrameCheck.Proofs.GroupedColumns
import FrameCheck.Proofs.SelectedColumns
import FrameCheck.Proofs.ServingOperations

/-!
Selecting, adding columns and aggregating are monotone: on a frame that serves for another one they
come to frames that serve for what they come to on the other one. Further columns of the frame do
not show in what is selected or aggregated, so that there the names are the same, in the same
order. Only lists are an exception, since a list of values without nulls does not serve for a list
of values with them.
-/

namespace FrameCheck.Typing

/-! ## Aggregating -/

theorem gathersAlike_of_no_lists (frame other : Frame) {items : List AggregationColumn}
    (noLists : ∀ item ∈ items, item.aggregation ≠ .list) :
    gathersAlike frame other items = true := by
  refine List.all_eq_true.mpr fun item isItem => ?_
  simp [noLists item isItem]

theorem names_aggregate_eq {frame other result otherResult : Frame} {keys : List Literal}
    {items : List AggregationColumn} (succeeded : aggregate frame keys items = .ok result)
    (otherSucceeded : aggregate other keys items = .ok otherResult) :
    result.names = otherResult.names := by
  rw [names_of_aggregate succeeded, names_of_aggregate otherSucceeded]

/-! ## Selecting -/

theorem EntriesServe.map_name {left right : List (Literal × ColumnType)}
    (entries : EntriesServe left right) : left.map (·.1) = right.map (·.1) := by
  induction entries with
  | nil => rfl
  | cons types _ inRest => rw [List.map_cons, List.map_cons, types.1, inRest]

theorem EntriesServe.names_ofList {left right : List (Literal × ColumnType)}
    (entries : EntriesServe left right) :
    (Frame.ofList left).names = (Frame.ofList right).names := by
  show (Table.ofList left).keys = (Table.ofList right).keys
  rw [Table.keys_ofList, Table.keys_ofList, entries.map_name]

end FrameCheck.Typing

namespace FrameCheck.Analysis

open Syntax Typing

section Calls

variable {actual expected : Frame} {arguments : List Expr} {walk after : Walk}

theorem missing_eq_nil
    (reported : Walker.report (missingProblems expected arguments) walk = .ok ⟨⟩ after)
    (silent : after.problems = walk.problems) : (outputColumns expected arguments).2 = [] := by
  rcases report_eq_ok_iff.mp reported with ⟨_, rfl⟩
  simpa [missingProblems] using silent

theorem outputColumns_serve_of_silent (serving : frameServes actual expected = true)
    (reported : Walker.report (missingProblems expected arguments) walk = .ok ⟨⟩ after)
    (silent : after.problems = walk.problems) (start : Walk) :
    EntriesServe (outputColumns actual arguments).1 (outputColumns expected arguments).1 ∧
      Walker.report (missingProblems actual arguments) start = .ok ⟨⟩ start := by
  have noneMissing := missing_eq_nil reported silent
  have inVain : (outputColumns expected arguments).2.length ≤
      (outputColumns actual arguments).2.length := by
    simp [noneMissing]
  rcases outputColumns_serve serving inVain with ⟨entries, missing⟩
  rw [noneMissing, List.forall₂_nil_right_iff] at missing
  refine ⟨entries, report_eq_ok_iff.mpr ?_⟩
  simp [missingProblems, missing]

theorem selectCall_serves (serving : frameServes actual expected = true) {result : Frame}
    (selected : selectCall expected arguments walk = .ok (some result) after)
    (silent : after.problems = walk.problems) (start : Walk) :
    ∃ other, selectCall actual arguments start = .ok (some other) start ∧
      other.names = result.names ∧ frameServes other result = true := by
  rcases selectCall_eq_ok_iff.mp selected with ⟨reported, isResult⟩
  rcases outputColumns_serve_of_silent serving reported silent start with ⟨entries, nothing⟩
  unfold selectedFrame? at isResult
  split at isResult
  · cases isResult
  next notEmpty =>
    cases isResult
    have otherNotEmpty : ¬ (outputColumns actual arguments).1.isEmpty = true := by
      intro isEmpty
      have lengths := entries.length_eq
      simp_all
    refine ⟨.ofList (outputColumns actual arguments).1,
      selectCall_eq_ok_iff.mpr ⟨nothing, (if_neg otherNotEmpty).symm⟩, entries.names_ofList, ?_⟩
    exact frameServes_insertAll entries (frameServes_refl _)

theorem withColumnsCall_serves (serving : frameServes actual expected = true) {result : Frame}
    (added : withColumnsCall expected arguments walk = .ok (some result) after)
    (silent : after.problems = walk.problems) (start : Walk) :
    ∃ other, withColumnsCall actual arguments start = .ok (some other) start ∧
      frameServes other result = true := by
  rcases withColumnsCall_eq_ok_iff.mp added with ⟨reported, isResult⟩
  rcases outputColumns_serve_of_silent serving reported silent start with ⟨entries, nothing⟩
  cases isResult
  exact ⟨_, withColumnsCall_eq_ok_iff.mpr ⟨nothing, rfl⟩, frameServes_insertAll entries serving⟩

end Calls

/-- Operations on a frame that serves for another one succeed where they succeed on the other one,
without problems where it has none, and come to frames that serve. What is selected or aggregated
has the same names in the same order. -/
theorem operations_monotone {actual expected : Frame}
    (serving : frameServes actual expected = true) :
    (∀ arguments walk after result, selectCall expected arguments walk = .ok (some result) after →
      after.problems = walk.problems →
      ∀ start, ∃ other, selectCall actual arguments start = .ok (some other) start ∧
        other.names = result.names ∧ frameServes other result = true) ∧
    (∀ arguments walk after result,
      withColumnsCall expected arguments walk = .ok (some result) after →
      after.problems = walk.problems →
      ∀ start, ∃ other, withColumnsCall actual arguments start = .ok (some other) start ∧
        frameServes other result = true) ∧
    ∀ keys items result, (∀ item ∈ items, item.aggregation ≠ .list) →
      aggregate expected keys items = .ok result →
      ∃ other, aggregate actual keys items = .ok other ∧ other.names = result.names ∧
        frameServes other result = true := by
  refine ⟨fun _ _ _ _ => selectCall_serves serving, fun _ _ _ _ => withColumnsCall_serves serving,
    fun keys items result noLists succeeded => ?_⟩
  rcases aggregate_serves serving keys (gathersAlike_of_no_lists actual expected noLists) result
    succeeded with ⟨other, otherSucceeded, serves⟩
  exact ⟨other, otherSucceeded, names_aggregate_eq otherSucceeded succeeded, serves⟩

def visits : Frame :=
  .ofList [(.text "day", .nullable .int64), (.text "time", .nullable .float32)]

def loggedVisits : Frame :=
  .ofList [(.text "page", .utf8), (.text "time", .float32), (.text "day", .nullable .int64)]

def visitColumns : List Expr :=
  [.call (.attribute (.binary (.call (.attribute (.name "pl") "col") [.literal (.text "time")] [])
      .multiply (.literal (.int 2))) "alias") [.literal (.text "double")] [],
   relabel "day" "page"]

theorem loggedVisits_monotone :
    frameServes loggedVisits visits = true ∧
    (∃ result other, selectCall visits visitColumns {} = .ok (some result) {} ∧
      selectCall loggedVisits visitColumns {} = .ok (some other) {} ∧
      other.names = result.names ∧ frameServes other result = true ∧
      other.column? (.text "double") = some .float32) ∧
    (∃ result other, withColumnsCall visits visitColumns {} = .ok (some result) {} ∧
      withColumnsCall loggedVisits visitColumns {} = .ok (some other) {} ∧
      frameServes other result = true) ∧
    ∃ result other,
      aggregate visits [.text "day"] [{ column := .text "time", aggregation := .mean }] =
        .ok result ∧
      aggregate loggedVisits [.text "day"] [{ column := .text "time", aggregation := .mean }] =
        .ok other ∧
      other.names = result.names ∧ frameServes other result = true := by
  have serving : frameServes loggedVisits visits = true := by decide +kernel
  rcases operations_monotone serving with ⟨select, withColumns, aggregates⟩
  refine ⟨serving, ?_, ?_, ?_⟩
  · rcases select visitColumns {} {} _ rfl rfl {} with ⟨other, isOther, names, serves⟩
    refine ⟨_, other, rfl, isOther, names, serves, ?_⟩
    cases isOther
    rfl
  · rcases withColumns visitColumns {} {} _ rfl rfl {} with ⟨other, isOther, serves⟩
    exact ⟨_, other, rfl, isOther, serves⟩
  · rcases aggregates [.text "day"] [{ column := .text "time", aggregation := .mean }] _
      (by simp) rfl with ⟨other, isOther, names, serves⟩
    exact ⟨_, other, rfl, isOther, names, serves⟩

end FrameCheck.Analysis
