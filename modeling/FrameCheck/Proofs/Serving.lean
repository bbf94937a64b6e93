import FrameCheck.Proofs.FrameOperations
import FrameCheck.Report.Verdict

/-!
Which types and frames serve for others. Serving is an order, up to the order of struct fields,
and the comparison that a verdict makes is the same one. So whatever is checked against the
declared return of a function that passes is right for the return that was inferred.
-/

namespace FrameCheck

/-- A comparison that is an order, where values that are the same count as equal. -/
structure OrderUpTo (same related : α → α → Bool) : Prop where
  refl : ∀ value, related value value = true
  trans : ∀ first second third, related first second = true → related second third = true →
    related first third = true
  antisymm : ∀ first second, related first second = true → related second first = true →
    same first second = true
  respects : ∀ first otherFirst second otherSecond, same first otherFirst = true →
    same second otherSecond = true → related first second = related otherFirst otherSecond

namespace Typing

/-! ## Types -/

theorem serves_iff {actual expected : ColumnType} :
    serves actual expected = true ↔
      actual.Alike expected ∨
        ∃ inner, expected = .nullable inner ∧ actual.isNullable = false ∧ actual.Alike inner := by
  unfold serves
  split
  next same => exact iff_of_true rfl (.inl (ColumnType.same_iff.mp same))
  next different =>
    have notAlike : ¬ actual.Alike expected := fun alike =>
      different (ColumnType.same_iff.mpr alike)
    rw [or_iff_right notAlike]
    cases expected with
    | nullable inner =>
      rw [Bool.and_eq_true, Bool.not_eq_true', ColumnType.same_iff]
      constructor
      · exact fun serving => ⟨inner, rfl, serving⟩
      · rintro ⟨_, ⟨⟩, serving⟩
        exact serving
    | _ => simp

theorem serves_of_alike {actual expected : ColumnType} (alike : actual.Alike expected) :
    serves actual expected = true :=
  serves_iff.mpr (.inl alike)

theorem alike_of_serves_of_isNullable {actual expected : ColumnType}
    (serving : serves actual expected = true) (isNullable : actual.isNullable = true) :
    actual.Alike expected := by
  rcases serves_iff.mp serving with alike | ⟨_, _, notNullable, _⟩
  · exact alike
  · simp [isNullable] at notNullable

theorem serves_alike_right (actual : ColumnType) {expected other : ColumnType}
    (alike : expected.Alike other) : serves actual expected = serves actual other := by
  have forward : ∀ {expected other : ColumnType}, expected.Alike other →
      serves actual expected = true → serves actual other = true := by
    intro expected other alike serving
    rcases serves_iff.mp serving with same | ⟨inner, rfl, notNullable, same⟩
    · exact serves_of_alike (same.trans alike)
    · -- only a nullable type is alike to a nullable one
      have isNullable := alike.isNullable
      cases other with
      | nullable otherInner =>
        exact serves_iff.mpr (.inr ⟨otherInner, rfl, notNullable, same.trans alike.base⟩)
      | _ => cases isNullable
  rw [Bool.eq_iff_iff]
  exact ⟨forward alike, forward alike.symm⟩

theorem serves_trans {first second third : ColumnType} (firstServes : serves first second = true)
    (secondServes : serves second third = true) : serves first third = true := by
  rcases serves_iff.mp firstServes with same | ⟨inner, rfl, _, _⟩
  · rwa [serves_alike same]
  · rwa [← serves_alike_right first (alike_of_serves_of_isNullable secondServes rfl)]

theorem alike_of_serves {first second : ColumnType} (forward : serves first second = true)
    (backward : serves second first = true) : first.Alike second := by
  cases isNullable : first.isNullable with
  | true => exact alike_of_serves_of_isNullable forward isNullable
  | false =>
    rcases serves_iff.mp backward with same | ⟨inner, rfl, _, _⟩
    · exact same.symm
    · cases isNullable

theorem serves_order : OrderUpTo ColumnType.same serves where
  refl type := serves_of_alike (.refl type)
  trans _ _ _ := serves_trans
  antisymm _ _ forward backward := ColumnType.same_iff.mpr (alike_of_serves forward backward)
  respects first otherFirst second otherSecond firsts seconds := by
    rw [serves_alike (ColumnType.same_iff.mp firsts),
      serves_alike_right otherFirst (ColumnType.same_iff.mp seconds)]

/-! ## Frames -/

theorem frameServes_iff {actual expected : Frame} :
    frameServes actual expected = true ↔
      ∀ label type, expected.column? label = some type →
        ∃ other, actual.column? label = some other ∧ serves other type = true := by
  rw [frameServes, List.all_eq_true]
  constructor
  · intro serving label type found
    obtain ⟨entry, member, same, rfl⟩ := Table.exists_of_get? found
    have entryServed := serving entry member
    rw [Frame.column?, Table.get?_congr same] at entryServed
    cases other : actual.columns.get? label with
    | none => simp [other] at entryServed
    | some otherType => exact ⟨otherType, other, by simpa [other] using entryServed⟩
  · intro serving entry member
    obtain ⟨other, found, entryServed⟩ := serving entry.1 entry.2 (Table.get?_of_mem member)
    simp [found, entryServed]

theorem frameServes_refl (frame : Frame) : frameServes frame frame = true :=
  frameServes_iff.mpr fun _ type found => ⟨type, found, serves_order.refl type⟩

theorem frameServes_trans {first second third : Frame} (firstServes : frameServes first second = true)
    (secondServes : frameServes second third = true) : frameServes first third = true := by
  rw [frameServes_iff] at firstServes secondServes ⊢
  intro label type found
  obtain ⟨middle, foundMiddle, middleServes⟩ := secondServes label type found
  obtain ⟨other, foundOther, otherServes⟩ := firstServes label middle foundMiddle
  exact ⟨other, foundOther, serves_trans otherServes middleServes⟩

end Typing

namespace Report

open Analysis Typing

/-! ## Verdicts -/

/-- The comparison that a verdict makes is the one of arguments with parameters. -/
theorem fits_eq_serves (inferred declared : ColumnType) :
    fits inferred declared = serves inferred declared := by
  rw [Bool.eq_iff_iff, serves_iff]
  unfold fits
  rw [Bool.or_eq_true, Bool.and_eq_true, Bool.and_eq_true, Bool.not_eq_true', ColumnType.same_iff,
    ColumnType.same_iff]
  refine or_congr_right ?_
  constructor
  · rintro ⟨⟨isNullable, notNullable⟩, same⟩
    cases declared with
    | nullable inner =>
      cases inferred with
      | nullable _ => cases notNullable
      | _ => exact ⟨inner, rfl, rfl, same⟩
    | _ => cases isNullable
  · rintro ⟨inner, rfl, notNullable, same⟩
    cases inferred with
    | nullable _ => cases notNullable
    | _ => exact ⟨⟨rfl, rfl⟩, same⟩

theorem missingColumns_eq_nil_iff {declared inferred : Frame} :
    missingColumns declared inferred = [] ↔
      ∀ column ∈ declared.columns.entries, inferred.hasColumn column.1 = true := by
  simp [missingColumns, List.filterMap_eq_nil_iff]

theorem extraColumns_eq_nil_iff {declared inferred : Frame} :
    extraColumns declared inferred = [] ↔
      ∀ column ∈ inferred.columns.entries, declared.hasColumn column.1 = true := by
  simp [extraColumns, List.filterMap_eq_nil_iff]

theorem typeDifferences_eq_nil_iff {declared inferred : Frame} :
    typeDifferences declared inferred = [] ↔
      ∀ column ∈ declared.columns.entries, ∀ type ∈ inferred.column? column.1,
        fits type column.2 = true := by
  simp only [typeDifferences, List.filterMap_eq_nil_iff]
  refine forall₂_congr fun column _ => ?_
  cases inferred.column? column.1 <;> simp

theorem verdict_passed_iff {summary : Summary} :
    (verdict summary).passed = true ↔
      summary.problems = [] ∧ returnFindings summary.declared summary.inferred = [] := by
  simp [verdict]

theorem frameServes_of_returnFindings {declared inferred : Frame}
    (agrees : returnFindings (some declared) (some inferred) = []) :
    frameServes inferred declared = true := by
  simp only [returnFindings, List.append_eq_nil_iff] at agrees
  obtain ⟨⟨missing, _⟩, types⟩ := agrees
  rw [missingColumns_eq_nil_iff] at missing
  rw [typeDifferences_eq_nil_iff] at types
  rw [frameServes, List.all_eq_true]
  intro column member
  have isThere := missing column member
  rw [Frame.hasColumn, Table.contains_eq] at isThere
  obtain ⟨type, found⟩ := Option.isSome_iff_exists.mp isThere
  have fitting := types column member type found
  rw [fits_eq_serves] at fitting
  simp [Frame.column?, found, fitting]

theorem exists_inferred_of_passed {summary : Summary} {declared : Frame}
    (passed : (verdict summary).passed = true) (isDeclared : summary.declared = some declared) :
    ∃ inferred, summary.inferred = some inferred ∧ frameServes inferred declared = true := by
  obtain ⟨_, agrees⟩ := verdict_passed_iff.mp passed
  rw [isDeclared] at agrees
  cases isInferred : summary.inferred with
  | none => simp [isInferred, returnFindings] at agrees
  | some inferred =>
    rw [isInferred] at agrees
    exact ⟨inferred, rfl, frameServes_of_returnFindings agrees⟩

/-- Functions can be checked one at a time: the two comparisons of types are one, which is an
order, frames are ordered by it, and a frame that was compared with the declared return of a
function that passes serves for what its body returns. -/
theorem checks_compose :
    (∀ actual expected, serves actual expected = fits actual expected) ∧
    OrderUpTo ColumnType.same serves ∧
    (∀ frame, frameServes frame frame = true) ∧
    (∀ first second third, frameServes first second = true → frameServes second third = true →
      frameServes first third = true) ∧
    ∀ summary declared, (verdict summary).passed = true → summary.declared = some declared →
      ∃ inferred, summary.inferred = some inferred ∧
        ∀ parameter, frameServes declared parameter = true →
          frameServes inferred parameter = true := by
  refine ⟨fun actual expected => (fits_eq_serves actual expected).symm, serves_order,
    frameServes_refl, fun _ _ _ => frameServes_trans, fun summary declared passed isDeclared => ?_⟩
  obtain ⟨inferred, isInferred, serving⟩ := exists_inferred_of_passed passed isDeclared
  exact ⟨inferred, isInferred, fun _ => frameServes_trans serving⟩

def passingSummary : Summary where
  name := "f"
  line := 1
  declared := some (.ofList [(.text "a", .nullable .int64),
    (.text "b", .struct (.ofList [("x", .utf8), ("y", .nullable .int64)]))])
  inferred := some (.ofList [
    (.text "b", .struct (.ofList [("y", .nullable .int64), ("x", .utf8)])),
    (.text "a", .int64)])

theorem passingSummary_composes :
    (verdict passingSummary).passed = true ∧
    ∃ declared inferred, passingSummary.declared = some declared ∧
      passingSummary.inferred = some inferred ∧
      frameServes declared (.ofList [(.text "a", .nullable .int64)]) = true ∧
      frameServes inferred (.ofList [(.text "a", .nullable .int64)]) = true := by
  have passed : (verdict passingSummary).passed = true := by decide +kernel
  obtain ⟨_, _, _, _, composes⟩ := checks_compose
  obtain ⟨inferred, isInferred, serving⟩ := composes passingSummary _ passed rfl
  have declaredServes : frameServes passingSummary.declared.get!
      (.ofList [(.text "a", .nullable .int64)]) = true := by decide +kernel
  exact ⟨passed, _, inferred, rfl, isInferred, declaredServes, serving _ declaredServes⟩

end Report

end FrameCheck
