import FrameCheck.Proofs.Returns

/-!
What verdicts say, exactly. Behind the problems of the analysis stands one finding for each name
on which the declared and the inferred frame disagree, and no other finding. So a function passes
exactly when there is nothing to find, and the order of columns makes no difference to that.
-/

namespace FrameCheck

theorem forall₂_filterMap {about : κ → α → Prop} (keeps : κ → Bool) {find? : κ × ν → Option α}
    {entries : List (κ × ν)}
    (found : ∀ entry ∈ entries, ∀ value, find? entry = some value →
      keeps entry.1 = true ∧ about entry.1 value)
    (passed : ∀ entry ∈ entries, find? entry = none → keeps entry.1 = false) :
    List.Forall₂ about ((entries.map (·.1)).filter keeps) (entries.filterMap find?) := by
  induction entries with
  | nil => exact .nil
  | cons entry rest inRest =>
    have others := inRest (fun other member => found other (List.mem_cons_of_mem _ member))
      (fun other member => passed other (List.mem_cons_of_mem _ member))
    rw [List.map_cons]
    cases result : find? entry with
    | none =>
      rw [List.filterMap_cons_none result,
        List.filter_cons_of_neg (by simp [passed entry List.mem_cons_self result])]
      exact others
    | some value =>
      obtain ⟨kept, isAbout⟩ := found entry List.mem_cons_self value result
      rw [List.filterMap_cons_some result, List.filter_cons_of_pos kept]
      exact .cons isAbout others

namespace Table

variable {κ : Type u} {ν : Type v} [BEq κ] [EquivBEq κ]

theorem countP_keys (table : Table κ ν) {keeps : κ → Bool}
    (respects : ∀ left right, (left == right) = true → keeps left = keeps right) (key : κ) :
    (table.keys.filter keeps).countP (· == key) = (table.contains key && keeps key).toNat := by
  obtain ⟨entries, distinct⟩ := table
  simp only [keys, contains]
  induction entries with
  | nil => rfl
  | cons entry rest inRest =>
    rw [List.pairwise_cons] at distinct
    have inRest := inRest distinct.2
    rw [List.map_cons, List.filter_cons, List.any_cons]
    cases isKey : entry.1 == key with
    | false =>
      rw [Bool.false_or, ← inRest]
      split
      · rw [List.countP_cons_of_neg (by simp [isKey])]
      · rfl
    | true =>
      -- no other entry has the key
      have absent : (rest.any fun other => other.1 == key) = false := by
        rw [List.any_eq_false]
        intro other member
        rw [← BEq.congr_right isKey, BEq.comm, distinct.1 other member]
        decide
      rw [absent] at inRest
      rw [Bool.true_or, Bool.true_and, ← respects _ _ isKey]
      cases keeps entry.1 with
      | false => simpa using inRest
      | true => simpa [isKey] using inRest

theorem get?_of_perm {left right : Table κ ν} (permuted : left.entries.Perm right.entries)
    (key : κ) : left.get? key = right.get? key := by
  have found : ∀ {left right : Table κ ν}, left.entries.Perm right.entries → ∀ {value},
      left.get? key = some value → right.get? key = some value := by
    intro left right permuted value isFound
    obtain ⟨entry, member, same, rfl⟩ := exists_of_get? isFound
    rw [← get?_congr same]
    exact get?_of_mem (permuted.mem_iff.mp member)
  cases inLeft : left.get? key with
  | some value => exact (found permuted inLeft).symm
  | none =>
    cases inRight : right.get? key with
    | none => rfl
    | some value => rw [← inLeft, found permuted.symm inRight]

end Table

/-! ## Names and the findings about them -/

def Frame.Reordered (left right : Frame) : Prop :=
  left.columns.entries.Perm right.columns.entries

namespace Report

open Analysis

def Finding.column? : Finding → Option Literal
  | .missingColumn column _ => some column
  | .extraColumn column _ => some column
  | .typeDifference column _ _ => some column
  | .problem _ => none
  | .inferenceFailure _ => none

def Finding.blames (name : Literal) (finding : Finding) : Bool :=
  finding.column?.any (· == name)

/-- Whether a column of both frames has an inferred type that does not fit the declared one. -/
def misfits (declared inferred : Frame) (name : Literal) : Bool :=
  match declared.column? name, inferred.column? name with
  | some type, some other => !fits other type
  | _, _ => false

def ReportsColumn (note : Literal → ColumnType → Finding) (frame : Frame) (name : Literal)
    (finding : Finding) : Prop :=
  ∃ type, frame.column? name = some type ∧ finding = note name type

def ReportsDifference (declared inferred : Frame) (name : Literal) (finding : Finding) : Prop :=
  ∃ type other, declared.column? name = some type ∧ inferred.column? name = some other ∧
    finding = .typeDifference name type other

/-- What stands in a verdict behind the problems of the analysis: nothing where no return is
declared, one failure where none is inferred, or else one finding for each name that is declared
only, then for each that is inferred only, and then for each of both whose types do not fit. -/
inductive Compares : (declared inferred : Option Frame) → List Finding → Prop
  | undeclared (inferred : Option Frame) : Compares none inferred []
  | uninferred (declared : Frame) :
      Compares (some declared) none [.inferenceFailure "Could not infer return type"]
  | frames {declared inferred : Frame} {missing extra different : List Finding}
      (missingEach : List.Forall₂ (ReportsColumn .missingColumn declared)
        (declared.names.filter fun name => !inferred.hasColumn name) missing)
      (extraEach : List.Forall₂ (ReportsColumn .extraColumn inferred)
        (inferred.names.filter fun name => !declared.hasColumn name) extra)
      (differentEach : List.Forall₂ (ReportsDifference declared inferred)
        (declared.names.filter (misfits declared inferred)) different) :
      Compares (some declared) (some inferred) (missing ++ extra ++ different)

theorem lackingColumns_each (note : Literal → ColumnType → Finding) (frame other : Frame) :
    List.Forall₂ (ReportsColumn note frame)
      (frame.names.filter fun name => !other.hasColumn name)
      (frame.columns.entries.filterMap fun column =>
        if other.hasColumn column.1 then none else some (note column.1 column.2)) := by
  apply forall₂_filterMap
  · intro column member finding found
    split at found
    · cases found
    next absent =>
      cases found
      exact ⟨by simpa using absent, column.2, Table.get?_of_mem member, rfl⟩
  · intro column _ passed
    split at passed
    next present => simp [present]
    next => cases passed

theorem typeDifferences_each (declared inferred : Frame) :
    List.Forall₂ (ReportsDifference declared inferred)
      (declared.names.filter (misfits declared inferred))
      (typeDifferences declared inferred) := by
  apply forall₂_filterMap
  · intro column member finding found
    have isDeclared : declared.column? column.1 = some column.2 := Table.get?_of_mem member
    split at found
    next type isInferred =>
      split at found
      · cases found
      next unfit =>
        cases found
        exact ⟨by simp [misfits, isDeclared, isInferred, unfit], column.2, type, isDeclared,
          isInferred, rfl⟩
    next => cases found
  · intro column member passed
    have isDeclared : declared.column? column.1 = some column.2 := Table.get?_of_mem member
    split at passed
    next type isInferred =>
      split at passed
      next fitting => simp [misfits, isDeclared, isInferred, fitting]
      next => cases passed
    next isInferred => simp [misfits, isInferred]

theorem returnFindings_compares (declared inferred : Option Frame) :
    Compares declared inferred (returnFindings declared inferred) := by
  cases declared with
  | none => exact .undeclared inferred
  | some declared =>
    cases inferred with
    | none => exact .uninferred declared
    | some inferred =>
      exact .frames (lackingColumns_each .missingColumn declared inferred)
        (lackingColumns_each .extraColumn inferred declared)
        (typeDifferences_each declared inferred)

/-! ## How often a name is blamed -/

theorem countP_blames {about : Literal → Finding → Prop}
    (column : ∀ name finding, about name finding → finding.column? = some name)
    {names : List Literal} {findings : List Finding} (each : List.Forall₂ about names findings)
    (name : Literal) : findings.countP (Finding.blames name) = names.countP (· == name) := by
  induction each with
  | nil => rfl
  | @cons first finding _ _ isAbout _ inRest =>
    have blamed : finding.blames name = (first == name) := by
      simp [Finding.blames, column first finding isAbout]
    rw [List.countP_cons, List.countP_cons, inRest, blamed]

theorem misfits_congr {declared inferred : Frame} {left right : Literal}
    (same : (left == right) = true) :
    misfits declared inferred left = misfits declared inferred right := by
  unfold misfits Frame.column?
  rw [Table.get?_congr same, Table.get?_congr same]

theorem hasColumn_of_misfits {declared inferred : Frame} {name : Literal}
    (unfit : misfits declared inferred name = true) :
    declared.hasColumn name = true ∧ inferred.hasColumn name = true := by
  unfold misfits at unfit
  split at unfit
  next isDeclared isInferred =>
    unfold Frame.column? at isDeclared isInferred
    simp [Frame.hasColumn, Table.contains_eq, isDeclared, isInferred]
  next => cases unfit

/-- A name is blamed once if it is a column of one frame only or if its types do not fit, and not
at all otherwise. -/
theorem Compares.countP_eq {declared inferred : Frame} {findings : List Finding}
    (compares : Compares (some declared) (some inferred) findings) (name : Literal) :
    findings.countP (Finding.blames name) =
      (declared.hasColumn name != inferred.hasColumn name ||
        misfits declared inferred name).toNat := by
  cases compares with
  | frames missingEach extraEach differentEach =>
    have missing := countP_blames (fun _ _ ⟨_, _, isFinding⟩ => by rw [isFinding]; rfl)
      missingEach name
    have extra := countP_blames (fun _ _ ⟨_, _, isFinding⟩ => by rw [isFinding]; rfl)
      extraEach name
    have different := countP_blames (fun _ _ ⟨_, _, _, _, isFinding⟩ => by rw [isFinding]; rfl)
      differentEach name
    rw [Frame.names, Table.countP_keys _ fun _ _ same => by rw [Frame.hasColumn_congr same]]
      at missing extra
    rw [Frame.names, Table.countP_keys _ fun _ _ => misfits_congr] at different
    rw [List.countP_append, List.countP_append, missing, extra, different]
    -- the three kinds of findings exclude each other
    have both : misfits declared inferred name = true → _ := hasColumn_of_misfits
    unfold Frame.hasColumn at both ⊢
    revert both
    cases declared.columns.contains name <;> cases inferred.columns.contains name <;>
      cases misfits declared inferred name <;> simp

theorem Compares.countP_le_one {declared inferred : Option Frame} {findings : List Finding}
    (compares : Compares declared inferred findings) (name : Literal) :
    findings.countP (Finding.blames name) ≤ 1 := by
  cases compares with
  | undeclared => simp
  | uninferred => exact List.countP_le_length
  | frames missingEach extraEach differentEach =>
    rw [(Compares.frames missingEach extraEach differentEach).countP_eq name]
    exact Bool.toNat_le _

/-! ## The order of columns -/

section Reordered

variable {left right other : Frame}

theorem column?_of_reordered (reordered : left.Reordered right) :
    left.column? = right.column? := by
  funext name
  exact Table.get?_of_perm reordered name

theorem hasColumn_of_reordered (reordered : left.Reordered right) :
    left.hasColumn = right.hasColumn := by
  funext name
  rw [Frame.hasColumn, Frame.hasColumn, Table.contains_eq, Table.contains_eq,
    Table.get?_of_perm reordered]

theorem returnFindings_perm_of_declared (reordered : left.Reordered right) :
    (returnFindings (some left) (some other)).Perm (returnFindings (some right) (some other)) := by
  refine (List.Perm.append ?_ ?_).append ?_
  · exact List.Perm.filterMap _ reordered
  · rw [extraColumns, extraColumns, hasColumn_of_reordered reordered]
  · exact List.Perm.filterMap _ reordered

theorem returnFindings_perm_of_inferred (reordered : left.Reordered right) :
    (returnFindings (some other) (some left)).Perm (returnFindings (some other) (some right)) := by
  refine (List.Perm.append ?_ ?_).append ?_
  · rw [missingColumns, missingColumns, hasColumn_of_reordered reordered]
  · exact List.Perm.filterMap _ reordered
  · rw [typeDifferences, typeDifferences, column?_of_reordered reordered]

theorem returnFindings_perm {declared otherDeclared inferred otherInferred : Option Frame}
    (declaredReordered : Option.Rel Frame.Reordered declared otherDeclared)
    (inferredReordered : Option.Rel Frame.Reordered inferred otherInferred) :
    (returnFindings declared inferred).Perm (returnFindings otherDeclared otherInferred) := by
  cases declaredReordered with
  | none => exact .refl []
  | some declaredReordered =>
    cases inferredReordered with
    | none => exact .refl _
    | some inferredReordered =>
      exact (returnFindings_perm_of_declared declaredReordered).trans
        (returnFindings_perm_of_inferred inferredReordered)

end Reordered

/-! ## Verdicts -/

theorem returnFindings_eq_nil_iff_fits {declared inferred : Option Frame} :
    returnFindings declared inferred = [] ↔
      ∀ frame ∈ declared, ∃ other ∈ inferred, other.Fits frame := by
  cases declared with
  | none => simp [returnFindings]
  | some declared =>
    cases inferred with
    | none => simp [returnFindings]
    | some inferred => simp [returnFindings_eq_nil_iff]

theorem blames_problem (name : Literal) (problems : List Problem) :
    (problems.map Finding.problem).countP (Finding.blames name) = 0 := by
  simp [List.countP_map, Function.comp_def, Finding.blames, Finding.column?]

/-- A function passes exactly when its analysis found no problem and the frame it returns fits the
declared one, if one is declared. Its verdict lists the problems and then what the names of the
two frames give; no name is blamed twice. The order of the columns makes no difference to whether
it passes, nor to what is found. -/
theorem verdict_is_exact (summary : Summary) :
    ((verdict summary).passed = true ↔
      summary.problems = [] ∧
        ∀ declared ∈ summary.declared, ∃ inferred ∈ summary.inferred, inferred.Fits declared) ∧
    (∃ compared, (verdict summary).findings = summary.problems.map .problem ++ compared ∧
      Compares summary.declared summary.inferred compared) ∧
    (∀ name, (verdict summary).findings.countP (Finding.blames name) ≤ 1) ∧
    ∀ other : Summary, other.problems = summary.problems →
      Option.Rel Frame.Reordered summary.declared other.declared →
      Option.Rel Frame.Reordered summary.inferred other.inferred →
      (verdict summary).passed = (verdict other).passed ∧
        (verdict summary).findings.Perm (verdict other).findings := by
  have compares := returnFindings_compares summary.declared summary.inferred
  refine ⟨?_, ⟨_, rfl, compares⟩, fun name => ?_, fun other problems declared inferred => ?_⟩
  · rw [verdict_passed_iff, returnFindings_eq_nil_iff_fits]
  · show (summary.problems.map Finding.problem ++ _).countP _ ≤ 1
    rw [List.countP_append, blames_problem, Nat.zero_add]
    exact compares.countP_le_one name
  · have permuted : (verdict summary).findings.Perm (verdict other).findings := by
      show (summary.problems.map Finding.problem ++ _).Perm (other.problems.map .problem ++ _)
      rw [problems]
      exact .append_left _ (returnFindings_perm declared inferred)
    exact ⟨permuted.isEmpty_eq, permuted⟩

def pairOfColumns (first second : Literal × ColumnType)
    (differ : (first.1 == second.1) = false) : Frame where
  columns := ⟨[first, second], by simp [differ]⟩

def disagreeing : Summary where
  name := "f"
  line := 1
  declared := some (pairOfColumns (.text "a", .int64) (.text "b", .utf8) (by decide))
  inferred := some (pairOfColumns (.text "c", .int64) (.text "a", .nullable .int64) (by decide))

def disagreeingReordered : Summary where
  name := "f"
  line := 1
  declared := some (pairOfColumns (.text "b", .utf8) (.text "a", .int64) (by decide))
  inferred := some (pairOfColumns (.text "a", .nullable .int64) (.text "c", .int64) (by decide))

theorem disagreeing_exact :
    (Option.Rel Frame.Reordered disagreeing.declared disagreeingReordered.declared ∧
      Option.Rel Frame.Reordered disagreeing.inferred disagreeingReordered.inferred) ∧
    (verdict disagreeing).findings.length = 3 ∧
    (verdict disagreeing).findings.countP (Finding.blames (.text "a")) ≤ 1 ∧
    (verdict disagreeingReordered).passed = false ∧
    (verdict disagreeing).findings.Perm (verdict disagreeingReordered).findings := by
  have declared : Option.Rel Frame.Reordered disagreeing.declared disagreeingReordered.declared :=
    .some (.swap _ _ _)
  have inferred : Option.Rel Frame.Reordered disagreeing.inferred disagreeingReordered.inferred :=
    .some (.swap _ _ _)
  obtain ⟨_, _, once, reordered⟩ := verdict_is_exact disagreeing
  obtain ⟨samePassed, permuted⟩ := reordered disagreeingReordered rfl declared inferred
  refine ⟨⟨declared, inferred⟩, by decide +kernel, once _, ?_, permuted⟩
  rw [← samePassed]
  decide +kernel

end Report

end FrameCheck
