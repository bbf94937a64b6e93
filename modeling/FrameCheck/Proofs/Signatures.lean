import FrameCheck.Proofs.CallGraph
import FrameCheck.Proofs.Expressions

/-!
A function with a signature is known to its callers by that alone. Two registries that differ
only in what such functions are defined as lead to the same walks: the same frames, problems and
remembered results, whatever the statements are and wherever the walk starts.
-/

namespace FrameCheck

theorem Table.keys_nodup [BEq κ] [LawfulBEq κ] (table : Table κ ν) : table.keys.Nodup := by
  refine List.pairwise_map.mpr (table.distinct.imp fun different same => ?_)
  simp [same] at different

theorem Table.mem_keys_iff [BEq κ] [LawfulBEq κ] {table : Table κ ν} {key : κ} :
    key ∈ table.keys ↔ (table.get? key).isSome = true := by
  rw [← contains_eq]
  simp [contains, keys]

theorem Table.size_eq_of_answers [BEq κ] [LawfulBEq κ] {left : Table κ ν} {right : Table κ ω}
    (answers : ∀ key, (left.get? key).isSome = (right.get? key).isSome) :
    left.size = right.size := by
  have permuted : left.keys.Perm right.keys :=
    (List.perm_ext_iff_of_nodup left.keys_nodup right.keys_nodup).mpr fun key => by
      rw [mem_keys_iff, mem_keys_iff, answers key]
  simpa [keys, size] using permuted.length_eq

namespace Analysis

open Syntax

/-! ## Registries -/

/-- Two functions that callers cannot tell apart: they have the same signature, or none and the
same definition. -/
structure FunctionInfo.SameToCallers (first second : FunctionInfo) : Prop where
  signature : first.signature = second.signature
  definition : first.signature = none → first.definition = second.definition

/-- Registries with the same names, under each of which stand functions that callers cannot tell
apart. -/
def Registry.SameToCallers (first second : Registry) : Prop :=
  Table.Agrees FunctionInfo.SameToCallers first second

theorem Registry.SameToCallers.isSome_eq {first second : Registry}
    (same : first.SameToCallers second) (name : Text) :
    (first.get? name).isSome = (second.get? name).isSome := by
  have functions := same name
  generalize first.get? name = one at functions
  generalize second.get? name = other at functions
  cases functions <;> rfl

theorem FunctionInfo.SameToCallers.eq_of_untyped {first second : FunctionInfo}
    (same : first.SameToCallers second) (untyped : first.signature = none) : first = second := by
  obtain ⟨definition, signature⟩ := first
  obtain ⟨otherDefinition, otherSignature⟩ := second
  obtain ⟨rfl, definitions⟩ := same
  simp_all

/-! ## Expressions -/

section Walks

variable {first second : Registry} {helper : HelperCall}

theorem functionCall_eq_of_sameToCallers {info other : FunctionInfo}
    (same : info.SameToCallers other) (arguments : List (Option Frame)) :
    functionCall helper info arguments = functionCall helper other arguments := by
  cases isSigned : info.signature with
  | none => rw [same.eq_of_untyped isSigned]
  | some signature =>
    have otherSigned : other.signature = some signature := same.signature ▸ isSigned
    simp only [functionCall, isSigned, otherSigned]

theorem infer_eq_of_sameToCallers (same : first.SameToCallers second) :
    (∀ expression : Expr, infer first helper expression = infer second helper expression) ∧
    ∀ expressions : List Expr, inferAll first helper expressions =
      inferAll second helper expressions := by
  apply inferInduction first
  case name =>
    intro identifier
    rw [infer, infer]
  case known =>
    intro function info arguments keywords registered inArguments
    obtain ⟨other, otherRegistered, infos⟩ :=
      Table.exists_of_rel_some_left (registered ▸ same function)
    rw [infer_known helper registered, infer_known helper otherRegistered, inArguments]
    exact bind_congr fun frames => functionCall_eq_of_sameToCallers infos frames
  case aggregation =>
    intro grouped keys keyKeywords items keywords inGrouped
    rw [infer_aggregation, infer_aggregation, inGrouped]
  case join =>
    intro receiver right others keywords inReceiver inRight
    rw [infer_join, infer_join, inReceiver, inRight]
  case select =>
    intro receiver arguments keywords inReceiver
    rw [infer_select, infer_select, inReceiver]
  case withColumns =>
    intro receiver arguments keywords inReceiver
    rw [infer_withColumns, infer_withColumns, inReceiver]
  case otherMethod =>
    intro receiver method arguments keywords isOther inReceiver
    rw [infer_otherMethod helper isOther, infer_otherMethod helper isOther, inReceiver]
  case frameless =>
    intro expression frameless
    rw [infer_of_isFrameless helper frameless]
    have contained (function : Text) : first.contains function = second.contains function := by
      rw [Table.contains_eq, Table.contains_eq, same.isSome_eq function]
    rw [isFrameless_congr contained] at frameless
    rw [infer_of_isFrameless helper frameless]
  case nil => rw [inferAll, inferAll]
  case cons =>
    intro expression rest inFirst inRest
    rw [inferAll, inferAll, inFirst, inRest]

/-! ## Statements -/

theorem run_eq_of_sameToCallers (same : first.SameToCallers second) (effect : Effect) :
    effect.run first helper = effect.run second helper := by
  cases effect with
  | declare name hint => rfl
  | assign name value =>
    rw [Effect.run, Effect.run, (infer_eq_of_sameToCallers same).1 value]
  | give value => rw [Effect.run, Effect.run, (infer_eq_of_sameToCallers same).1 value]

theorem runEffects_eq_of_sameToCallers (same : first.SameToCallers second)
    (effects : List Effect) :
    runEffects first helper effects = runEffects second helper effects := by
  induction effects with
  | nil => rfl
  | cons effect rest inRest =>
    rw [runEffects, runEffects, run_eq_of_sameToCallers same effect, inRest]

theorem walkBlock_eq_of_sameToCallers (same : first.SameToCallers second) (block : List Stmt) :
    walkBlock first helper block = walkBlock second helper block := by
  rw [walkBlock_eq_runEffects, walkBlock_eq_runEffects, runEffects_eq_of_sameToCallers same]

/-! ## Calls -/

theorem enter_eq_of_sameToCallers (same : first.SameToCallers second) (info : FunctionInfo)
    (arguments : List (Option Frame)) :
    enter first helper info arguments = enter second helper info arguments := by
  funext walk
  simp only [enter, walkBlock_eq_of_sameToCallers same]

/-- Calls of functions without a signature are answered in the same way. The induction is on the
number of calls that may still be inside each other; the body of a called function is walked
through with calls that are one fewer. -/
theorem callHelper_eq_of_sameToCallers (same : first.SameToCallers second) (depth : Nat) :
    callHelper first depth = callHelper second depth := by
  induction depth with
  | zero => rfl
  | succ depth inDepth =>
    funext info arguments
    simp only [callHelper, inDepth, enter_eq_of_sameToCallers same]

end Walks

/-- A walk sees of the functions that have a signature only that. Where two registries have the
same names and signatures, and the same definitions of functions without one, a walk through any
statements comes to the same from any start: variables, returned frame, problems and all that is
remembered of functions, or the same fault. -/
theorem walkStatements_eq_of_sameToCallers {first second : Registry}
    (same : first.SameToCallers second) (statements : List Stmt) (start : Walk) :
    walkStatements first statements start = walkStatements second statements start := by
  unfold walkStatements callLimit
  rw [Table.size_eq_of_answers same.isSome_eq, callHelper_eq_of_sameToCallers same,
    walkBlock_eq_of_sameToCallers same]

def signedFunction (body : List Stmt) : FunctionDefinition where
  header :=
    { name := "signed", line := 1
      parameters :=
        { regular := [
            { name := "d"
              hint := some (.subscript (.name "DF") (.literal (.text "\x7ba: Int64\x7d"))) }] }
      returns := some (.subscript (.name "DF") (.literal (.text "\x7bb: Utf8\x7d"))) }
  body := body

def passingOn : FunctionDefinition where
  header := { name := "helper", line := 3, parameters := { regular := [{ name := "x" }] } }
  body := [.returning (some (.call (.name "signed") [.name "x"] []))]

def givingBack : List Stmt := [.returning (some (.name "d"))]

def lookingInVain : List Stmt :=
  [.returning (some (.call (.attribute (.name "d") "select")
    [.call (.attribute (.name "pl") "col") [.literal (.text "z")] []] []))]

theorem passingOn_eq :
    (Registry.ofDefinitions [signedFunction givingBack, passingOn]).SameToCallers
      (Registry.ofDefinitions [signedFunction lookingInVain, passingOn]) ∧
    ∀ start,
      walkStatements (Registry.ofDefinitions [signedFunction givingBack, passingOn])
        [.returning (some (.call (.name "helper") [.name "d"] []))] start =
      walkStatements (Registry.ofDefinitions [signedFunction lookingInVain, passingOn])
        [.returning (some (.call (.name "helper") [.name "d"] []))] start := by
  have isSigned : ¬ signature? (signedFunction givingBack) = none := by
    rw [← Option.isNone_iff_eq_none]
    decide +kernel
  have signedSame : FunctionInfo.SameToCallers
      ⟨signedFunction givingBack, signature? (signedFunction givingBack)⟩
      ⟨signedFunction lookingInVain, signature? (signedFunction lookingInVain)⟩ :=
    ⟨rfl, fun untyped => absurd untyped isSigned⟩
  have empty : Table.Agrees FunctionInfo.SameToCallers (Table.empty : Registry) .empty :=
    fun _ => .none
  have same : (Registry.ofDefinitions [signedFunction givingBack, passingOn]).SameToCallers
      (Registry.ofDefinitions [signedFunction lookingInVain, passingOn]) :=
    (empty.insert _ signedSame).insert _ ⟨rfl, fun _ => rfl⟩
  exact ⟨same, walkStatements_eq_of_sameToCallers same _⟩

end Analysis

end FrameCheck
