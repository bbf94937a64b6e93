import FrameCheck.Proofs.Parts
import FrameCheck.Proofs.Table
import Mathlib.Data.Finset.Card
import Mathlib.Logic.Relation

/-!
Calls among the functions of a script that have no signature. Where no such function comes
back to itself, every call goes down in rank, and ranks stay below the number of functions.
-/

namespace FrameCheck.Analysis

open Syntax

def calledName? : Expr → Option Text
  | .call (.name function) _ _ => some function
  | _ => none

namespace Registry

def Untyped (registry : Registry) (name : Text) (info : FunctionInfo) : Prop :=
  registry.get? name = some info ∧ info.signature = none

/-- The body of a function without a signature holds a call of another one, at any depth. -/
def Calls (registry : Registry) (caller callee : Text) : Prop :=
  (∃ info, registry.Untyped caller info ∧
    ∃ part ∈ blockParts info.definition.body, calledName? part = some callee) ∧
  ∃ info, registry.Untyped callee info

/-- No function without a signature comes back to itself through such calls. -/
def Acyclic (registry : Registry) : Prop :=
  ∀ name, ¬ Relation.TransGen registry.Calls name name

theorem acyclic_of_heights {registry : Registry} (height : Text → Nat)
    (descends : ∀ entry ∈ registry.entries, ∀ part ∈ blockParts entry.2.definition.body,
      ∀ callee ∈ calledName? part, height callee < height entry.1) : registry.Acyclic := by
  have lower : ∀ caller callee, Relation.TransGen registry.Calls caller callee →
      height callee < height caller := by
    intro caller callee reached
    refine Relation.TransGen.trans_induction_on reached ?_ ?_
    · rintro caller callee ⟨⟨info, ⟨registered, _⟩, part, inBody, called⟩, _⟩
      obtain ⟨entry, member, same, rfl⟩ := Table.exists_of_get? registered
      have equal : entry.1 = caller := by simpa using same
      exact equal ▸ descends entry member part inBody callee called
    · intro first second third _ _ firstLower secondLower
      exact secondLower.trans firstLower
  exact fun name cycle => Nat.lt_irrefl _ (lower name name cycle)

theorem mem_keys {registry : Registry} {name : Text} {info : FunctionInfo}
    (registered : registry.get? name = some info) : name ∈ registry.keys := by
  obtain ⟨entry, member, same, _⟩ := Table.exists_of_get? registered
  have equal : entry.1 = name := by simpa using same
  exact equal ▸ List.mem_map_of_mem member

open Classical in
noncomputable def rank (registry : Registry) (name : Text) : Nat :=
  (registry.keys.toFinset.filter fun other => Relation.TransGen registry.Calls name other).card

/-- A function that does not come back to itself has a lower rank than those that call it. -/
theorem rank_lt_of_calls {registry : Registry} {caller callee : Text}
    (leaves : ¬ Relation.TransGen registry.Calls callee callee)
    (calls : registry.Calls caller callee) : registry.rank callee < registry.rank caller := by
  classical
  apply Finset.card_lt_card
  refine Finset.ssubset_iff_subset_ne.mpr ⟨fun other member => ?_, fun equal => ?_⟩
  · rw [Finset.mem_filter] at member ⊢
    exact ⟨member.1, .head calls member.2⟩
  · -- the callee is reached from the caller, but not from itself
    obtain ⟨info, registered, _⟩ := calls.2
    have reached : callee ∈ registry.keys.toFinset.filter
        fun other => Relation.TransGen registry.Calls caller other :=
      Finset.mem_filter.mpr ⟨List.mem_toFinset.mpr (mem_keys registered), .single calls⟩
    rw [← equal, Finset.mem_filter] at reached
    exact leaves reached.2

theorem rank_le_size (registry : Registry) (name : Text) : registry.rank name ≤ registry.size := by
  classical
  calc registry.rank name ≤ registry.keys.toFinset.card := Finset.card_filter_le _ _
    _ ≤ registry.keys.length := List.toFinset_card_le _
    _ = registry.size := List.length_map _

theorem rank_lt_size {registry : Registry} (acyclic : registry.Acyclic) {name : Text}
    {info : FunctionInfo} (registered : registry.get? name = some info) :
    registry.rank name < registry.size := by
  classical
  have smaller : registry.rank name < registry.keys.toFinset.card := by
    apply Finset.card_lt_card
    refine Finset.filter_ssubset.mpr ⟨name, List.mem_toFinset.mpr (mem_keys registered), ?_⟩
    exact acyclic name
  calc registry.rank name < registry.keys.toFinset.card := smaller
    _ ≤ registry.keys.length := List.toFinset_card_le _
    _ = registry.size := List.length_map _

end Registry

end FrameCheck.Analysis
