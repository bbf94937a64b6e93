import FrameCheck.Frame

/-!
Failures of operations on frames. An operation that fails says why in a text, and an operation may
rename columns. Where such a text would hold a whole number with too many digits, the operation
breaks off without a message.
-/

namespace FrameCheck.Typing

inductive Failure (ε : Type) where
  | refused (error : ε)
  | longNumber
deriving DecidableEq, Repr

namespace Failure

variable {ε δ : Type}

/-- The failure of an operation that finds an error, whose message it has to write. -/
def of (isWritable : ε → Bool) (error : ε) : Failure ε :=
  if isWritable error then .refused error else .longNumber

def map (note : ε → δ) : Failure ε → Failure δ
  | .refused error => .refused (note error)
  | .longNumber => .longNumber

def isRefusal : Failure ε → Bool
  | .refused _ => true
  | .longNumber => false

variable {isWritable : ε → Bool} {error other : ε}

theorem of_eq_refused_iff :
    of isWritable error = .refused other ↔ error = other ∧ isWritable error = true := by
  unfold of
  split <;> simp_all

theorem of_eq_longNumber_iff : of isWritable error = .longNumber ↔ isWritable error = false := by
  unfold of
  split <;> simp_all

@[simp] theorem isRefusal_of : (of isWritable error).isRefusal = isWritable error := by
  unfold of
  split <;> simp_all [isRefusal]

@[simp] theorem isRefusal_map (note : ε → δ) (failure : Failure ε) :
    (failure.map note).isRefusal = failure.isRefusal := by
  cases failure <;> rfl

end Failure

end FrameCheck.Typing
