import FrameCheck.Number.Shortest
import FrameCheck.Text.Quoted

/-!
Literals of a script. They also serve as column labels: a script may name a column by
any constant, and labels are compared by value, across the numeric kinds.
-/

namespace FrameCheck

/-- A constant as a script spells it. Signs are operators, so numbers are never negative,
and a complex constant has no real part. -/
inductive Literal where
  | none
  | bool (value : Bool)
  | int (value : Nat)
  | float (value : Magnitude)
  | imaginary (value : Magnitude)
  | text (value : Text)
  | bytes (value : List UInt8)
  | ellipsis

namespace Literal

instance : Inhabited Literal := ⟨.none⟩

instance : Coe Text Literal := ⟨.text⟩

inductive Value where
  | none
  | number (real imaginary : Magnitude)
  | text (value : Text)
  | bytes (value : List UInt8)
  | ellipsis
deriving DecidableEq

def value : Literal → Value
  | .none => .none
  | .bool value => .number (.ofNat value.toNat) .zero
  | .int value => .number (.ofNat value) .zero
  | .float value => .number value .zero
  | .imaginary value => .number .zero value
  | .text value => .text value
  | .bytes value => .bytes value
  | .ellipsis => .ellipsis

/-- Labels are the same when their values are: `1`, `1.0` and `True` name one column. -/
instance : BEq Literal := ⟨fun left right => left.value == right.value⟩

instance : EquivBEq Literal where
  rfl := by simp [BEq.beq]
  symm := by simp only [BEq.beq, decide_eq_true_eq]; exact fun same => same.symm
  trans := by simp only [BEq.beq, decide_eq_true_eq]; exact fun first second => first.trans second

def isVoid : Literal → Bool
  | .none => true
  | .bool value => !value
  | .int value => value == 0
  | .float value => value == .zero
  | .imaginary value => value == .zero
  | .text value => value.isEmpty
  | .bytes value => value.isEmpty
  | .ellipsis => false

/-- The most digits that a whole number in base ten may have, where it is read and where it
is written. -/
def wholeDigitLimit : Nat := 4300

def writableWhole (number : Int) : Bool :=
  number.natAbs < Magnitude.powerOfTen wholeDigitLimit

def isWritable : Literal → Bool
  | .int value => writableWhole value
  | _ => true

def quoted : Literal → Text
  | .none => "None"
  | .bool value => if value then "True" else "False"
  | .int value => toString value
  | .float value => value.text Magnitude.plainLayout
  | .imaginary value => value.text Magnitude.bareLayout ++ "j"
  | .text value => Text.quoted value
  | .bytes value => Text.quotedBytes value
  | .ellipsis => "Ellipsis"

def display : Literal → Text
  | .text value => value
  | other => other.quoted

inductive OrderClass where
  | text
  | bytes
  | real
deriving DecidableEq

def orderClass? : Literal → Option OrderClass
  | .text _ => some .text
  | .bytes _ => some .bytes
  | .bool _ | .int _ | .float _ => some .real
  | .none | .imaginary _ | .ellipsis => Option.none

/-- Whether the labels have an order among them: there is at most one, or all of them
belong to one class. -/
def sortable (labels : List Literal) : Bool :=
  match labels with
  | [] => true
  | [_] => true
  | first :: rest =>
    first.orderClass?.isSome && rest.all fun label => label.orderClass? == first.orderClass?

end Literal

end FrameCheck
