import FrameCheck.Schema.Error
import FrameCheck.Typing.Expression
import FrameCheck.Typing.Grouping
import FrameCheck.Typing.Join

/-! What is found wrong while a function is analysed. -/

namespace FrameCheck.Analysis

open Typing

inductive Problem where
  | parameterSchema (parameter : Text) (error : Schema.Error)
  | returnSchema (error : Schema.Error)
  | unknownColumn (error : ColumnNotFound)
  | failedJoin (error : JoinError)
  | failedGrouping (error : GroupingError)
  | argumentLacks (parameter : Text) (column : Literal)
  | argumentDiffers (parameter : Text) (column : Literal) (actual expected : ColumnType)
  | remark (text : Text)

def Problem.message : Problem → Text
  | .parameterSchema parameter error => "Parameter '" ++ parameter ++ "': " ++ error.message
  | .returnSchema error => "Return type: " ++ error.message
  | .unknownColumn error => error.message
  | .failedJoin error => error.message
  | .failedGrouping error => error.message
  | .argumentLacks parameter column =>
    "Argument '" ++ parameter ++ "' is missing column '" ++ column.display ++ "'"
  | .argumentDiffers parameter column actual expected =>
    "Argument '" ++ parameter ++ "' column '" ++ column.display ++ "' has type " ++ actual.text ++
      " but expected " ++ expected.text
  | .remark text => text

def Problem.isWritable : Problem → Bool
  | .unknownColumn error => error.isWritable
  | .failedJoin error => error.isWritable
  | .failedGrouping error => error.isWritable
  | .argumentLacks _ column => column.isWritable
  | .argumentDiffers _ column actual expected =>
    column.isWritable && actual.isWritable && expected.isWritable
  | .parameterSchema _ _ | .returnSchema _ | .remark _ => true

inductive Fault where
  /-- Functions without a signature call each other without end. -/
  | endlessCalls
  /-- The columns of an argument have labels without an order among them. -/
  | unorderedLabels
  /-- A whole number with too many digits has to be written. -/
  | longNumber
deriving DecidableEq, Repr

structure Summary where
  name : Text
  line : Nat
  inputs : Table Text Frame := .empty
  declared : Option Frame := none
  inferred : Option Frame := none
  problems : List Problem := []

def Summary.hasProblems (summary : Summary) : Bool :=
  !summary.problems.isEmpty

end FrameCheck.Analysis
