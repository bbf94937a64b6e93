import FrameCheck.Syntax.Expr
import FrameCheck.Typing.Expression
import FrameCheck.Typing.Grouping

/-!
Column expressions, the arguments of `select`, `with_columns` and `agg`: references
`pl.col(name)`, literals `pl.lit(value)`, arithmetic on them, and `.alias(name)` around
them. Arithmetic takes its type and its name from its left operand.
-/

namespace FrameCheck.Analysis

open Syntax Typing

def columnName? : Expr → Option Literal
  | .call (.attribute (.name "pl") "col") (.literal name :: _) _ => some name
  | _ => none

def literalValue? : Expr → Option Literal
  | .call (.attribute (.name "pl") "lit") (.literal value :: _) _ => some value
  | _ => none

/-- An expression without an outer `.alias(name)`, and that name; without one, the name is
the literal for nothing. -/
def splitAlias : Expr → Literal × Expr
  | .call (.attribute inner "alias") (.literal label :: _) _ => (label, inner)
  | expression => (.none, expression)

/-- A column that an expression yields. It may lack a name, a type, or both. -/
structure OutputColumn where
  name : Literal := .none
  type : Option ColumnType := none

def preferredName (first second : Literal) : Literal :=
  if first.isVoid then second else first

def plainColumn (frame : Frame) (label : Literal) (expression : Expr) :
    Except ColumnNotFound OutputColumn :=
  match columnName? expression with
  | some name =>
    if name.isVoid then .ok {}
    else do return { name := preferredName label name, type := some (← columnType name frame) }
  | none =>
    match literalValue? expression with
    | some value =>
      match literalType (literalKind value) with
      | .ok type => .ok { name := label, type := some type }
      | .error _ => .ok {}
    | none => .ok {}

def arithmeticColumn (label : Literal) (left : OutputColumn) : OutputColumn :=
  match left.type with
  | some type => { name := preferredName label left.name, type := some type }
  | none => {}

def columnUnder (frame : Frame) (label : Literal) : Expr → Except ColumnNotFound OutputColumn
  | .binary (.call (.attribute inner "alias") (.literal leftLabel :: _) _) _ _ => do
    return arithmeticColumn label (← columnUnder frame leftLabel inner)
  | .binary left _ _ => do
    return arithmeticColumn label (← columnUnder frame .none left)
  | expression => plainColumn frame label expression

def outputColumn (frame : Frame) (expression : Expr) : Except ColumnNotFound OutputColumn :=
  columnUnder frame (splitAlias expression).1 (splitAlias expression).2

def aggregationColumn? (expression : Expr) : Option AggregationColumn :=
  match splitAlias expression with
  | (label, .call (.attribute column method) _ _) => do
    let aggregation ← Aggregation.ofMethod? method
    let name ← columnName? column
    if name.isVoid then none
    else
      let label := match label with
        | .none => none
        | label => some label
      some { column := name, aggregation := aggregation, label := label }
  | _ => none

/-- The columns that arguments yield, in order, and the columns that they look for in vain.
An output counts if it has a name and a type. -/
def outputColumns (frame : Frame) :
    List Expr → List (Literal × ColumnType) × List ColumnNotFound
  | [] => ([], [])
  | first :: rest =>
    let (columns, missing) := outputColumns frame rest
    match outputColumn frame first with
    | .error error => (columns, error :: missing)
    | .ok { name, type := some type } =>
      if name.isVoid then (columns, missing) else ((name, type) :: columns, missing)
    | .ok { name := _, type := none } => (columns, missing)

end FrameCheck.Analysis
