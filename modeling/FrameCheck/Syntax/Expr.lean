import FrameCheck.Literal

/-!
Expressions of a script. The forms that can stand for a frame or a column have constructors
of their own; every other form keeps its kind and its parts.
-/

namespace FrameCheck.Syntax

inductive BinaryOperator where
  | add
  | subtract
  | multiply
  | matrixMultiply
  | divide
  | floorDivide
  | remainder
  | power
  | shiftLeft
  | shiftRight
  | bitAnd
  | bitOr
  | bitXor
deriving DecidableEq, Repr

inductive Form where
  | unary
  | boolean
  | comparison
  | conditional
  | lambda
  | assignment
  | dictionary
  | set
  | comprehension
  | slice
  | formatted
  | awaiting
  | yielding
  | pattern
deriving DecidableEq, Repr

mutual

inductive Expr where
  | name (identifier : String)
  | literal (value : Literal)
  | attribute (object : Expr) (name : String)
  | subscript (object index : Expr)
  | call (function : Expr) (arguments : List Expr) (keywords : List Keyword)
  | binary (left : Expr) (operator : BinaryOperator) (right : Expr)
  | starred (value : Expr)
  | tuple (elements : List Expr)
  | list (elements : List Expr)
  | compound (form : Form) (parts : List Expr)

/-- A keyword argument; one without a name spreads a mapping. -/
inductive Keyword where
  | mk (name : Option String) (value : Expr)

end

def Keyword.name : Keyword → Option String
  | .mk name _ => name

def Keyword.value : Keyword → Expr
  | .mk _ value => value

instance : Inhabited Expr := ⟨.tuple []⟩

/-! Assignment targets. -/

mutual

def Expr.isTarget : Expr → Bool
  | .name _ => true
  | .attribute _ _ => true
  | .subscript _ _ => true
  | .starred value => value.isTarget
  | .tuple elements => areTargets elements
  | .list elements => areTargets elements
  | .literal _ | .call _ _ _ | .binary _ _ _ | .compound _ _ => false

def areTargets : List Expr → Bool
  | [] => true
  | first :: rest => first.isTarget && areTargets rest

end

mutual

def Expr.isDeletable : Expr → Bool
  | .name _ => true
  | .attribute _ _ => true
  | .subscript _ _ => true
  | .tuple elements => areDeletable elements
  | .list elements => areDeletable elements
  | .literal _ | .call _ _ _ | .binary _ _ _ | .starred _ | .compound _ _ => false

def areDeletable : List Expr → Bool
  | [] => true
  | first :: rest => first.isDeletable && areDeletable rest

end

/-- Whether an expression is one place that a value can be put: a name, an attribute or an
item. -/
def Expr.isPlace : Expr → Bool
  | .name _ => true
  | .attribute _ _ => true
  | .subscript _ _ => true
  | _ => false

end FrameCheck.Syntax
