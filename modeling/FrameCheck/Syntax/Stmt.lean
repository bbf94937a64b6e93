import FrameCheck.Syntax.Expr

/-!
Statements of a script, and the functions that it defines.
-/

namespace FrameCheck.Syntax

structure Parameter where
  name : String
  hint : Option Expr := none
  default : Option Expr := none

structure Parameters where
  positionalOnly : List Parameter := []
  regular : List Parameter := []
  variadic : Option Parameter := none
  keywordOnly : List Parameter := []
  keywordVariadic : Option Parameter := none

structure FunctionHeader where
  name : String
  line : Nat
  parameters : Parameters := {}
  returns : Option Expr := none
  decorators : List Expr := []

inductive PlainStatement where
  | expression
  | augmentedAssignment
  | delete
  | raise
  | assertion
  | importing
  | globals
  | nonlocals
  | pass
  | breaking
  | continuing
deriving DecidableEq, Repr

mutual

inductive Stmt where
  | plain (kind : PlainStatement) (parts : List Expr)
  | returning (value : Option Expr)
  | assign (targets : List Expr) (value : Expr)
  | annotated (target hint : Expr) (value : Option Expr)
  | function (isAsync : Bool) (header : FunctionHeader) (body : List Stmt)
  | classDefinition (name : String) (bases : List Expr) (keywords : List Keyword)
      (decorators : List Expr) (body : List Stmt)
  | conditional (test : Expr) (body alternative : List Stmt)
  | whileLoop (test : Expr) (body alternative : List Stmt)
  | forLoop (isAsync : Bool) (target iterable : Expr) (body alternative : List Stmt)
  | withBlock (isAsync : Bool) (items : List Expr) (body : List Stmt)
  | tryBlock (body : List Stmt) (handlers : List Clause) (alternative finalizer : List Stmt)
  | matchBlock (subject : Expr) (cases : List Clause)

/-- A block under a head of its own: the handler of an exception, or a case. -/
inductive Clause where
  | mk (heads : List Expr) (body : List Stmt)

end

instance : Inhabited Stmt := ⟨.plain .pass []⟩

structure FunctionDefinition where
  header : FunctionHeader
  body : List Stmt

namespace FunctionDefinition

def name (definition : FunctionDefinition) : String := definition.header.name

def line (definition : FunctionDefinition) : Nat := definition.header.line

def regularParameters (definition : FunctionDefinition) : List Parameter :=
  definition.header.parameters.regular

end FunctionDefinition

/-! The functions of a script, level by level: those of the outermost statements first, then
those one level further in. The heads of handlers and cases are a level of their own.
Asynchronous functions are passed over, but not what they contain. -/

abbrev Levels := List (List FunctionDefinition)

/-- Two forests side by side, the left one first on each level. -/
def Levels.beside : Levels → Levels → Levels
  | [], right => right
  | left, [] => left
  | first :: left, second :: right => (first ++ second) :: Levels.beside left right

mutual

def Stmt.levels : Stmt → Levels
  | .plain _ _ => []
  | .returning _ => []
  | .assign _ _ => []
  | .annotated _ _ _ => []
  | .function isAsync header body =>
    (if isAsync then [] else [⟨header, body⟩]) :: blockLevels body
  | .classDefinition _ _ _ _ body => [] :: blockLevels body
  | .conditional _ body alternative => [] :: (blockLevels body).beside (blockLevels alternative)
  | .whileLoop _ body alternative => [] :: (blockLevels body).beside (blockLevels alternative)
  | .forLoop _ _ _ body alternative => [] :: (blockLevels body).beside (blockLevels alternative)
  | .withBlock _ _ body => [] :: blockLevels body
  | .tryBlock body handlers alternative finalizer =>
    [] :: (blockLevels body).beside ((clauseLevels handlers).beside
      ((blockLevels alternative).beside (blockLevels finalizer)))
  | .matchBlock _ cases => [] :: clauseLevels cases

def blockLevels : List Stmt → Levels
  | [] => []
  | first :: rest => first.levels.beside (blockLevels rest)

def Clause.levels : Clause → Levels
  | .mk _ body => [] :: blockLevels body

def clauseLevels : List Clause → Levels
  | [] => []
  | first :: rest => first.levels.beside (clauseLevels rest)

end

def functionsOf (statements : List Stmt) : List FunctionDefinition :=
  (blockLevels statements).flatten

end FrameCheck.Syntax
