import FrameCheck.Proofs.Effects

/-!
The expressions of a script: those that stand in its statements, at any depth. The bodies of
all functions that a script defines, and the values that its effects ask for, are among them.
-/

namespace FrameCheck.Syntax

/-! ## Expressions -/

mutual

def Expr.parts : Expr → List Expr
  | .name identifier => [.name identifier]
  | .literal value => [.literal value]
  | .attribute object name => .attribute object name :: object.parts
  | .subscript object index => .subscript object index :: (object.parts ++ index.parts)
  | .call function arguments keywords =>
    .call function arguments keywords ::
      (function.parts ++ (allParts arguments ++ keywordsParts keywords))
  | .binary left operator right => .binary left operator right :: (left.parts ++ right.parts)
  | .starred value => .starred value :: value.parts
  | .tuple elements => .tuple elements :: allParts elements
  | .list elements => .list elements :: allParts elements
  | .compound form parts => .compound form parts :: allParts parts

def allParts : List Expr → List Expr
  | [] => []
  | first :: rest => first.parts ++ allParts rest

def Keyword.parts : Keyword → List Expr
  | .mk _ value => value.parts

def keywordsParts : List Keyword → List Expr
  | [] => []
  | first :: rest => first.parts ++ keywordsParts rest

end

theorem Expr.mem_parts_self (expression : Expr) : expression ∈ expression.parts := by
  cases expression <;> simp [Expr.parts]

theorem mem_allParts {part : Expr} {expressions : List Expr} :
    part ∈ allParts expressions ↔ ∃ expression ∈ expressions, part ∈ expression.parts := by
  induction expressions with
  | nil => simp [allParts]
  | cons first rest inRest => simp [allParts, inRest]

def Expr.Every (property : Expr → Prop) (expression : Expr) : Prop :=
  ∀ part ∈ expression.parts, property part

namespace Expr.Every

variable {property : Expr → Prop}

theorem self {expression : Expr} (every : expression.Every property) : property expression :=
  every expression expression.mem_parts_self

theorem mono {weaker : Expr → Prop} (implies : ∀ part, property part → weaker part)
    {expression : Expr} (every : expression.Every property) : expression.Every weaker :=
  fun part member => implies part (every part member)

theorem object {object : Expr} {name : String}
    (every : (Expr.attribute object name).Every property) : object.Every property :=
  fun part member => every part (by simp [Expr.parts, member])

theorem function {function : Expr} {arguments : List Expr} {keywords : List Keyword}
    (every : (Expr.call function arguments keywords).Every property) :
    function.Every property :=
  fun part member => every part (by simp [Expr.parts, member])

theorem argument {function argument : Expr} {arguments : List Expr} {keywords : List Keyword}
    (every : (Expr.call function arguments keywords).Every property)
    (isArgument : argument ∈ arguments) : argument.Every property :=
  fun part member => every part (by
    have inAll : part ∈ allParts arguments := mem_allParts.mpr ⟨argument, isArgument, member⟩
    simp [Expr.parts, inAll])

theorem left {left right : Expr} {operator : BinaryOperator}
    (every : (Expr.binary left operator right).Every property) : left.Every property :=
  fun part member => every part (by simp [Expr.parts, member])

end Expr.Every

/-! ## Statements -/

def Parameter.parts (parameter : Parameter) : List Expr :=
  allParts (parameter.hint.toList ++ parameter.default.toList)

def Parameters.all (parameters : Parameters) : List Parameter :=
  parameters.positionalOnly ++ parameters.regular ++ parameters.variadic.toList ++
    parameters.keywordOnly ++ parameters.keywordVariadic.toList

def FunctionHeader.parts (header : FunctionHeader) : List Expr :=
  header.parameters.all.flatMap Parameter.parts ++
    allParts (header.returns.toList ++ header.decorators)

mutual

def Stmt.parts : Stmt → List Expr
  | .plain _ parts => allParts parts
  | .returning value => allParts value.toList
  | .assign targets value => allParts targets ++ value.parts
  | .annotated target hint value => target.parts ++ (hint.parts ++ allParts value.toList)
  | .function _ header body => header.parts ++ blockParts body
  | .classDefinition _ bases keywords decorators body =>
    allParts bases ++ (keywordsParts keywords ++ (allParts decorators ++ blockParts body))
  | .conditional test body alternative =>
    test.parts ++ (blockParts body ++ blockParts alternative)
  | .whileLoop test body alternative =>
    test.parts ++ (blockParts body ++ blockParts alternative)
  | .forLoop _ target iterable body alternative =>
    target.parts ++ (iterable.parts ++ (blockParts body ++ blockParts alternative))
  | .withBlock _ items body => allParts items ++ blockParts body
  | .tryBlock body handlers alternative finalizer =>
    blockParts body ++ (clausesParts handlers ++
      (blockParts alternative ++ blockParts finalizer))
  | .matchBlock subject cases => subject.parts ++ clausesParts cases

def blockParts : List Stmt → List Expr
  | [] => []
  | first :: rest => first.parts ++ blockParts rest

def Clause.parts : Clause → List Expr
  | .mk heads body => allParts heads ++ blockParts body

def clausesParts : List Clause → List Expr
  | [] => []
  | first :: rest => first.parts ++ clausesParts rest

end

/-! ## The bodies of functions -/

theorem Levels.mem_flatten_beside {definition : FunctionDefinition} {left right : Levels} :
    definition ∈ (left.beside right).flatten ↔
      definition ∈ left.flatten ∨ definition ∈ right.flatten := by
  fun_induction Levels.beside left right with
  | case1 => simp
  | case2 => simp
  | case3 first left second right inRest =>
    simp only [List.flatten_cons, List.mem_append, inRest]
    grind

mutual

theorem Stmt.mem_parts_of_level {definition : FunctionDefinition} {part : Expr}
    (inBody : part ∈ blockParts definition.body) : (statement : Stmt) →
    definition ∈ statement.levels.flatten → part ∈ statement.parts
  | .plain _ _, member => by simp [Stmt.levels] at member
  | .returning _, member => by simp [Stmt.levels] at member
  | .assign _ _, member => by simp [Stmt.levels] at member
  | .annotated _ _ _, member => by simp [Stmt.levels] at member
  | .function isAsync header body, member => by
    rw [Stmt.levels, List.flatten_cons, List.mem_append] at member
    rw [Stmt.parts, List.mem_append]
    rcases member with here | inside
    · cases isAsync <;> simp at here
      subst here
      exact .inr inBody
    · exact .inr (mem_blockParts_of_level inBody body inside)
  | .classDefinition _ _ _ _ body, member => by
    have inside := mem_blockParts_of_level inBody body (by simpa [Stmt.levels] using member)
    simp [Stmt.parts, inside]
  | .withBlock _ _ body, member => by
    have inside := mem_blockParts_of_level inBody body (by simpa [Stmt.levels] using member)
    simp [Stmt.parts, inside]
  | .conditional _ body alternative, member => by
    have parted := Levels.mem_flatten_beside.mp (by simpa [Stmt.levels] using member)
    rcases parted with inside | inside
    · simp [Stmt.parts, mem_blockParts_of_level inBody body inside]
    · simp [Stmt.parts, mem_blockParts_of_level inBody alternative inside]
  | .whileLoop _ body alternative, member => by
    have parted := Levels.mem_flatten_beside.mp (by simpa [Stmt.levels] using member)
    rcases parted with inside | inside
    · simp [Stmt.parts, mem_blockParts_of_level inBody body inside]
    · simp [Stmt.parts, mem_blockParts_of_level inBody alternative inside]
  | .forLoop _ _ _ body alternative, member => by
    have parted := Levels.mem_flatten_beside.mp (by simpa [Stmt.levels] using member)
    rcases parted with inside | inside
    · simp [Stmt.parts, mem_blockParts_of_level inBody body inside]
    · simp [Stmt.parts, mem_blockParts_of_level inBody alternative inside]
  | .tryBlock body handlers alternative finalizer, member => by
    rw [Stmt.levels, List.flatten_cons, List.nil_append, Levels.mem_flatten_beside,
      Levels.mem_flatten_beside, Levels.mem_flatten_beside] at member
    rcases member with inside | inside | inside | inside
    · simp [Stmt.parts, mem_blockParts_of_level inBody body inside]
    · simp [Stmt.parts, mem_clausesParts_of_level inBody handlers inside]
    · simp [Stmt.parts, mem_blockParts_of_level inBody alternative inside]
    · simp [Stmt.parts, mem_blockParts_of_level inBody finalizer inside]
  | .matchBlock _ cases, member => by
    have inside := mem_clausesParts_of_level inBody cases (by simpa [Stmt.levels] using member)
    simp [Stmt.parts, inside]

theorem mem_blockParts_of_level {definition : FunctionDefinition} {part : Expr}
    (inBody : part ∈ blockParts definition.body) : (block : List Stmt) →
    definition ∈ (blockLevels block).flatten → part ∈ blockParts block
  | [], member => by simp [blockLevels] at member
  | first :: rest, member => by
    rw [blockLevels, Levels.mem_flatten_beside] at member
    rw [blockParts, List.mem_append]
    rcases member with inside | inside
    · exact .inl (first.mem_parts_of_level inBody inside)
    · exact .inr (mem_blockParts_of_level inBody rest inside)

theorem Clause.mem_parts_of_level {definition : FunctionDefinition} {part : Expr}
    (inBody : part ∈ blockParts definition.body) : (clause : Clause) →
    definition ∈ clause.levels.flatten → part ∈ clause.parts
  | .mk _ body, member => by
    have inside := mem_blockParts_of_level inBody body (by simpa [Clause.levels] using member)
    simp [Clause.parts, inside]

theorem mem_clausesParts_of_level {definition : FunctionDefinition} {part : Expr}
    (inBody : part ∈ blockParts definition.body) : (clauses : List Clause) →
    definition ∈ (clauseLevels clauses).flatten → part ∈ clausesParts clauses
  | [], member => by simp [clauseLevels] at member
  | first :: rest, member => by
    rw [clauseLevels, Levels.mem_flatten_beside] at member
    rw [clausesParts, List.mem_append]
    rcases member with inside | inside
    · exact .inl (first.mem_parts_of_level inBody inside)
    · exact .inr (mem_clausesParts_of_level inBody rest inside)

end

theorem mem_blockParts_of_functionsOf {statements : List Stmt} {definition : FunctionDefinition}
    (defined : definition ∈ functionsOf statements) {part : Expr}
    (inBody : part ∈ blockParts definition.body) : part ∈ blockParts statements :=
  mem_blockParts_of_level inBody statements defined

end FrameCheck.Syntax

namespace FrameCheck.Analysis

open Syntax

/-! ## The values of effects -/

mutual

theorem mem_parts_of_effect {effect : Effect} {value part : Expr}
    (asked : effect.value? = some value) (inValue : part ∈ value.parts) : (statement : Stmt) →
    effect ∈ statementEffects statement → part ∈ statement.parts
  | .plain _ _, member => by simp [statementEffects] at member
  | .returning none, member => by simp [statementEffects] at member
  | .returning (some given), member => by
    simp only [statementEffects, List.mem_singleton] at member
    subst member
    cases asked
    simp [Stmt.parts, allParts, inValue]
  | .assign targets given, member => by
    unfold statementEffects at member
    split at member
    all_goals simp_all
    subst member
    cases asked
    simp [Stmt.parts, inValue]
  | .annotated target hint given, member => by
    cases target with
    | name target =>
      cases declared : declaredFrame? hint <;> cases given <;>
        simp [statementEffects, declared] at member
      all_goals
        subst member
        cases asked
      simp [Stmt.parts, allParts, inValue]
    | _ => simp [statementEffects] at member
  | .function _ _ body, member => by
    simp [Stmt.parts, mem_blockParts_of_effect asked inValue body member]
  | .classDefinition _ _ _ _ body, member => by
    simp [Stmt.parts, mem_blockParts_of_effect asked inValue body member]
  | .withBlock _ _ body, member => by
    simp [Stmt.parts, mem_blockParts_of_effect asked inValue body member]
  | .conditional _ body alternative, member => by
    rw [statementEffects, List.mem_append] at member
    rcases member with inside | inside
    · simp [Stmt.parts, mem_blockParts_of_effect asked inValue body inside]
    · simp [Stmt.parts, mem_blockParts_of_effect asked inValue alternative inside]
  | .whileLoop _ body alternative, member => by
    rw [statementEffects, List.mem_append] at member
    rcases member with inside | inside
    · simp [Stmt.parts, mem_blockParts_of_effect asked inValue body inside]
    · simp [Stmt.parts, mem_blockParts_of_effect asked inValue alternative inside]
  | .forLoop _ _ _ body alternative, member => by
    rw [statementEffects, List.mem_append] at member
    rcases member with inside | inside
    · simp [Stmt.parts, mem_blockParts_of_effect asked inValue body inside]
    · simp [Stmt.parts, mem_blockParts_of_effect asked inValue alternative inside]
  | .tryBlock body handlers alternative finalizer, member => by
    rw [statementEffects, List.mem_append, List.mem_append, List.mem_append] at member
    rcases member with inside | inside | inside | inside
    · simp [Stmt.parts, mem_blockParts_of_effect asked inValue body inside]
    · simp [Stmt.parts, mem_clausesParts_of_effect asked inValue handlers inside]
    · simp [Stmt.parts, mem_blockParts_of_effect asked inValue alternative inside]
    · simp [Stmt.parts, mem_blockParts_of_effect asked inValue finalizer inside]
  | .matchBlock _ cases, member => by
    simp [Stmt.parts, mem_clausesParts_of_effect asked inValue cases member]

theorem mem_blockParts_of_effect {effect : Effect} {value part : Expr}
    (asked : effect.value? = some value) (inValue : part ∈ value.parts) : (block : List Stmt) →
    effect ∈ blockEffects block → part ∈ blockParts block
  | [], member => by simp [blockEffects] at member
  | first :: rest, member => by
    rw [blockEffects, List.mem_append] at member
    rw [blockParts, List.mem_append]
    rcases member with inside | inside
    · exact .inl (mem_parts_of_effect asked inValue first inside)
    · exact .inr (mem_blockParts_of_effect asked inValue rest inside)

theorem mem_clauseParts_of_effect {effect : Effect} {value part : Expr}
    (asked : effect.value? = some value) (inValue : part ∈ value.parts) : (clause : Clause) →
    effect ∈ clauseEffects clause → part ∈ clause.parts
  | .mk _ body, member => by
    simp [Clause.parts, mem_blockParts_of_effect asked inValue body member]

theorem mem_clausesParts_of_effect {effect : Effect} {value part : Expr}
    (asked : effect.value? = some value) (inValue : part ∈ value.parts) :
    (clauses : List Clause) → effect ∈ clausesEffects clauses → part ∈ clausesParts clauses
  | [], member => by simp [clausesEffects] at member
  | first :: rest, member => by
    rw [clausesEffects, List.mem_append] at member
    rw [clausesParts, List.mem_append]
    rcases member with inside | inside
    · exact .inl (mem_clauseParts_of_effect asked inValue first inside)
    · exact .inr (mem_clausesParts_of_effect asked inValue rest inside)

end

end FrameCheck.Analysis
