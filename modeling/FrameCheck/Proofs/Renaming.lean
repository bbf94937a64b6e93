import FrameCheck.Proofs.PlainFrames

/-!
Expressions with other names. Renaming keeps the form of an expression. It keeps the columns that
an expression yields as well, as long as the name of the library stays what it is.
-/

namespace FrameCheck.Syntax

/-! ## Renamed expressions -/

mutual

def Expr.rename (names : String → String) : Expr → Expr
  | .name identifier => .name (names identifier)
  | .literal value => .literal value
  | .attribute object name => .attribute (object.rename names) name
  | .subscript object index => .subscript (object.rename names) (index.rename names)
  | .call function arguments keywords =>
    .call (function.rename names) (renameAll names arguments) (renameKeywords names keywords)
  | .binary left operator right => .binary (left.rename names) operator (right.rename names)
  | .starred value => .starred (value.rename names)
  | .tuple elements => .tuple (renameAll names elements)
  | .list elements => .list (renameAll names elements)
  | .compound form parts => .compound form (renameAll names parts)

def renameAll (names : String → String) : List Expr → List Expr
  | [] => []
  | first :: rest => first.rename names :: renameAll names rest

def Keyword.rename (names : String → String) : Keyword → Keyword
  | .mk name value => .mk name (value.rename names)

def renameKeywords (names : String → String) : List Keyword → List Keyword
  | [] => []
  | first :: rest => first.rename names :: renameKeywords names rest

end

mutual

theorem Expr.rename_id : (expression : Expr) → expression.rename id = expression
  | .name _ | .literal _ => rfl
  | .attribute object _ | .starred object => by rw [Expr.rename, object.rename_id]
  | .subscript first second | .binary first _ second => by
    rw [Expr.rename, first.rename_id, second.rename_id]
  | .call function arguments keywords => by
    rw [Expr.rename, function.rename_id, renameAll_id arguments, renameKeywords_id keywords]
  | .tuple elements | .list elements | .compound _ elements => by
    rw [Expr.rename, renameAll_id elements]

theorem renameAll_id : (expressions : List Expr) → renameAll id expressions = expressions
  | [] => rfl
  | first :: rest => by rw [renameAll, first.rename_id, renameAll_id rest]

theorem Keyword.rename_id : (keyword : Keyword) → keyword.rename id = keyword
  | .mk _ value => by rw [Keyword.rename, value.rename_id]

theorem renameKeywords_id : (keywords : List Keyword) → renameKeywords id keywords = keywords
  | [] => rfl
  | first :: rest => by rw [renameKeywords, first.rename_id, renameKeywords_id rest]

end

/-! What has a form after renaming had it before. -/

section Forms

variable {names : String → String} {expression : Expr}

theorem name_of_rename {identifier : String}
    (renamed : expression.rename names = .name identifier) :
    ∃ before, expression = .name before ∧ names before = identifier := by
  cases expression <;> rw [Expr.rename] at renamed <;> cases renamed
  exact ⟨_, rfl, rfl⟩

theorem literal_of_rename {value : Literal} (renamed : expression.rename names = .literal value) :
    expression = .literal value := by
  cases expression <;> rw [Expr.rename] at renamed <;> cases renamed
  rfl

theorem attribute_of_rename {object : Expr} {name : String}
    (renamed : expression.rename names = .attribute object name) :
    ∃ before, expression = .attribute before name ∧ before.rename names = object := by
  cases expression <;> rw [Expr.rename] at renamed <;> cases renamed
  exact ⟨_, rfl, rfl⟩

theorem call_of_rename {function : Expr} {arguments : List Expr} {keywords : List Keyword}
    (renamed : expression.rename names = .call function arguments keywords) :
    ∃ before given named, expression = .call before given named ∧
      before.rename names = function ∧ renameAll names given = arguments := by
  cases expression <;> rw [Expr.rename] at renamed <;> cases renamed
  exact ⟨_, _, _, rfl, rfl, rfl⟩

theorem binary_of_rename {left right : Expr} {operator : BinaryOperator}
    (renamed : expression.rename names = .binary left operator right) :
    ∃ first second, expression = .binary first operator second := by
  cases expression <;> rw [Expr.rename] at renamed <;> cases renamed
  exact ⟨_, _, rfl⟩

theorem cons_of_renameAll {expressions rest : List Expr} {first : Expr}
    (renamed : renameAll names expressions = first :: rest) :
    ∃ before others, expressions = before :: others ∧ before.rename names = first := by
  cases expressions <;> rw [renameAll] at renamed <;> cases renamed
  exact ⟨_, _, rfl, rfl⟩

theorem literalCall_of_rename {receiver : Expr} {method : String} {value : Literal}
    {rest : List Expr} {keywords : List Keyword}
    (renamed : expression.rename names =
      .call (.attribute receiver method) (.literal value :: rest) keywords) :
    ∃ before others named,
      expression = .call (.attribute before method) (.literal value :: others) named ∧
        before.rename names = receiver := by
  obtain ⟨_, _, named, rfl, isFunction, isArguments⟩ := call_of_rename renamed
  obtain ⟨before, rfl, isReceiver⟩ := attribute_of_rename isFunction
  obtain ⟨_, others, rfl, isLiteral⟩ := cons_of_renameAll isArguments
  cases literal_of_rename isLiteral
  exact ⟨before, others, named, rfl, isReceiver⟩

end Forms

end FrameCheck.Syntax

namespace FrameCheck.Analysis

open Syntax Typing

/-! ## Column expressions -/

def libraryLiteral? (function : String) : Expr → Option Literal
  | .call (.attribute (.name library) method) (.literal value :: _) _ =>
    if library = "pl" ∧ method = function then some value else none
  | _ => none

theorem columnName?_eq (expression : Expr) :
    columnName? expression = libraryLiteral? "col" expression := by
  unfold columnName?
  split
  next => simp [libraryLiteral?]
  next other =>
    unfold libraryLiteral?
    split
    · rw [if_neg]
      rintro ⟨rfl, rfl⟩
      exact other _ _ _ rfl
    · rfl

theorem literalValue?_eq (expression : Expr) :
    literalValue? expression = libraryLiteral? "lit" expression := by
  unfold literalValue?
  split
  next => simp [libraryLiteral?]
  next other =>
    unfold libraryLiteral?
    split
    · rw [if_neg]
      rintro ⟨rfl, rfl⟩
      exact other _ _ _ rfl
    · rfl

section Columns

variable {names : String → String} (library : ∀ name, names name = "pl" ↔ name = "pl")

include library

theorem libraryLiteral?_rename (function : String) (expression : Expr) :
    libraryLiteral? function (expression.rename names) = libraryLiteral? function expression := by
  unfold libraryLiteral?
  split
  next renamed =>
    obtain ⟨_, _, _, rfl, isReceiver⟩ := literalCall_of_rename renamed
    obtain ⟨_, rfl, rfl⟩ := name_of_rename isReceiver
    simp only [library]
  next other =>
    split
    · exact absurd rfl (other _ _ _ _ _)
    · rfl

theorem columnName?_rename (expression : Expr) :
    columnName? (expression.rename names) = columnName? expression := by
  rw [columnName?_eq, columnName?_eq, libraryLiteral?_rename library]

theorem literalValue?_rename (expression : Expr) :
    literalValue? (expression.rename names) = literalValue? expression := by
  rw [literalValue?_eq, literalValue?_eq, libraryLiteral?_rename library]

omit library in
theorem splitAlias_rename (expression : Expr) :
    splitAlias (expression.rename names) =
      ((splitAlias expression).1, (splitAlias expression).2.rename names) := by
  unfold splitAlias
  split
  next renamed =>
    obtain ⟨_, _, _, rfl, rfl⟩ := literalCall_of_rename renamed
    rfl
  next other =>
    split
    · exact absurd rfl (other _ _ _ _)
    · rfl

theorem plainColumn_rename (frame : Frame) (label : Literal) (expression : Expr) :
    plainColumn frame label (expression.rename names) = plainColumn frame label expression := by
  unfold plainColumn
  rw [columnName?_rename library, literalValue?_rename library]

theorem columnUnder_rename (frame : Frame) (label : Literal) (expression : Expr) :
    columnUnder frame label (expression.rename names) = columnUnder frame label expression := by
  fun_induction columnUnder frame label expression with
  | case1 label inner leftLabel _ _ _ _ inInner =>
    rw [Expr.rename, Expr.rename, Expr.rename, renameAll, Expr.rename, columnUnder, inInner]
  | case2 label left operator right notAlias inLeft =>
    rw [Expr.rename, columnUnder, inLeft]
    intro inner leftLabel rest keywords renamed
    obtain ⟨_, _, _, rfl, _⟩ := literalCall_of_rename renamed
    exact notAlias _ _ _ _ rfl
  | case3 label expression notAliased notBinary =>
    have stillNot : ∀ left operator right,
        expression.rename names = .binary left operator right → False := by
      intro left operator right renamed
      obtain ⟨first, second, rfl⟩ := binary_of_rename renamed
      exact notBinary first operator second rfl
    rw [columnUnder, plainColumn_rename library]
    · exact fun _ _ _ _ _ _ => stillNot _ _ _
    · exact stillNot

theorem outputColumn_rename (frame : Frame) (expression : Expr) :
    outputColumn frame (expression.rename names) = outputColumn frame expression := by
  rw [outputColumn, outputColumn, splitAlias_rename, columnUnder_rename library]

theorem outputColumns_rename (frame : Frame) (expressions : List Expr) :
    outputColumns frame (renameAll names expressions) = outputColumns frame expressions := by
  induction expressions with
  | nil => rfl
  | cons first rest inRest =>
    rw [renameAll, outputColumns, outputColumns, inRest, outputColumn_rename library]

theorem aggregationColumn?_rename (expression : Expr) :
    aggregationColumn? (expression.rename names) = aggregationColumn? expression := by
  unfold aggregationColumn?
  rw [splitAlias_rename]
  generalize splitAlias expression = parts
  obtain ⟨label, inner⟩ := parts
  dsimp only
  split
  next isPair =>
    obtain ⟨rfl, renamed⟩ := Prod.mk.inj isPair
    obtain ⟨_, _, _, rfl, isFunction, _⟩ := call_of_rename renamed
    obtain ⟨_, rfl, rfl⟩ := attribute_of_rename isFunction
    simp only [columnName?_rename library]
  next other =>
    split
    next isPair =>
      cases isPair
      exact absurd rfl (other _ _ _ _ _)
    next => rfl

theorem aggregationColumns_rename (expressions : List Expr) :
    (renameAll names expressions).filterMap aggregationColumn? =
      expressions.filterMap aggregationColumn? := by
  induction expressions with
  | nil => rfl
  | cons first rest inRest =>
    rw [renameAll, List.filterMap_cons, List.filterMap_cons, aggregationColumn?_rename library,
      inRest]

end Columns

/-! ## Frame operations -/

theorem groupKeys_rename (names : String → String) (expressions : List Expr) :
    groupKeys (renameAll names expressions) = groupKeys expressions := by
  induction expressions with
  | nil => rfl
  | cons first rest inRest =>
    unfold groupKeys at inRest ⊢
    rw [renameAll, List.filterMap_cons, List.filterMap_cons, inRest]
    cases first <;> rfl

theorem keywordLiteral?_rename (names : String → String) (name : String)
    (keywords : List Keyword) :
    keywordLiteral? name (renameKeywords names keywords) = keywordLiteral? name keywords := by
  unfold keywordLiteral?
  generalize none = found
  induction keywords generalizing found with
  | nil => rfl
  | cons first rest inRest =>
    obtain ⟨other, value⟩ := first
    rw [renameKeywords, Keyword.rename, List.foldl_cons, List.foldl_cons, inRest]
    cases other <;> cases value <;> rfl

theorem joinRequest_rename (names : String → String) (keywords : List Keyword) :
    joinRequest (renameKeywords names keywords) = joinRequest keywords := by
  simp only [joinRequest, keywordLiteral?_rename]

theorem joinCall_rename (names : String → String) (left right : Frame)
    (keywords : List Keyword) :
    joinCall left right (renameKeywords names keywords) = joinCall left right keywords := by
  rw [joinCall, joinCall, joinRequest_rename]

section Operations

variable {names : String → String} (library : ∀ name, names name = "pl" ↔ name = "pl")
  (frame : Frame)

include library

theorem aggregateCall_rename (keys items : List Expr) :
    aggregateCall frame (renameAll names keys) (renameAll names items) =
      aggregateCall frame keys items := by
  rw [aggregateCall, aggregateCall, groupKeys_rename, aggregationColumns_rename library]

theorem selectCall_rename (arguments : List Expr) :
    selectCall frame (renameAll names arguments) = selectCall frame arguments := by
  rw [selectCall, selectCall, outputColumns_rename library]

theorem withColumnsCall_rename (arguments : List Expr) :
    withColumnsCall frame (renameAll names arguments) = withColumnsCall frame arguments := by
  rw [withColumnsCall, withColumnsCall, outputColumns_rename library]

end Operations

end FrameCheck.Analysis
