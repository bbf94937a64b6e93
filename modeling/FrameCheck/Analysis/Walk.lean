import FrameCheck.Analysis.ColumnExpr
import FrameCheck.Analysis.Problem
import FrameCheck.Analysis.Registry
import FrameCheck.Typing.Subtype

/-!
Walking through the body of a function. The walk keeps the frames of variables and the frame
that was returned last, notes problems, and remembers what functions without a signature
return for given arguments.

Calls of such functions are answered by a parameter of the walk. The answer that is used in
the end walks through the body of the called function, one call deeper.
-/

namespace FrameCheck.Analysis

open Syntax Typing

structure MemoEntry where
  arguments : List (Option Frame)
  result : Frame

abbrev Memo := Table Text (List MemoEntry)

def sameArgument : Option Frame → Option Frame → Bool
  | none, none => true
  | some left, some right => left.sameColumns right
  | _, _ => false

def sameArguments : List (Option Frame) → List (Option Frame) → Bool
  | [], [] => true
  | left :: lefts, right :: rights => sameArgument left right && sameArguments lefts rights
  | _, _ => false

namespace Memo

def entries (memo : Memo) (function : Text) : List MemoEntry :=
  (memo.get? function).getD []

def find? (memo : Memo) (function : Text) (arguments : List (Option Frame)) : Option Frame :=
  ((memo.entries function).find? fun entry => sameArguments entry.arguments arguments).map
    MemoEntry.result

def writeEntry (arguments : List (Option Frame)) (result : Frame) : List MemoEntry → List MemoEntry
  | [] => [⟨arguments, result⟩]
  | entry :: rest =>
    if sameArguments entry.arguments arguments then { entry with result := result } :: rest
    else entry :: writeEntry arguments result rest

def remember (memo : Memo) (function : Text) (arguments : List (Option Frame)) (result : Frame) :
    Memo :=
  memo.insert function (writeEntry arguments result (memo.entries function))

end Memo

structure Walk where
  frames : Table Text Frame := .empty
  returned : Option Frame := none
  problems : List Problem := []
  memo : Memo := .empty

/-- A step of a walk. What was done before a fault stays done. -/
abbrev Walker := EStateM Fault Walk

namespace Walker

def note (problems : List Problem) : Walker Unit :=
  modify fun walk => { walk with problems := walk.problems ++ problems }

def report (problems : List Problem) : Walker Unit :=
  if problems.all Problem.isWritable then note problems else throw .longNumber

def setVariable (name : Text) (frame : Frame) : Walker Unit :=
  modify fun walk => { walk with frames := walk.frames.insert name frame }

def assign (name : Text) : Option Frame → Walker Unit
  | some frame => setVariable name frame
  | none => pure ()

def attempt : Except (Failure Problem) Frame → Walker (Option Frame)
  | .ok frame => return some frame
  | .error (.refused problem) => do
    note [problem]
    return none
  | .error .longNumber => throw .longNumber

end Walker

/-! Frames of method calls. -/

/-- The value of the last keyword of a name that has a literal one. -/
def keywordLiteral? (name : String) (keywords : List Keyword) : Option Literal :=
  keywords.foldl (fun found keyword =>
    match keyword with
    | .mk (some other) (.literal value) => if other = name then some value else found
    | _ => found) none

def given? (literal : Option Literal) : Option Literal :=
  match literal with
  | some .none => none
  | literal => literal

def joinRequest (keywords : List Keyword) : JoinRequest where
  on := given? (keywordLiteral? "on" keywords)
  leftOn := given? (keywordLiteral? "left_on" keywords)
  rightOn := given? (keywordLiteral? "right_on" keywords)
  kind := ((keywordLiteral? "how" keywords).map JoinKind.ofLiteral).getD .inner

def joinCall (left right : Frame) (keywords : List Keyword) : Walker (Option Frame) :=
  Walker.attempt ((join left right (joinRequest keywords)).mapError (.map .failedJoin))

def groupKeys (arguments : List Expr) : List Literal :=
  arguments.filterMap fun
    | .literal (.text name) => some (.text name)
    | _ => none

def aggregateCall (frame : Frame) (keys items : List Expr) : Walker (Option Frame) :=
  Walker.attempt <| (aggregate frame (groupKeys keys) (items.filterMap aggregationColumn?)).mapError
    (.map .failedGrouping)

def selectCall (frame : Frame) (arguments : List Expr) : Walker (Option Frame) := do
  let (columns, missing) := outputColumns frame arguments
  Walker.report (missing.map .unknownColumn)
  return if columns.isEmpty then none else some (.ofList columns)

def withColumnsCall (frame : Frame) (arguments : List Expr) : Walker (Option Frame) := do
  let (columns, missing) := outputColumns frame arguments
  Walker.report (missing.map .unknownColumn)
  return some { columns := frame.columns.insertAll columns }

/-! Arguments of functions with a signature. -/

def argumentProblems (parameter : Text) (actual expected : Frame) : List Problem :=
  expected.columns.entries.filterMap fun column =>
    match actual.column? column.1 with
    | none => some (.argumentLacks parameter column.1)
    | some type =>
      if serves type column.2 then none
      else some (.argumentDiffers parameter column.1 type column.2)

def callProblems (signature : Signature) (position : Nat) : List (Option Frame) → List Problem
  | [] => []
  | argument :: rest =>
    let here := match argument, signature.parameterAt? position with
      | some actual, some (parameter, expected) =>
        if frameServes actual expected then [] else argumentProblems parameter actual expected
      | _, _ => []
    here ++ callProblems signature (position + 1) rest

/-! Frames of expressions. -/

abbrev HelperCall := FunctionInfo → List (Option Frame) → Walker (Option Frame)

/-- The frame of a call whose arguments are known. The problems hold no long numbers: signatures
name columns by texts, and no type that a script writes has numbers in it. -/
def functionCall (helper : HelperCall) (info : FunctionInfo) (arguments : List (Option Frame)) :
    Walker (Option Frame) :=
  match info.signature with
  | some signature => do
    Walker.note (callProblems signature 0 arguments)
    return signature.returns
  | none => helper info arguments

mutual

def infer (registry : Registry) (helper : HelperCall) : Expr → Walker (Option Frame)
  | .name identifier => do
    return (← get).frames.get? identifier
  | .call (.name function) arguments _ =>
    match registry.get? function with
    | some info => do functionCall helper info (← inferAll registry helper arguments)
    | none => return none
  | .call (.attribute (.call (.attribute grouped "group_by") keys _) "agg") items _ => do
    match ← infer registry helper grouped with
    | some frame => aggregateCall frame keys items
    | none => return none
  | .call (.attribute _ "agg") _ _ => return none
  | .call (.attribute receiver "join") (right :: _) keywords => do
    match ← infer registry helper receiver with
    | some left =>
      match ← infer registry helper right with
      | some right => joinCall left right keywords
      | none => return none
    | none => return none
  | .call (.attribute receiver method) arguments _ => do
    match ← infer registry helper receiver with
    | some frame =>
      if method = "select" then selectCall frame arguments
      else if method = "with_columns" then withColumnsCall frame arguments
      else return none
    | none => return none
  | _ => return none

def inferAll (registry : Registry) (helper : HelperCall) :
    List Expr → Walker (List (Option Frame))
  | [] => return []
  | first :: rest => do
    let frame ← infer registry helper first
    return frame :: (← inferAll registry helper rest)

end

/-! Statements. -/

mutual

def walkStatement (registry : Registry) (helper : HelperCall) : Stmt → Walker Unit
  | .returning (some value) => do
    let frame ← infer registry helper value
    modify fun walk => { walk with returned := frame }
  | .returning none => pure ()
  | .assign [.name target] value => do
    Walker.assign target (← infer registry helper value)
  | .assign _ _ => pure ()
  | .annotated (.name target) hint value =>
    match declaredFrame? hint, value with
    | some frame, _ => Walker.setVariable target frame
    | none, some value => do Walker.assign target (← infer registry helper value)
    | none, none => pure ()
  | .annotated _ _ _ => pure ()
  | .plain _ _ => pure ()
  | .function _ _ body => walkBlock registry helper body
  | .classDefinition _ _ _ _ body => walkBlock registry helper body
  | .conditional _ body alternative => do
    walkBlock registry helper body
    walkBlock registry helper alternative
  | .whileLoop _ body alternative => do
    walkBlock registry helper body
    walkBlock registry helper alternative
  | .forLoop _ _ _ body alternative => do
    walkBlock registry helper body
    walkBlock registry helper alternative
  | .withBlock _ _ body => walkBlock registry helper body
  | .tryBlock body handlers alternative finalizer => do
    walkBlock registry helper body
    walkClauses registry helper handlers
    walkBlock registry helper alternative
    walkBlock registry helper finalizer
  | .matchBlock _ cases => walkClauses registry helper cases

def walkBlock (registry : Registry) (helper : HelperCall) : List Stmt → Walker Unit
  | [] => pure ()
  | first :: rest => do
    walkStatement registry helper first
    walkBlock registry helper rest

def walkClause (registry : Registry) (helper : HelperCall) : Clause → Walker Unit
  | .mk _ body => walkBlock registry helper body

def walkClauses (registry : Registry) (helper : HelperCall) : List Clause → Walker Unit
  | [] => pure ()
  | first :: rest => do
    walkClause registry helper first
    walkClauses registry helper rest

end

/-! Calls of functions without a signature. -/

def bindArguments (parameters : List Parameter) (arguments : List (Option Frame)) :
    Table Text Frame :=
  Table.ofList <| (parameters.zip arguments).filterMap fun (parameter, argument) =>
    argument.map fun frame => (parameter.name, frame)

/-- Arguments are told apart by their columns in order, so labels must have one. -/
def ordered (arguments : List (Option Frame)) : Bool :=
  arguments.all fun argument => (argument.map Frame.names).all Literal.sortable

/-- Walk through the body of a called function and remember what it returns. Its problems
are its own, and so are its variables. -/
def enter (registry : Registry) (helper : HelperCall) : HelperCall := fun info arguments outer =>
  let definition := info.definition
  let start : Walk :=
    { frames := bindArguments definition.regularParameters arguments, memo := outer.memo }
  match walkBlock registry helper definition.body start with
  | .error fault inner => .error fault { outer with memo := inner.memo }
  | .ok _ inner =>
    let memo := match inner.returned with
      | some frame => inner.memo.remember definition.name arguments frame
      | none => inner.memo
    .ok inner.returned { outer with memo := memo }

/-- Answer a call: by a result that is remembered, or else through the body of the function.
At most `depth` calls are inside each other. -/
def callHelper (registry : Registry) : (depth : Nat) → HelperCall
  | 0 => fun _ _ => throw .endlessCalls
  | depth + 1 => fun info arguments => do
    if !ordered arguments then throw .unorderedLabels
    match (← get).memo.find? info.definition.name arguments with
    | some frame => return some frame
    | none => enter registry (callHelper registry depth) info arguments

/-- How deep calls may be inside each other. Without a cycle among the functions of the
registry they never are deeper than their number; the surplus allows for cycles that end. -/
def callLimit (registry : Registry) : Nat :=
  registry.size + 150

def inferExpression (registry : Registry) (expression : Expr) : Walker (Option Frame) :=
  infer registry (callHelper registry (callLimit registry)) expression

def walkStatements (registry : Registry) (statements : List Stmt) : Walker Unit :=
  walkBlock registry (callHelper registry (callLimit registry)) statements

end FrameCheck.Analysis
