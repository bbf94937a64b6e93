import FrameCheck.Analysis.Walk
import FrameCheck.Syntax.StmtGrammar

/-!
The analysis of a script: all its functions are registered first, so that calls may come
before definitions; then those with a frame in their hints are analysed, in order.
-/

namespace FrameCheck.Analysis

open Syntax

inductive ScriptError where
  | unread (error : ReadError)
  | fault (fault : Fault)
deriving DecidableEq, Repr

def ScriptError.message : ScriptError → Text
  | .unread error => error.message
  | .fault .endlessCalls => "maximum recursion depth exceeded"
  | .fault .unorderedLabels => "column labels have no order"
  | .fault .longNumber =>
    "Exceeds the limit (" ++ toString Literal.wholeDigitLimit ++ " digits) for integer string " ++
      "conversion; use sys.set_int_max_str_digits() to increase the limit"

structure Declarations where
  inputs : Table Text Frame := .empty
  returns : Option Frame := none
  problems : List Problem := []
  /-- Whether some hint holds a schema, readable or not. -/
  isHinted : Bool := false

def declareParameter (declarations : Declarations) (parameter : Parameter) : Declarations :=
  match parameter.hint.bind hintedFrame? with
  | none => declarations
  | some (.ok frame) =>
    { declarations with
      inputs := declarations.inputs.insert parameter.name frame, isHinted := true }
  | some (.error error) =>
    { declarations with
      problems := declarations.problems ++ [.parameterSchema parameter.name error],
      isHinted := true }

def declareReturn (declarations : Declarations) (returns : Option Expr) : Declarations :=
  match returns.bind hintedFrame? with
  | none => declarations
  | some (.ok frame) => { declarations with returns := some frame, isHinted := true }
  | some (.error error) =>
    { declarations with
      problems := declarations.problems ++ [.returnSchema error], isHinted := true }

def declarations (definition : FunctionDefinition) : Declarations :=
  declareReturn (definition.regularParameters.foldl declareParameter {}) definition.header.returns

def analyzeFunction (registry : Registry) (helper : HelperCall)
    (definition : FunctionDefinition) (memo : Memo) : Except Fault (Option Summary × Memo) :=
  let declared := declarations definition
  if !declared.isHinted then .ok (none, memo)
  else
    let start : Walk :=
      { frames := declared.inputs, problems := declared.problems, memo := memo }
    match walkBlock registry helper definition.body start with
    | .error fault _ => .error fault
    | .ok _ walk =>
      let summary : Summary :=
        { name := definition.name
          line := definition.line
          inputs := declared.inputs
          declared := declared.returns
          inferred := walk.returned
          problems := walk.problems }
      .ok (some summary, walk.memo)

/-- The analyses of functions, each with the results remembered from those before it. -/
def analyzeAll (registry : Registry) (helper : HelperCall) :
    List FunctionDefinition → Memo → Except Fault (List Summary)
  | [], _ => .ok []
  | definition :: rest, memo => do
    let (summary, memo) ← analyzeFunction registry helper definition memo
    return summary.toList ++ (← analyzeAll registry helper rest memo)

def analyzeStatements (statements : List Stmt) : Except Fault (List Summary) :=
  let definitions := functionsOf statements
  let registry := Registry.ofDefinitions definitions
  analyzeAll registry (callHelper registry (callLimit registry)) definitions .empty

def analyzeScript (text : Text) : Except ScriptError (List Summary) := do
  let statements ← (parseStatements text).mapError .unread
  (analyzeStatements statements).mapError .fault

end FrameCheck.Analysis
