import FrameCheck.Schema.Reader
import FrameCheck.Syntax.Stmt

/-!
The functions of a script by name, with the signatures that type hints of the form
`DF["schema"]` give them.
-/

namespace FrameCheck.Analysis

open Syntax

/-- The schema text of a hint; an empty one counts as none. -/
def schemaText? : Expr → Option Text
  | .subscript (.name "DF") (.literal (.text schema)) =>
    if schema.isEmpty then none else some schema
  | _ => none

def hintedFrame? (hint : Expr) : Option (Except Schema.Error Frame) :=
  (schemaText? hint).map Schema.parseSchema

def declaredFrame? (hint : Expr) : Option Frame :=
  match hintedFrame? hint with
  | some (.ok frame) => some frame
  | _ => none

structure Signature where
  name : Text
  line : Nat
  parameters : Table Text (Nat × Frame) := .empty
  returns : Option Frame := none

def Signature.parameterAt? (signature : Signature) (position : Nat) : Option (Text × Frame) :=
  signature.parameters.entries.findSome? fun (name, index, frame) =>
    if index = position then some (name, frame) else none

def declaredParameters (definition : FunctionDefinition) : Table Text (Nat × Frame) :=
  Table.ofList <| definition.regularParameters.zipIdx.filterMap fun (parameter, position) => do
    let frame ← declaredFrame? (← parameter.hint)
    return (parameter.name, position, frame)

def signature? (definition : FunctionDefinition) : Option Signature :=
  let parameters := declaredParameters definition
  let returns := definition.header.returns.bind declaredFrame?
  if parameters.isEmpty && returns.isNone then none
  else some { name := definition.name, line := definition.line, parameters, returns }

structure FunctionInfo where
  definition : FunctionDefinition
  signature : Option Signature

/-- Functions by name; the last definition of a name counts. -/
abbrev Registry := Table Text FunctionInfo

namespace Registry

def register (registry : Registry) (definition : FunctionDefinition) : Registry :=
  registry.insert definition.name ⟨definition, signature? definition⟩

def ofDefinitions (definitions : List FunctionDefinition) : Registry :=
  definitions.foldl register .empty

def hasSignature (registry : Registry) (name : Text) : Bool :=
  (registry.get? name).any fun info => info.signature.isSome

end Registry

end FrameCheck.Analysis
