import FrameCheck.Text.Basic

/-! Why a schema text is refused. -/

namespace FrameCheck.Schema

inductive Subject where
  | type
  | schema
deriving DecidableEq, Repr

def Subject.name : Subject → String
  | .type => "type"
  | .schema => "schema"

inductive Error where
  /-- The text ends where more of it was expected; the caller may have named what. -/
  | unexpectedEnd (expected : Option Text)
  | unexpectedChar (expected : Text) (found : CodePoint) (position : Nat)
  | expectedIdentifier (position : Nat)
  | unknownType (name : Text)
  | trailing (subject : Subject) (rest : Text)
  | tooDeep
deriving DecidableEq, Repr

def Error.message : Error → Text
  | .unexpectedEnd expected =>
    "Unexpected end of input, expected " ++ expected.getD (.ofString "None")
  | .unexpectedChar expected found position =>
    "Expected '" ++ expected ++ "', got '" ++ Text.ofPoint found ++ "' at position " ++
      toString position
  | .expectedIdentifier position => "Expected identifier at position " ++ toString position
  | .unknownType name => "Unknown type: " ++ name
  | .trailing subject rest => "Unexpected characters after " ++ subject.name ++ ": " ++ rest
  | .tooDeep => "Failed to parse schema: <too deep>"

end FrameCheck.Schema
