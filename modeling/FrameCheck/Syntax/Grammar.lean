import FrameCheck.Syntax.Expr
import FrameCheck.Syntax.Token

/-!
Parsers over tokens. A parser takes tokens from the front of the list, or fails; a choice
between parsers starts each of them at the same place.
-/

namespace FrameCheck.Syntax

inductive ReadError where
  /-- Halves of surrogate pairs stand outside of escapes, at a position and `count - 1` after
  it. -/
  | surrogates (first : CodePoint) (position count : Nat)
  | nullCharacter
  | malformed
deriving DecidableEq, Repr

def ReadError.message : ReadError → Text
  | .surrogates first position count =>
    let place := toString position
    "'utf-8' codec can't encode character" ++
      (if count ≤ 1 then " " ++ Text.quoted (.ofPoint first) ++ " in position " ++ place
        else "s in position " ++ place ++ "-" ++ toString (position + count - 1)) ++
      ": surrogates not allowed"
  | .nullCharacter => "source code string cannot contain null bytes"
  | .malformed => "<syntax error>"

structure TokenStream where
  tokens : List Token
  bound : Nat

abbrev Parser := StateT TokenStream Option

namespace Parser

def peek : Parser (Option TokenKind) := do
  return (← get).tokens.head?.map Token.kind

def advance : Parser Unit :=
  modify fun stream => { stream with tokens := stream.tokens.drop 1 }

def line : Parser Nat := do
  return ((← get).tokens.head?.map Token.line).getD 0

def accept (accepted : TokenKind → Bool) : Parser Bool := do
  match ← peek with
  | some kind =>
    if accepted kind then
      advance
      return true
    else return false
  | none => return false

def isSymbol (text : String) : TokenKind → Bool
  | .symbol other => other == text
  | _ => false

def isKeyword (text : String) : TokenKind → Bool
  | .keyword other => other == text
  | _ => false

/-- A word that is a name elsewhere. Other spellings of the name do not count. -/
def isWord (text : String) : TokenKind → Bool
  | .name other true => other == text
  | _ => false

def isName : TokenKind → Bool
  | .name _ _ => true
  | _ => false

def isNewline : TokenKind → Bool
  | .newline => true
  | _ => false

def isIndent : TokenKind → Bool
  | .indent => true
  | _ => false

def isDedent : TokenKind → Bool
  | .dedent => true
  | _ => false

def expect (accepted : TokenKind → Bool) : Parser Unit := do
  if ← accept accepted then return else failure

def symbol? (text : String) : Parser Bool := accept (isSymbol text)

def symbol (text : String) : Parser Unit := expect (isSymbol text)

def keyword? (text : String) : Parser Bool := accept (isKeyword text)

def keyword (text : String) : Parser Unit := expect (isKeyword text)

def next (accepted : TokenKind → Bool) : Parser Bool := do
  return (← peek).any accepted

def nextSymbol (texts : List String) : Parser Bool :=
  next fun
    | .symbol text => texts.contains text
    | _ => false

def nextKeyword (texts : List String) : Parser Bool :=
  next fun
    | .keyword text => texts.contains text
    | _ => false

def identifier : Parser String := do
  match ← peek with
  | some (.name text _) =>
    advance
    return text
  | _ => failure

/-- Repeat a parser until it yields nothing; `steps` bounds the repetitions. -/
def repeatFrom (item : Parser (Option α)) : (steps : Nat) → Parser (List α)
  | 0 => return []
  | steps + 1 => do
    match ← item with
    | some value => return value :: (← repeatFrom item steps)
    | none => return []

def repeated (item : Parser (Option α)) : Parser (List α) := do
  repeatFrom item ((← get).bound + 1)

def commaSeparated (item : Parser α) : Parser (List α) := do
  let first ← item
  let others ← repeated do
    if ← symbol? "," then return some (← item) else return none
  return first :: others

/-- One or more items with commas between them and perhaps after them; `stops` tells that no
item follows. Also whether there was a comma at all. -/
def commaList (item : Parser α) (stops : Parser Bool) : Parser (List α × Bool) := do
  let first ← item
  let others ← repeated do
    if ← symbol? "," then
      if ← stops then return some none else return some (some (← item))
    else return none
  return (first :: others.filterMap id, !others.isEmpty)

def leftGrouped (operand : Parser Expr) (operators : List (String × BinaryOperator)) :
    Parser Expr := do
  let first ← operand
  let others ← repeated do
    match ← peek with
    | some (.symbol text) =>
      match operators.lookup text with
      | some operator =>
        advance
        return some (operator, ← operand)
      | none => return none
    | _ => return none
  return others.foldl (fun left (operator, right) => .binary left operator right) first

def readText (text : Text) (tokens : List Char → Option (List Token)) (parser : Parser α) :
    Except ReadError α :=
  match text.points.dropWhile fun point => !point.isSurrogate with
  | first :: rest =>
    let others := rest.takeWhile CodePoint.isSurrogate
    .error (.surrogates first (text.length - rest.length - 1) (others.length + 1))
  | [] =>
    let chars := text.points.filterMap CodePoint.char?
    if chars.contains (Char.ofNat 0) then .error .nullCharacter
    else
      match value chars with
      | some value => .ok value
      | none => .error .malformed
where
  value (chars : List Char) : Option α := do
    let tokens ← tokens chars
    let (value, rest) ← parser.run ⟨tokens, tokens.length⟩
    if rest.tokens.isEmpty then some value else none

end Parser

end FrameCheck.Syntax
