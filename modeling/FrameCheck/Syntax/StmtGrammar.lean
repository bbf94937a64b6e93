import FrameCheck.Syntax.ExprGrammar

/-!
The grammar of statements. Blocks are read by a parser that is handed in, one nesting
deeper.
-/

namespace FrameCheck.Syntax

namespace StmtGrammar

open FrameCheck.Syntax.Parser ExprGrammar

/-! Statements on one line. -/

def assigned (inner : Inner) : Parser Expr := do
  if ← nextKeyword ["yield"] then yielding inner else inner .starred

def augmentedSigns : List String :=
  ["+=", "-=", "*=", "@=", "/=", "%=", "&=", "|=", "^=", "<<=", ">>=", "**=", "//="]

def groupedPlace (inner : Inner) : Parser Unit := do
  symbol "("
  let value ← inner .expression
  symbol ")"
  if value.isPlace then return else failure

/-- Whether the target that was read from `start` on can take a hint: it is one place, and if
it begins with a place in parentheses, then it ends with them. -/
def isHintTarget (inner : Inner) (start : TokenStream) (target : Expr) : Parser Bool := do
  let current ← get
  match (groupedPlace inner).run start with
  | some (_, rest) => return rest.tokens.length == current.tokens.length
  | none => return target.isPlace

def assignment (inner : Inner) : Parser Stmt := do
  let start ← get
  let first ← assigned inner
  if ← nextSymbol [":"] then
    if !(← isHintTarget inner start first) then failure
    symbol ":"
    let hint ← inner .expression
    let value ← if ← symbol? "=" then pure (some (← assigned inner)) else pure none
    return .annotated first hint value
  if ← nextSymbol augmentedSigns then
    if !first.isPlace then failure
    advance
    return .plain .augmentedAssignment [first, ← assigned inner]
  let others ← repeated do
    if ← symbol? "=" then return some (← assigned inner) else return none
  match others.getLast? with
  | none => return .plain .expression [first]
  | some value =>
    let targets := first :: others.dropLast
    if areTargets targets then return .assign targets value else failure

def dottedName : Parser Expr := do
  let first ← identifier
  let others ← repeated do
    if ← symbol? "." then return some (← identifier) else return none
  return others.foldl Expr.attribute (.name first)

def importAlias : Parser Unit := do
  if ← keyword? "as" then
    let _ ← identifier

def importStatement : Parser Stmt := do
  let names ← commaSeparated do
    let name ← dottedName
    importAlias
    return name
  return .plain .importing names

def importedName : Parser Expr := do
  let name ← identifier
  importAlias
  return .name name

def fromStatement : Parser Stmt := do
  let dots ← repeated do
    if ← symbol? "." then return some ()
    else if ← symbol? "..." then return some ()
    else return none
  let origin ← if (← next isName) then pure [← dottedName] else pure []
  if dots.isEmpty && origin.isEmpty then failure
  keyword "import"
  if ← symbol? "*" then return .plain .importing origin
  if ← symbol? "(" then
    let (names, _) ← commaList importedName (nextSymbol [")"])
    symbol ")"
    return .plain .importing (origin ++ names)
  return .plain .importing (origin ++ (← commaSeparated importedName))

def deleteStatement (inner : Inner) : Parser Stmt := do
  let target ← inner .starred
  if target.isDeletable then return .plain .delete [target] else failure

def raiseStatement (inner : Inner) : Parser Stmt := do
  if ← next (fun | .newline => true | .symbol ";" => true | _ => false) then
    return .plain .raise []
  let exception ← inner .expression
  if ← keyword? "from" then return .plain .raise [exception, ← inner .expression]
  return .plain .raise [exception]

def assertStatement (inner : Inner) : Parser Stmt := do
  let test ← inner .expression
  if ← symbol? "," then return .plain .assertion [test, ← inner .expression]
  return .plain .assertion [test]

def returnStatement (inner : Inner) : Parser Stmt := do
  if ← next (fun | .newline => true | .symbol ";" => true | _ => false) then
    return .returning none
  return .returning (some (← inner .starred))

def nameList (kind : PlainStatement) : Parser Stmt := do
  return .plain kind ((← commaSeparated identifier).map .name)

def simpleStatement (inner : Inner) : Parser Stmt := do
  match ← peek with
  | some (.keyword word) =>
    match word with
    | "return" => advance; returnStatement inner
    | "import" => advance; importStatement
    | "from" => advance; fromStatement
    | "raise" => advance; raiseStatement inner
    | "pass" => advance; return .plain .pass []
    | "del" => advance; deleteStatement inner
    | "assert" => advance; assertStatement inner
    | "break" => advance; return .plain .breaking []
    | "continue" => advance; return .plain .continuing []
    | "global" => advance; nameList .globals
    | "nonlocal" => advance; nameList .nonlocals
    | _ => assignment inner
  | _ => assignment inner

def simpleStatements (inner : Inner) : Parser (List Stmt) := do
  let first ← simpleStatement inner
  let others ← repeated do
    if ← symbol? ";" then
      if ← next isNewline then return some none else return some (some (← simpleStatement inner))
    else return none
  expect isNewline
  return first :: others.filterMap id

/-! Patterns of cases. -/

/-- A pattern: names that it binds, values that it compares with, and patterns inside it are
its parts. -/
def pattern (parts : List Expr) : Expr := .compound .pattern parts

def numberPattern : Parser Expr := do
  let _ ← symbol? "-"
  match ← peek with
  | some (.number first) =>
    advance
    if ← nextSymbol ["+", "-"] then
      match first with
      | .imaginary _ => failure
      | _ => pure ()
      advance
      match ← peek with
      | some (.number (.imaginary second)) =>
        advance
        return pattern [.literal first, .literal (.imaginary second)]
      | _ => failure
    else return pattern [.literal first]
  | _ => failure

def constantPattern (inner : Inner) : Parser Expr := do
  match ← peek with
  | some (.text token) =>
    advance
    return pattern [← textLiteral inner token]
  | some (.keyword "None") => advance; return pattern [.literal .none]
  | some (.keyword "True") => advance; return pattern [.literal (.bool true)]
  | some (.keyword "False") => advance; return pattern [.literal (.bool false)]
  | _ => numberPattern

def wildcard : String := "_"

def captureName : Parser String := do
  let name ← identifier
  if name == wildcard then failure else return name

structure InnerPattern where
  whole : Parser Expr

def starPattern? : Parser (Option Expr) := do
  if ← symbol? "*" then return some (.starred (.name (← identifier))) else return none

def sequenceItem (deeper : InnerPattern) : Parser Expr := do
  match ← starPattern? with
  | some item => return item
  | none => deeper.whole

def sequenceRest (deeper : InnerPattern) (closing : String) : Parser Expr := do
  if ← symbol? closing then return pattern []
  let (items, hasComma) ← commaList (sequenceItem deeper) (nextSymbol [closing])
  symbol closing
  match items, hasComma, closing with
  | [.starred _], false, ")" => failure
  | [single], false, ")" => return single
  | items, _, _ => return pattern items

def mappingKey (inner : Inner) : Parser Expr := do
  if ← next isName then
    let name ← dottedName
    match name with
    | .attribute _ _ => return name
    | _ => failure
  else constantPattern inner

def mappingItem (inner : Inner) (deeper : InnerPattern) : Parser (Bool × List Expr) := do
  if ← symbol? "**" then return (true, [.starred (.name (← captureName))])
  let key ← mappingKey inner
  symbol ":"
  return (false, [key, ← deeper.whole])

def mappingRest (inner : Inner) (deeper : InnerPattern) : Parser Expr := do
  if ← symbol? "\x7d" then return pattern []
  let (items, _) ← commaList (mappingItem inner deeper) (nextSymbol ["\x7d"])
  symbol "\x7d"
  if items.dropLast.any (·.1) then failure
  return pattern (items.map (·.2)).flatten

def classItem (deeper : InnerPattern) : Parser (Option String × Expr) :=
  (do
    let keyword ← identifier
    symbol "="
    return (some keyword, ← deeper.whole)) <|>
  (do return (none, ← deeper.whole))

/-- Arguments with keywords come after those without. The wildcard is a keyword, but not
right after an argument without one. -/
def keywordsLast : List (Option String) → Bool
  | [] => true
  | none :: rest => rest.head? != some (some wildcard) && keywordsLast rest
  | some _ :: rest => rest.all Option.isSome

def classRest (deeper : InnerPattern) (name : Expr) : Parser Expr := do
  if ← symbol? ")" then return pattern [name]
  let (items, _) ← commaList (classItem deeper) (nextSymbol [")"])
  symbol ")"
  if keywordsLast (items.map (·.1)) then return pattern (name :: items.map (·.2)) else failure

def closedPattern (inner : Inner) (deeper : InnerPattern) : Parser Expr := do
  match ← peek with
  | some (.name first _) =>
    let name ← if first == wildcard then (.name <$> identifier) else dottedName
    if first == wildcard then return pattern [name]
    else if ← symbol? "(" then classRest deeper name
    else if ← nextSymbol ["="] then failure
    else return pattern [name]
  | some (.symbol "(") =>
    advance
    sequenceRest deeper ")"
  | some (.symbol "[") =>
    advance
    sequenceRest deeper "]"
  | some (.symbol "\x7b") =>
    advance
    mappingRest inner deeper
  | _ => constantPattern inner

def wholePattern (inner : Inner) (deeper : InnerPattern) : Parser Expr := do
  let first ← closedPattern inner deeper
  let others ← repeated do
    if ← symbol? "|" then return some (← closedPattern inner deeper) else return none
  let matched := if others.isEmpty then first else pattern (first :: others)
  if ← keyword? "as" then return pattern [matched, .name (← captureName)]
  return matched

def patternsWithin (inner : Inner) : (depth : Nat) → InnerPattern
  | 0 => ⟨failure⟩
  | depth + 1 => ⟨fun stream => wholePattern inner (patternsWithin inner depth) stream⟩

def casePattern (inner : Inner) : Parser Expr := do
  let deeper := patternsWithin inner bracketLimit
  let (items, hasComma) ← commaList (sequenceItem deeper)
    (next fun | .symbol ":" => true | .keyword "if" => true | _ => false)
  match items, hasComma with
  | [.starred _], false => failure
  | [single], false => return single
  | items, _ => return pattern items

/-! Statements with blocks. -/

abbrev Block := Parser (List Stmt)

def colonBlock (block : Block) : Parser (List Stmt) := do
  symbol ":"
  block

def alternative? (block : Block) : Parser (List Stmt) := do
  if ← keyword? "else" then colonBlock block else return []

def conditionalStatement (inner : Inner) (block : Block) : Parser Stmt := do
  let test ← inner .named
  let body ← colonBlock block
  let others ← repeated do
    if ← keyword? "elif" then
      let test ← inner .named
      return some (test, ← colonBlock block)
    else return none
  let final ← alternative? block
  let rest := others.foldr (fun (test, body) rest => [Stmt.conditional test body rest]) final
  return .conditional test body rest

def whileStatement (inner : Inner) (block : Block) : Parser Stmt := do
  let test ← inner .named
  let body ← colonBlock block
  return .whileLoop test body (← alternative? block)

def forStatement (inner : Inner) (block : Block) (isAsync : Bool) : Parser Stmt := do
  let target ← loopTargets inner
  keyword "in"
  let iterable ← inner .starred
  let body ← colonBlock block
  return .forLoop isAsync target iterable body (← alternative? block)

def withItem (inner : Inner) : Parser (List Expr) := do
  let context ← inner .expression
  if ← keyword? "as" then
    let target ← if ← symbol? "*" then pure (.starred (← inner .bitwise)) else inner .bitwise
    if target.isTarget then return [context, target] else failure
  return [context]

def withStatement (inner : Inner) (block : Block) (isAsync : Bool) : Parser Stmt := do
  let inParentheses : Parser (List (List Expr)) := do
    symbol "("
    let (items, _) ← commaList (withItem inner) (nextSymbol [")"])
    symbol ")"
    if ← nextSymbol [":"] then return items else failure
  let items ← inParentheses <|> commaSeparated (withItem inner)
  return .withBlock isAsync items.flatten (← colonBlock block)

def handler? (inner : Inner) (block : Block) : Parser (Option (Bool × Clause)) := do
  if ← keyword? "except" then
    let isGroup ← symbol? "*"
    if (← nextSymbol [":"]) && !isGroup then return some (false, .mk [] (← colonBlock block))
    let kind ← inner .expression
    if ← keyword? "as" then
      let _ ← identifier
    return some (isGroup, .mk [kind] (← colonBlock block))
  else return none

def tryStatement (inner : Inner) (block : Block) : Parser Stmt := do
  let body ← colonBlock block
  let handlers ← repeated (handler? inner block)
  if handlers.any (·.1) && handlers.any (!·.1) then failure
  let alternative ← if handlers.isEmpty then pure [] else alternative? block
  let hasFinalizer ← keyword? "finally"
  if handlers.isEmpty && !hasFinalizer then failure
  let finalizer ← if hasFinalizer then colonBlock block else pure []
  return .tryBlock body (handlers.map (·.2)) alternative finalizer

def functionStatement (inner : Inner) (block : Block) (isAsync : Bool) (decorators : List Expr) :
    Parser Stmt := do
  let line ← line
  keyword "def"
  let name ← identifier
  symbol "("
  let parameters ← parameterList inner true ")"
  symbol ")"
  let returns ← if ← symbol? "->" then pure (some (← inner .expression)) else pure none
  let header := { name, line, parameters, returns, decorators }
  return .function isAsync header (← colonBlock block)

def classStatement (inner : Inner) (block : Block) (decorators : List Expr) : Parser Stmt := do
  let name ← identifier
  let (bases, keywords) ← if ← symbol? "(" then plainArguments inner else pure ([], [])
  return .classDefinition name bases keywords decorators (← colonBlock block)

def case? (inner : Inner) (block : Block) : Parser (Option Clause) := do
  if ← accept (isWord "case") then
    let matched ← casePattern inner
    let guards ← if ← keyword? "if" then pure [← inner .named] else pure []
    return some (.mk (matched :: guards) (← colonBlock block))
  else return none

def matchStatement (inner : Inner) (block : Block) : Parser Stmt := do
  expect (isWord "match")
  let (items, hasComma) ← commaList (element inner) (nextSymbol [":"])
  let subject ← match items, hasComma with
    | [.starred _], false => failure
    | [single], false => pure single
    | items, _ => pure (.tuple items)
  symbol ":"
  expect isNewline
  expect isIndent
  let cases ← repeated (case? inner block)
  if cases.isEmpty then failure
  expect isDedent
  return .matchBlock subject cases

def asyncStatement (inner : Inner) (block : Block) (decorators : List Expr) : Parser Stmt := do
  if ← nextKeyword ["def"] then functionStatement inner block true decorators
  else if !decorators.isEmpty then failure
  else if ← keyword? "for" then forStatement inner block true
  else do
    keyword "with"
    withStatement inner block true

def decorated (inner : Inner) (block : Block) : Parser Stmt := do
  let decorators ← repeated do
    if ← symbol? "@" then
      let value ← inner .named
      expect isNewline
      return some value
    else return none
  if ← nextKeyword ["def"] then functionStatement inner block false decorators
  else if ← keyword? "class" then classStatement inner block decorators
  else do
    keyword "async"
    asyncStatement inner block decorators

def statement (inner : Inner) (block : Block) : Parser (List Stmt) := do
  let one (parser : Parser Stmt) : Parser (List Stmt) := do return [← parser]
  match ← peek with
  | some (.keyword word) =>
    match word with
    | "def" => one (functionStatement inner block false [])
    | "if" => advance; one (conditionalStatement inner block)
    | "class" => advance; one (classStatement inner block [])
    | "async" => advance; one (asyncStatement inner block [])
    | "with" => advance; one (withStatement inner block false)
    | "for" => advance; one (forStatement inner block false)
    | "try" => advance; one (tryStatement inner block)
    | "while" => advance; one (whileStatement inner block)
    | _ => simpleStatements inner
  | some (.symbol "@") => one (decorated inner block)
  | some (.name "match" _) => one (matchStatement inner block) <|> simpleStatements inner
  | _ => simpleStatements inner

def statements (inner : Inner) (block : Block) : Parser (List Stmt) := do
  let groups ← repeated do
    match ← peek with
    | none => return none
    | some .dedent => return none
    | some _ => return some (← statement inner block)
  return groups.flatten

/-- Blocks nested at most `depth` levels deep: statements on further lines, or on the rest
of the line. -/
def blocksWithin (inner : Inner) : (depth : Nat) → Block
  | 0 => failure
  | depth + 1 => do
    if ← accept isNewline then
      expect isIndent
      let body ← statements inner (blocksWithin inner depth)
      expect isDedent
      if body.isEmpty then failure else return body
    else simpleStatements inner

end StmtGrammar

def parseStatements (text : Text) : Except ReadError (List Stmt) :=
  let inner := ExprGrammar.within (text.length + 1)
  let block := StmtGrammar.blocksWithin inner (blockLimit + 1)
  Parser.readText text scriptTokens (StmtGrammar.statements inner block)

end FrameCheck.Syntax
