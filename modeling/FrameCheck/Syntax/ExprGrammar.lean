import FrameCheck.Syntax.Grammar
import FrameCheck.Syntax.Scanner
import FrameCheck.Syntax.Stmt

/-!
The grammar of expressions. Each level of precedence is a parser of its own that is built
from the next one; what stands inside brackets or after an operator on the left is read by
a parser that is handed in, one nesting deeper.
-/

namespace FrameCheck.Syntax

inductive Rule where
  | expression
  | named
  | starred
  | disjunction
  | inversion
  | bitwise
  | factor
deriving DecidableEq, Repr

abbrev Inner := Rule → Parser Expr

namespace ExprGrammar

open FrameCheck.Syntax.Parser

/-! Literals. -/

inductive TextValue where
  | text (value : Text)
  | bytes (value : List UInt8)
  | formatted (expressions : List (List Char))

def textValue (token : TextToken) : Option TextValue :=
  if token.isFormatted then (formattedExpressions token.isRaw token.body).map .formatted
  else if token.isBytes then (decodeBytes token.isRaw token.body).map .bytes
  else (decodeText token.isRaw token.body).map .text

def TextValue.append : TextValue → TextValue → Option TextValue
  | .text left, .text right => some (.text (left ++ right))
  | .bytes left, .bytes right => some (.bytes (left ++ right))
  | .formatted left, .formatted right => some (.formatted (left ++ right))
  | .formatted left, .text _ => some (.formatted left)
  | .text _, .formatted right => some (.formatted right)
  | .bytes _, .text _ | .bytes _, .formatted _ => none
  | .text _, .bytes _ | .formatted _, .bytes _ => none

def textToken? : Parser (Option TextToken) := do
  match ← peek with
  | some (.text token) =>
    advance
    return some token
  | _ => return none

/-- An expression inside a formatted text, read as if it stood in parentheses. -/
def embedded (inner : Inner) (chars : List Char) : Parser Expr := do
  let outer ← get
  match scriptTokens (('(' :: chars) ++ [')']) with
  | none => failure
  | some tokens =>
    set (TokenStream.mk tokens tokens.length)
    let value ← inner .starred
    let _ ← repeated do
      if ← accept isNewline then return some () else return none
    if (← peek).isSome then failure
    set outer
    return value

def textLiteral (inner : Inner) (first : TextToken) : Parser Expr := do
  let others ← repeated textToken?
  let value ← (textValue first).bind fun start =>
    others.foldlM (fun value token => (textValue token).bind value.append) start
  match value with
  | .text value => return .literal (.text value)
  | .bytes value => return .literal (.bytes value)
  | .formatted expressions => return .compound .formatted (← expressions.mapM (embedded inner))

/-! Comprehensions. -/

def loopTargets (inner : Inner) : Parser Expr := do
  let item : Parser Expr := do
    if ← symbol? "*" then return .starred (← inner .bitwise) else inner .bitwise
  let (items, hasComma) ← commaList item (nextKeyword ["in"])
  let target ← match items, hasComma with
    | [single], false => pure single
    | items, _ => pure (.tuple items)
  if target.isTarget then return target else failure

def comprehensionLoop? (inner : Inner) : Parser (Option (List Expr)) := do
  let isAsync ← keyword? "async"
  if ← keyword? "for" then
    let target ← loopTargets inner
    keyword "in"
    let iterable ← inner .disjunction
    let conditions ← repeated do
      if ← keyword? "if" then return some (← inner .disjunction) else return none
    return some (target :: iterable :: conditions)
  else if isAsync then failure
  else return none

def nextLoop : Parser Bool := nextKeyword ["for", "async"]

def comprehension (inner : Inner) (elements : List Expr) : Parser Expr := do
  let loops ← repeated (comprehensionLoop? inner)
  if loops.isEmpty then failure
  return .compound .comprehension (elements ++ loops.flatten)

/-! Brackets. -/

def yielding (inner : Inner) : Parser Expr := do
  keyword "yield"
  if ← keyword? "from" then return .compound .yielding [← inner .expression]
  let stops ← next fun
    | .symbol text => [")", "]", "\x7d", "=", ":", ";"].contains text
    | .newline => true
    | _ => false
  if stops then return .compound .yielding []
  return .compound .yielding [← inner .starred]

def element (inner : Inner) : Parser Expr := do
  if ← symbol? "*" then return .starred (← inner .bitwise) else inner .named

def isStarred : Expr → Bool
  | .starred _ => true
  | _ => false

def parenthesized (inner : Inner) : Parser Expr := do
  if ← symbol? ")" then return .tuple []
  if ← nextKeyword ["yield"] then
    let value ← yielding inner
    symbol ")"
    return value
  let first ← element inner
  if ← nextLoop then
    if isStarred first then failure
    let value ← comprehension inner [first]
    symbol ")"
    return value
  if ← symbol? ")" then
    if isStarred first then failure
    return first
  symbol ","
  if ← symbol? ")" then return .tuple [first]
  let (others, _) ← commaList (element inner) (nextSymbol [")"])
  symbol ")"
  return .tuple (first :: others)

def listDisplay (inner : Inner) : Parser Expr := do
  if ← symbol? "]" then return .list []
  let first ← element inner
  if ← nextLoop then
    if isStarred first then failure
    let value ← comprehension inner [first]
    symbol "]"
    return value
  if ← symbol? "]" then return .list [first]
  symbol ","
  if ← symbol? "]" then return .list [first]
  let (others, _) ← commaList (element inner) (nextSymbol ["]"])
  symbol "]"
  return .list (first :: others)

def dictionaryItem (inner : Inner) : Parser (List Expr) := do
  if ← symbol? "**" then return [.starred (← inner .bitwise)]
  let key ← inner .expression
  symbol ":"
  return [key, ← inner .expression]

def dictionaryRest (inner : Inner) (first : List Expr) : Parser Expr := do
  if ← nextLoop then
    match first with
    | [_, _] =>
      let value ← comprehension inner first
      symbol "\x7d"
      return value
    | _ => failure
  if ← symbol? "\x7d" then return .compound .dictionary first
  symbol ","
  if ← symbol? "\x7d" then return .compound .dictionary first
  let (others, _) ← commaList (dictionaryItem inner) (nextSymbol ["\x7d"])
  symbol "\x7d"
  return .compound .dictionary (first ++ others.flatten)

def setRest (inner : Inner) (first : Expr) : Parser Expr := do
  if ← nextLoop then
    if isStarred first then failure
    let value ← comprehension inner [first]
    symbol "\x7d"
    return value
  if ← symbol? "\x7d" then return .compound .set [first]
  symbol ","
  if ← symbol? "\x7d" then return .compound .set [first]
  let (others, _) ← commaList (element inner) (nextSymbol ["\x7d"])
  symbol "\x7d"
  return .compound .set (first :: others)

def assignedName? : Parser (Option String) := do
  match (← get).tokens with
  | ⟨.name name _, _⟩ :: ⟨.symbol ":=", _⟩ :: _ => return some name
  | _ => return none

/-- What stands between braces: a dictionary if a colon follows the first expression, which
assigns to a name only in parentheses. -/
def braced (inner : Inner) : Parser Expr := do
  if ← symbol? "\x7d" then return .compound .dictionary []
  if ← nextSymbol ["**"] then dictionaryRest inner (← dictionaryItem inner)
  else
    let isAssignment := (← assignedName?).isSome
    let first ← element inner
    if ← symbol? ":" then
      if isStarred first || isAssignment then failure
      dictionaryRest inner [first, ← inner .expression]
    else setRest inner first

def atom (inner : Inner) : Parser Expr := do
  match ← peek with
  | some (.name text _) =>
    advance
    return .name text
  | some (.number value) =>
    advance
    return .literal value
  | some (.text token) =>
    advance
    textLiteral inner token
  | some (.keyword text) =>
    advance
    match text with
    | "None" => return .literal .none
    | "True" => return .literal (.bool true)
    | "False" => return .literal (.bool false)
    | _ => failure
  | some (.symbol text) =>
    advance
    match text with
    | "..." => return .literal .ellipsis
    | "(" => parenthesized inner
    | "[" => listDisplay inner
    | "\x7b" => braced inner
    | _ => failure
  | _ => failure

/-! Calls, attributes and items. -/

inductive Argument where
  | positional (value : Expr)
  | starred (value : Expr)
  | keyword (name : String) (value : Expr)
  | spread (value : Expr)

def keywordArgument (inner : Inner) : Parser Argument := do
  let name ← identifier
  symbol "="
  return .keyword name (← inner .expression)

def argument (inner : Inner) : Parser Argument := do
  if ← symbol? "*" then return .starred (← inner .expression)
  if ← symbol? "**" then return .spread (← inner .expression)
  keywordArgument inner <|> do
    let value ← inner .named
    if ← nextSymbol ["="] then failure
    return .positional value

/-- Plain arguments come before keywords, and starred ones before spread mappings. -/
def argumentsInOrder : List Argument → Bool
  | [] => true
  | .keyword _ _ :: rest =>
    rest.all (fun | .positional _ => false | _ => true) && argumentsInOrder rest
  | .spread _ :: rest =>
    rest.all (fun | .positional _ | .starred _ => false | _ => true) && argumentsInOrder rest
  | _ :: rest => argumentsInOrder rest

def positionalArguments (arguments : List Argument) : List Expr :=
  arguments.filterMap fun
    | .positional value => some value
    | .starred value => some (.starred value)
    | _ => none

def keywordArguments (arguments : List Argument) : List Keyword :=
  arguments.filterMap fun
    | .keyword name value => some (.mk (some name) value)
    | .spread value => some (.mk none value)
    | _ => none

def argumentsAfter (inner : Inner) (first : Argument) : Parser (List Expr × List Keyword) := do
  let others ← repeated do
    if ← symbol? "," then
      if ← nextSymbol [")"] then return some none else return some (some (← argument inner))
    else return none
  symbol ")"
  let arguments := first :: others.filterMap id
  if argumentsInOrder arguments then
    return (positionalArguments arguments, keywordArguments arguments)
  else failure

def plainArguments (inner : Inner) : Parser (List Expr × List Keyword) := do
  if ← symbol? ")" then return ([], []) else argumentsAfter inner (← argument inner)

def callArguments (inner : Inner) : Parser (List Expr × List Keyword) := do
  if ← symbol? ")" then return ([], [])
  let first ← argument inner
  if ← nextLoop then
    match first with
    | .positional value =>
      let generator ← comprehension inner [value]
      symbol ")"
      return ([generator], [])
    | _ => failure
  argumentsAfter inner first

def sliceRest (inner : Inner) (lower : Option Expr) : Parser Expr := do
  let bound? : Parser (Option Expr) := do
    if ← nextSymbol [":", ",", "]"] then return none else return some (← inner .expression)
  let upper ← bound?
  let step ← if ← symbol? ":" then bound? else pure none
  return .compound .slice ([lower, upper, step].filterMap id)

/-- A slice, or an index. The start of a slice assigns to a name only in parentheses. -/
def sliceItem (inner : Inner) : Parser Expr := do
  if ← symbol? ":" then sliceRest inner none
  else
    let isAssignment := (← assignedName?).isSome
    let first ← inner .named
    if ← symbol? ":" then
      if isAssignment then failure
      sliceRest inner (some first)
    else return first

def subscriptItem (inner : Inner) : Parser Expr := do
  if ← symbol? "*" then return .starred (← inner .expression) else sliceItem inner

def subscriptIndex (inner : Inner) : Parser Expr := do
  let (items, hasComma) ← commaList (subscriptItem inner) (nextSymbol ["]"])
  symbol "]"
  match items, hasComma with
  | [single], false => return if isStarred single then .tuple [single] else single
  | items, _ => return .tuple items

def trailer? (inner : Inner) : Parser (Option (Expr → Expr)) := do
  if ← symbol? "." then
    let name ← identifier
    return some fun object => .attribute object name
  if ← symbol? "(" then
    let (positional, keywords) ← callArguments inner
    return some fun function => .call function positional keywords
  if ← symbol? "[" then
    let index ← subscriptIndex inner
    return some fun object => .subscript object index
  return none

def primary (inner : Inner) : Parser Expr := do
  let start ← atom inner
  let trailers ← repeated (trailer? inner)
  return trailers.foldl (fun object trailer => trailer object) start

/-! Operators, from the tightest. -/

def awaited (inner : Inner) : Parser Expr := do
  if ← keyword? "await" then return .compound .awaiting [← primary inner] else primary inner

def power (inner : Inner) : Parser Expr := do
  let base ← awaited inner
  if ← symbol? "**" then return .binary base .power (← inner .factor) else return base

def factor (inner : Inner) : Parser Expr := do
  if ← nextSymbol ["+", "-", "~"] then
    advance
    return .compound .unary [← inner .factor]
  else power inner

def term (inner : Inner) : Parser Expr :=
  leftGrouped (factor inner) [("*", .multiply), ("/", .divide), ("//", .floorDivide),
    ("%", .remainder), ("@", .matrixMultiply)]

def sum (inner : Inner) : Parser Expr :=
  leftGrouped (term inner) [("+", .add), ("-", .subtract)]

def shift (inner : Inner) : Parser Expr :=
  leftGrouped (sum inner) [("<<", .shiftLeft), (">>", .shiftRight)]

def bitAnd (inner : Inner) : Parser Expr :=
  leftGrouped (shift inner) [("&", .bitAnd)]

def bitXor (inner : Inner) : Parser Expr :=
  leftGrouped (bitAnd inner) [("^", .bitXor)]

def bitwise (inner : Inner) : Parser Expr :=
  leftGrouped (bitXor inner) [("|", .bitOr)]

def comparisonOperator? : Parser Bool := do
  if ← nextSymbol ["==", "!=", "<", "<=", ">", ">="] then
    advance
    return true
  if ← keyword? "in" then return true
  if ← keyword? "is" then
    let _ ← keyword? "not"
    return true
  (do keyword "not"; keyword "in"; return true) <|> return false

def comparison (inner : Inner) : Parser Expr := do
  let first ← bitwise inner
  let others ← repeated do
    if ← comparisonOperator? then return some (← bitwise inner) else return none
  return if others.isEmpty then first else .compound .comparison (first :: others)

def inversion (inner : Inner) : Parser Expr := do
  if ← keyword? "not" then return .compound .unary [← inner .inversion] else comparison inner

def wordSeparated (operand : Parser Expr) (word : String) : Parser Expr := do
  let first ← operand
  let others ← repeated do
    if ← keyword? word then return some (← operand) else return none
  return if others.isEmpty then first else .compound .boolean (first :: others)

def conjunction (inner : Inner) : Parser Expr :=
  wordSeparated (inversion inner) "and"

def disjunction (inner : Inner) : Parser Expr :=
  wordSeparated (conjunction inner) "or"

/-! Parameters of functions. -/

inductive ParameterItem where
  | plain (parameter : Parameter)
  | slash
  | star (parameter : Option Parameter)
  | doubleStar (parameter : Parameter)

def isPlainItem : ParameterItem → Bool
  | .plain _ => true
  | _ => false

def plainParameters (items : List ParameterItem) : List Parameter :=
  items.filterMap fun
    | .plain parameter => some parameter
    | _ => none

def defaultsInOrder : List Parameter → Bool
  | [] => true
  | parameter :: rest =>
    (parameter.default.isNone || rest.all fun other => other.default.isSome) && defaultsInOrder rest

def afterStar (variadic : Option Parameter) (items : List ParameterItem) :
    Option (Option Parameter × List Parameter × Option Parameter) :=
  let keywordOnly := plainParameters (items.takeWhile isPlainItem)
  if variadic.isNone && keywordOnly.isEmpty then none
  else match items.dropWhile isPlainItem with
    | [] => some (variadic, keywordOnly, none)
    | [.doubleStar parameter] => some (variadic, keywordOnly, some parameter)
    | _ => none

def sortParameters (items : List ParameterItem) : Option Parameters := do
  let first := plainParameters (items.takeWhile isPlainItem)
  let (positionalOnly, regular, rest) ← match items.dropWhile isPlainItem with
    | .slash :: rest =>
      if first.isEmpty then none
      else some (first, plainParameters (rest.takeWhile isPlainItem), rest.dropWhile isPlainItem)
    | rest => some ([], first, rest)
  if !defaultsInOrder (positionalOnly ++ regular) then none
  let (variadic, keywordOnly, keywordVariadic) ← match rest with
    | [] => some (none, [], none)
    | [.doubleStar parameter] => some (none, [], some parameter)
    | .star variadic :: rest => afterStar variadic rest
    | _ => none
  return { positionalOnly, regular, variadic, keywordOnly, keywordVariadic }

def parameterItem (inner : Inner) (withHints : Bool) : Parser ParameterItem := do
  let hint? : Parser (Option Expr) := do
    if withHints then
      if ← symbol? ":" then return some (← inner .expression)
    return none
  if ← symbol? "/" then return .slash
  if ← symbol? "**" then
    let name ← identifier
    return .doubleStar { name := name, hint := ← hint? }
  if ← symbol? "*" then
    match ← peek with
    | some (.name name _) =>
      advance
      if withHints then
        if ← symbol? ":" then
          let hint ← if ← symbol? "*" then pure (.starred (← inner .bitwise)) else inner .expression
          return .star (some { name := name, hint := some hint })
      return .star (some { name := name })
    | _ => return .star none
  let name ← identifier
  let hint ← hint?
  let default ← if ← symbol? "=" then pure (some (← inner .expression)) else pure none
  return .plain { name := name, hint := hint, default := default }

def parameterList (inner : Inner) (withHints : Bool) (closing : String) : Parser Parameters := do
  if ← nextSymbol [closing] then return {}
  let (items, _) ← commaList (parameterItem inner withHints) (nextSymbol [closing])
  if !(← nextSymbol [closing]) then failure
  sortParameters items

/-! Whole expressions. -/

def Parameters.defaults (parameters : Parameters) : List Expr :=
  (parameters.positionalOnly ++ parameters.regular ++ parameters.keywordOnly).filterMap
    Parameter.default

def lambda (inner : Inner) : Parser Expr := do
  keyword "lambda"
  let parameters ← parameterList inner false ":"
  symbol ":"
  return .compound .lambda (Parameters.defaults parameters ++ [← inner .expression])

def expression (inner : Inner) : Parser Expr := do
  if ← nextKeyword ["lambda"] then lambda inner
  else
    let value ← disjunction inner
    if ← keyword? "if" then
      let test ← inner .disjunction
      keyword "else"
      return .compound .conditional [test, value, ← inner .expression]
    else return value

def named (inner : Inner) : Parser Expr := do
  match ← assignedName? with
  | some name =>
    advance
    advance
    return .compound .assignment [.name name, ← inner .expression]
  | none =>
    let value ← expression inner
    if ← nextSymbol [":="] then failure else return value

def starredExpression (inner : Inner) : Parser Expr := do
  if ← symbol? "*" then return .starred (← inner .bitwise) else expression inner

def listStops : Parser Bool := do
  match ← peek with
  | some (.symbol text) =>
    return [")", "]", "\x7d", "=", ":", ";"].contains text || text.endsWith "="
  | some .newline => return true
  | some _ => return false
  | none => return true

def starredExpressions (inner : Inner) : Parser Expr := do
  let (items, hasComma) ← commaList (starredExpression inner) listStops
  match items, hasComma with
  | [single], false => return single
  | items, _ => return .tuple items

def rule (inner : Inner) : Inner
  | .expression => expression inner
  | .named => named inner
  | .starred => starredExpressions inner
  | .disjunction => disjunction inner
  | .inversion => inversion inner
  | .bitwise => bitwise inner
  | .factor => factor inner

/-- Expressions nested at most `depth` levels deep. Every level takes a token. -/
def within : (depth : Nat) → Inner
  | 0 => fun _ => failure
  | depth + 1 => rule (within depth)

def wholeExpression (inner : Inner) : Parser Expr := do
  let (items, hasComma) ← commaList (inner .expression) listStops
  let _ ← repeated do
    if ← accept isNewline then return some () else return none
  match items, hasComma with
  | [single], false => return single
  | items, _ => return .tuple items

end ExprGrammar

def parseExpression (text : Text) : Except ReadError Expr :=
  let inner := ExprGrammar.within (text.length + 1)
  Parser.readText text expressionTokens (ExprGrammar.wholeExpression inner)

end FrameCheck.Syntax
