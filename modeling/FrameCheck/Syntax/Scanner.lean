import FrameCheck.Syntax.TextToken
import FrameCheck.Text.Normal

/-!
From the characters of a script to its tokens. Lines end statements, except inside brackets
and after a backslash; the depth of indentation opens and closes blocks. A tab reaches to
the next multiple of eight, and lines must agree on their order also when it counts as one.
-/

namespace FrameCheck.Syntax

/-- Ends of lines of all conventions become line feeds; `done` is what was read, backwards. -/
def normalizeOnto (done : List Char) : List Char → List Char
  | [] => done.reverse
  | '\r' :: '\n' :: rest => normalizeOnto ('\n' :: done) rest
  | '\r' :: rest => normalizeOnto ('\n' :: done) rest
  | char :: rest => normalizeOnto (char :: done) rest

def normalizeLines (chars : List Char) : List Char :=
  normalizeOnto [] chars

def endWithLine (chars : List Char) : List Char :=
  if chars.getLast? == some '\n' || chars.isEmpty then chars else chars ++ ['\n']

structure Indentation where
  columns : Nat := 0
  characters : Nat := 0

def blockLimit : Nat := 100

def bracketLimit : Nat := 200

structure Scanner where
  rest : List Char
  line : Nat := 1
  brackets : List Char := []
  blocks : List Indentation := []
  atLineStart : Bool := true
  tokens : List Token := []

namespace Scanner

def push (scanner : Scanner) (kind : TokenKind) : Scanner :=
  { scanner with tokens := ⟨kind, scanner.line⟩ :: scanner.tokens }

def indentation (scanner : Scanner) : Indentation :=
  scanner.blocks.headD {}

def closeBlocks (target : Indentation) : (blocks : List Indentation) → Scanner → Option Scanner
  | [], scanner =>
    if target.columns == 0 && target.characters == 0 then some { scanner with blocks := [] }
    else none
  | block :: outer, scanner =>
    if target.columns < block.columns then closeBlocks target outer (scanner.push .dedent)
    else if target.columns == block.columns && target.characters == block.characters then
      some { scanner with blocks := block :: outer }
    else none

def indent (scanner : Scanner) (target : Indentation) : Option Scanner :=
  let current := scanner.indentation
  if target.columns == current.columns then
    if target.characters == current.characters then some scanner else none
  else if current.columns < target.columns then
    if target.characters ≤ current.characters || blockLimit ≤ scanner.blocks.length + 1 then none
    else some ({ scanner with blocks := target :: scanner.blocks }.push .indent)
  else closeBlocks target scanner.blocks scanner

/-- The indentation at the start of a line, the lines passed by backslashes, and what
follows. An indentation before a backslash counts, not the one after it. -/
def measure (held : Option Nat) (current : Indentation) (lines : Nat) :
    List Char → Option (Indentation × Nat × List Char)
  | ' ' :: rest => measure held ⟨current.columns + 1, current.characters + 1⟩ lines rest
  | '\t' :: rest => measure held ⟨(current.columns / 8 + 1) * 8, current.characters + 1⟩ lines rest
  | '\x0c' :: rest => measure held {} lines rest
  | '\\' :: '\n' :: rest =>
    if rest.isEmpty then none
    else
      let held := if held.isSome || current.columns == 0 then held else some current.columns
      measure held current (lines + 1) rest
  | '\\' :: _ => none
  | rest =>
    match held with
    | some columns => some (⟨columns, columns⟩, lines, rest)
    | none => some (current, lines, rest)

def skipComment (chars : List Char) : List Char :=
  chars.dropWhile (· != '\n')

def beginLine (scanner : Scanner) : Option Scanner := do
  let (target, lines, rest) ← measure none {} 0 scanner.rest
  let scanner := { scanner with rest := rest, line := scanner.line + lines }
  match rest with
  | [] => indent { scanner with atLineStart := false } target
  | '#' :: _ => some { scanner with rest := (skipComment rest).drop 1, line := scanner.line + 1 }
  | '\n' :: rest => some { scanner with rest := rest, line := scanner.line + 1 }
  | _ =>
    let scanner := { scanner with atLineStart := false }
    scanner.indent target

def word (scanner : Scanner) (characters : List Char) (rest : List Char) : Option Scanner :=
  let spelling := String.ofList characters
  let text := String.ofList (Text.normalForm characters)
  match characters with
  | [] => none
  | first :: others =>
    if Text.isIdentifierStart first && others.all Text.isIdentifierPart then
      let scanner := { scanner with rest := rest }
      some (scanner.push
        (if keywords.contains spelling then .keyword text else .name text (text == spelling)))
    else none

def quotedText (scanner : Scanner) (marks : TextToken) (chars : List Char) : Option Scanner := do
  let (body, rest) ← quotedBody chars
  let scanner := scanner.push (.text { marks with body := body })
  return { scanner with rest := rest, line := scanner.line + body.count '\n' }

def opening? : Char → Option Char
  | ')' => some '('
  | ']' => some '['
  | '\x7d' => some '\x7b'
  | _ => none

def symbol (scanner : Scanner) (chars : List Char) : Option Scanner := do
  let text ← symbols.find? fun text => text.isPrefixOf chars
  let scanner := { scanner with rest := chars.drop text.length }.push (.symbol (String.ofList text))
  match text with
  | [char] =>
    if char == '(' || char == '[' || char == '\x7b' then
      if bracketLimit ≤ scanner.brackets.length then none
      else some { scanner with brackets := char :: scanner.brackets }
    else match opening? char with
      | some opening =>
        if scanner.brackets.head? == some opening then
          some { scanner with brackets := scanner.brackets.drop 1 }
        else none
      | none => some scanner
  | _ => some scanner

def startsNumber (chars : List Char) : Bool :=
  match chars with
  | '.' :: digit :: _ => digit.isDigit
  | char :: _ => char.isDigit
  | [] => false

def step (scanner : Scanner) : Option Scanner :=
  match scanner.rest with
  | [] => some scanner
  | ' ' :: rest | '\t' :: rest | '\x0c' :: rest => some { scanner with rest := rest }
  | '#' :: rest => some { scanner with rest := skipComment rest }
  | '\\' :: '\n' :: rest =>
    if rest.isEmpty then none else some { scanner with rest := rest, line := scanner.line + 1 }
  | '\n' :: rest =>
    let next := { scanner with rest := rest, line := scanner.line + 1 }
    if scanner.brackets.isEmpty then
      some { next with atLineStart := true, tokens := ⟨.newline, scanner.line⟩ :: scanner.tokens }
    else some next
  | chars =>
    let letters := chars.takeWhile continuesName
    let marks := if letters.length ≤ 2 then textMarks letters else none
    let after := chars.drop letters.length
    match marks, after with
    | some marks, quote :: _ =>
      if isQuote quote then scanner.quotedText marks after
      else other chars letters after
    | _, _ => other chars letters after
where
  other (chars letters after : List Char) : Option Scanner :=
    if startsNumber chars then do
      let (value, rest) ← scanNumber chars
      return { scanner.push (.number value) with rest := rest }
    else if letters.isEmpty then scanner.symbol chars
    else scanner.word letters after

/-- Scan to the end. Every step takes at least one character or begins a line. -/
def run : (steps : Nat) → Scanner → Option Scanner
  | 0, scanner => if scanner.rest.isEmpty then some scanner else none
  | steps + 1, scanner =>
    match scanner.rest with
    | [] => some scanner
    | _ => do run steps (← if scanner.atLineStart then scanner.beginLine else scanner.step)

end Scanner

def tokenize (chars : List Char) : Option (List Token) := do
  let scanner ← Scanner.run (2 * chars.length + 1) { rest := chars }
  if scanner.brackets.isEmpty then
    let ends := scanner.blocks.map fun _ => Token.mk .dedent scanner.line
    some (scanner.tokens.reverse ++ ends)
  else none

def scriptTokens (chars : List Char) : Option (List Token) :=
  tokenize (endWithLine (normalizeLines chars))

/-- The tokens of an expression that stands alone. Nothing ends its last line, so that blanks
on it count as an indentation. -/
def expressionTokens (chars : List Char) : Option (List Token) :=
  tokenize (normalizeLines chars)

end FrameCheck.Syntax
