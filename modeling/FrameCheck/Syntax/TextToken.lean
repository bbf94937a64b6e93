import FrameCheck.Syntax.NumberToken
import FrameCheck.Syntax.Token
import FrameCheck.Text.CharacterName

/-!
Texts between quotes: where they end, what their escapes stand for, and which expressions a
formatted text holds.
-/

namespace FrameCheck.Syntax

/-! Finding the end of a text. -/

def isQuote (char : Char) : Bool :=
  char == '\x22' || char == '\x27'

def textMarks (letters : List Char) : Option TextToken :=
  match letters.map Char.toLower with
  | [] => some { body := [] }
  | ['u'] => some { body := [] }
  | ['r'] => some { isRaw := true, body := [] }
  | ['b'] => some { isBytes := true, body := [] }
  | ['f'] => some { isFormatted := true, body := [] }
  | ['b', 'r'] | ['r', 'b'] => some { isRaw := true, isBytes := true, body := [] }
  | ['f', 'r'] | ['r', 'f'] => some { isRaw := true, isFormatted := true, body := [] }
  | _ => none

/-- The body of a text in single quotes and what follows it. A backslash takes the character
after it along; a line ends the text only after a backslash. -/
def shortBody (quote : Char) : List Char → Option (List Char × List Char)
  | [] => none
  | '\\' :: char :: rest => do
    let (body, rest) ← shortBody quote rest
    return ('\\' :: char :: body, rest)
  | char :: rest =>
    if char == quote then some ([], rest)
    else if char == '\n' then none
    else do
      let (body, rest) ← shortBody quote rest
      return (char :: body, rest)

def longBody (quote : Char) : List Char → Option (List Char × List Char)
  | [] => none
  | '\\' :: char :: rest => do
    let (body, rest) ← longBody quote rest
    return ('\\' :: char :: body, rest)
  | char :: rest =>
    if char == quote && (rest.take 2 == [quote, quote]) then some ([], rest.drop 2)
    else do
      let (body, rest) ← longBody quote rest
      return (char :: body, rest)

def quotedBody (chars : List Char) : Option (List Char × List Char) :=
  match chars with
  | quote :: rest =>
    if rest.take 2 == [quote, quote] then longBody quote (rest.drop 2) else shortBody quote rest
  | [] => none

/-! Escapes. -/

def simpleEscape? : Char → Option Char
  | '\\' => some '\\'
  | '\x27' => some '\x27'
  | '\x22' => some '\x22'
  | 'a' => some '\x07'
  | 'b' => some '\x08'
  | 'f' => some '\x0c'
  | 'n' => some '\n'
  | 'r' => some '\r'
  | 't' => some '\t'
  | 'v' => some '\x0b'
  | _ => none

def hexEscape (count : Nat) (chars : List Char) : Option (Nat × List Char) :=
  let digits := chars.take count
  if digits.length == count && digits.all (isDigitIn 16) then
    some (digitsValue 16 digits, chars.drop count)
  else none

def octalDigits (chars : List Char) : List Char :=
  (chars.take 3).takeWhile (isDigitIn 8)

/-- One character of a text and what follows it; `none` stands for an escaped end of line,
which is left out. -/
def unescape (chars : List Char) : Option (Option Nat × List Char) :=
  match chars with
  | [] => none
  | '\\' :: '\n' :: rest => some (none, rest)
  | '\\' :: 'x' :: rest => (hexEscape 2 rest).map fun (code, rest) => (some code, rest)
  | '\\' :: char :: rest =>
    match simpleEscape? char with
    | some value => some (some value.toNat, rest)
    | none =>
      let digits := octalDigits (char :: rest)
      if digits.isEmpty then some (some '\\'.toNat, char :: rest)
      else some (some (digitsValue 8 digits), (char :: rest).drop digits.length)
  | char :: rest => some (some char.toNat, rest)

def nameEscape (chars : List Char) : Option (Nat × List Char) :=
  match chars with
  | '\x7b' :: rest =>
    let name := rest.takeWhile (· != '\x7d')
    if name.isEmpty || name.length == rest.length then none
    else (Text.codeOfName? name).map fun code => (code, rest.drop (name.length + 1))
  | _ => none

/-- The code points that the body of a text stands for. Each step takes at least one character
of the body, whose length bounds `steps`. -/
def decodePoints : (steps : Nat) → List Char → Option (List CodePoint)
  | _, [] => some []
  | 0, _ => none
  | steps + 1, '\\' :: 'u' :: rest => do
    let (code, rest) ← hexEscape 4 rest
    return (← CodePoint.ofNumber? code) :: (← decodePoints steps rest)
  | steps + 1, '\\' :: 'U' :: rest => do
    let (code, rest) ← hexEscape 8 rest
    return (← CodePoint.ofNumber? code) :: (← decodePoints steps rest)
  | steps + 1, '\\' :: 'N' :: rest => do
    let (code, rest) ← nameEscape rest
    return (← CodePoint.ofNumber? code) :: (← decodePoints steps rest)
  | steps + 1, chars => do
    let (code, rest) ← unescape chars
    let later ← decodePoints steps rest
    match code with
    | some code => return (← CodePoint.ofNumber? code) :: later
    | none => return later

def decodeText (isRaw : Bool) (body : List Char) : Option Text :=
  if isRaw then some (.ofChars body) else (decodePoints body.length body).map fun points => ⟨points⟩

def decodeByteEscapes : (steps : Nat) → List Char → Option (List UInt8)
  | _, [] => some []
  | 0, _ => none
  | steps + 1, chars => do
    let (code, rest) ← unescape chars
    let later ← decodeByteEscapes steps rest
    match code with
    | some code => return UInt8.ofNat code :: later
    | none => return later

def decodeBytes (isRaw : Bool) (body : List Char) : Option (List UInt8) :=
  if body.any fun char => 128 ≤ char.toNat then none
  else if isRaw then some (body.map fun char => UInt8.ofNat char.toNat)
  else decodeByteEscapes body.length body

/-! Formatted texts. -/

/-- The end of an expression inside a formatted text: what was read of it, and the rest from
the character that ends it. `quote` and `isLong` tell of a text that is open inside the
expression, `brackets` of its open brackets. -/
def embeddedEnd (quote : Option Char) (isLong : Bool) (brackets : List Char) :
    (steps : Nat) → List Char → Option (List Char × List Char)
  | 0, _ => none
  | _, [] => none
  | steps + 1, char :: rest =>
    let take (count : Nat) (quote : Option Char) (isLong : Bool) (brackets : List Char) :
        Option (List Char × List Char) := do
      let (body, after) ← embeddedEnd quote isLong brackets steps (rest.drop count)
      return (char :: rest.take count ++ body, after)
    if char == '\\' then none
    else match quote with
      | some opening =>
        if char != opening then take 0 quote isLong brackets
        else if !isLong then take 0 none false brackets
        else if rest.take 2 == [char, char] then take 2 none false brackets
        else take 0 quote isLong brackets
      | none =>
        if isQuote char then
          if rest.take 2 == [char, char] then take 2 (some char) true brackets
          else take 0 (some char) false brackets
        else if char == '(' || char == '[' || char == '\x7b' then
          take 0 none false (char :: brackets)
        else if char == '#' then none
        else if brackets.isEmpty && ['!', ':', '\x7d', '=', '<', '>'].contains char then
          if rest.head? == some '=' && ['!', '=', '<', '>'].contains char then take 1 none false []
          else if char == '<' || char == '>' then take 0 none false []
          else some ([], char :: rest)
        else if char == ')' || char == ']' || char == '\x7d' then
          match brackets with
          | bracket :: brackets =>
            if (bracket, char) == ('(', ')') || (bracket, char) == ('[', ']') ||
                (bracket, char) == ('\x7b', '\x7d') then take 0 none false brackets
            else none
          | [] => none
        else take 0 none false brackets

def skipSelfText (chars : List Char) : List Char :=
  match chars with
  | '=' :: rest => rest.dropWhile fun char => char == ' ' || ('\t' ≤ char && char ≤ '\r')
  | chars => chars

def skipConversion (chars : List Char) : Option (List Char) :=
  match chars with
  | '!' :: letter :: rest => if ['s', 'r', 'a'].contains letter then some rest else none
  | '!' :: [] => none
  | chars => some chars

/-- Letters up to a brace, as they are written, and what follows them. Inside the name of a
character braces do not count. -/
def literalRun (isRaw isNested : Bool) : (steps : Nat) → List Char → Option (List Char × List Char)
  | 0, _ => none
  | _, [] => some ([], [])
  | steps + 1, '\\' :: 'N' :: '\x7b' :: rest =>
    if isRaw then do
      let (body, after) ← literalRun isRaw isNested steps ('N' :: '\x7b' :: rest)
      return ('\\' :: body, after)
    else do
      let length := (rest.takeWhile (· != '\x7d')).length + 1
      let (body, after) ← literalRun isRaw isNested steps (rest.drop length)
      return ('\\' :: 'N' :: '\x7b' :: rest.take length ++ body, after)
  | steps + 1, '\\' :: char :: rest =>
    if isRaw || char == '\x7b' || char == '\x7d' then do
      let (body, after) ← literalRun isRaw isNested steps (char :: rest)
      return ('\\' :: body, after)
    else do
      let (body, after) ← literalRun isRaw isNested steps rest
      return ('\\' :: char :: body, after)
  | steps + 1, char :: rest =>
    if char == '\x7b' || char == '\x7d' then
      if isNested then some ([], char :: rest)
      else if rest.head? == some char then do
        let (body, after) ← literalRun isRaw isNested steps (rest.drop 1)
        return (char :: body, after)
      else if char == '\x7d' then none
      else some ([], char :: rest)
    else do
      let (body, after) ← literalRun isRaw isNested steps rest
      return (char :: body, after)

def embeddedExpressions (isRaw : Bool) (depth : Nat) :
    (steps : Nat) → List Char → Option (List (List Char) × List Char)
  | 0, _ => none
  | steps + 1, chars => do
    let (letters, rest) ← literalRun isRaw (depth != 0) (chars.length + 1) chars
    let _ ← decodeText isRaw letters
    match rest with
    | [] => return ([], [])
    | '\x7b' :: rest =>
      if 2 ≤ depth then none
      else
        let (body, rest) ← embeddedEnd none false [] (rest.length + 1) rest
        if body.all fun char => char == ' ' || ('\t' ≤ char && char ≤ '\r') then none
        else
          let rest ← skipConversion (skipSelfText rest)
          let (nested, rest) ← match rest with
            | ':' :: rest => embeddedExpressions isRaw (depth + 1) steps rest
            | rest => pure ([], rest)
          match rest with
          | '\x7d' :: rest =>
            let (later, rest) ← embeddedExpressions isRaw depth steps rest
            return (body :: nested ++ later, rest)
          | _ => none
    | rest => return ([], rest)

def formattedExpressions (isRaw : Bool) (body : List Char) : Option (List (List Char)) := do
  let (expressions, rest) ← embeddedExpressions isRaw 0 (body.length + 1) body
  if rest.isEmpty then some expressions else none

end FrameCheck.Syntax
