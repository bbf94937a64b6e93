import FrameCheck.Text.Basic
import FrameCheck.Text.CharClass
import FrameCheck.Text.Hexadecimal

/-!
Quoted text: single quotes, unless the text has a single quote and no double one;
what is not printable is written as an escape.
-/

namespace FrameCheck.Text

def quoteFor (points : List CodePoint) : Char :=
  if points.contains (.char '\x27') && !points.contains (.char '\x22') then '\x22' else '\x27'

def escapeCommon? (quote char : Char) : Option String :=
  if char == quote || char == '\\' then some (String.ofList ['\\', char])
  else if char == '\n' then some "\\n"
  else if char == '\t' then some "\\t"
  else if char == '\r' then some "\\r"
  else none

def escapeNumber (number : Nat) : String :=
  if number < 0x100 then "\\x" ++ hexadecimal 2 number
  else if number < 0x10000 then "\\u" ++ hexadecimal 4 number
  else "\\U" ++ hexadecimal 8 number

def escapePoint (quote : Char) : CodePoint → String
  | .surrogate index => escapeNumber (CodePoint.surrogate index).number
  | .char char =>
    match escapeCommon? quote char with
    | some escaped => escaped
    | none => if isPrintable char then char.toString else escapeNumber char.toNat

def quoted (text : Text) : Text :=
  let quote := quoteFor text.points
  quote.toString ++ join (text.points.map fun point => escapePoint quote point) ++ quote.toString

def escapeByte (quote : Char) (byte : UInt8) : String :=
  let char := Char.ofNat byte.toNat
  match escapeCommon? quote char with
  | some escaped => escaped
  | none =>
    if 32 ≤ byte.toNat && byte.toNat < 127 then char.toString
    else "\\x" ++ hexadecimal 2 byte.toNat

/-- Bytes in quotes, marked by the letter `b`; bytes beyond ASCII are escapes. -/
def quotedBytes (bytes : List UInt8) : String :=
  let quote := quoteFor (bytes.map fun byte => .char (Char.ofNat byte.toNat))
  "b" ++ quote.toString ++ String.join (bytes.map (escapeByte quote)) ++ quote.toString

end FrameCheck.Text
