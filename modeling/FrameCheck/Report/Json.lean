import FrameCheck.Literal

/-!
JSON documents and their text: two blanks for each level, one item or member a line, and
ASCII only.
-/

namespace FrameCheck.Report

mutual

inductive Json where
  | number (value : Int)
  | text (value : Text)
  | array (items : Items)
  | object (members : Members)

inductive Items where
  | nil
  | cons (first : Json) (rest : Items)

inductive Members where
  | nil
  | cons (name : String) (value : Json) (rest : Members)

end

deriving instance DecidableEq for Json
deriving instance DecidableEq for Items
deriving instance DecidableEq for Members

namespace Json

def arrayOf (items : List Json) : Json :=
  .array (items.foldr .cons .nil)

def objectOf (members : List (String × Json)) : Json :=
  .object (members.foldr (fun (name, value) rest => .cons name value rest) .nil)

/-! Text. -/

def unitEscape (unit : Nat) : String :=
  "\\u" ++ Text.hexadecimal 4 unit

/-- A character inside quotes. One beyond sixteen bits is written as a pair of surrogates. -/
def charText (char : Char) : String :=
  if char = '\x22' then "\\\x22"
  else if char = '\\' then "\\\\"
  else if char = '\n' then "\\n"
  else if char = '\r' then "\\r"
  else if char = '\t' then "\\t"
  else if char = '\x0c' then "\\f"
  else if char = '\x08' then "\\b"
  else
    let code := char.toNat
    if 32 ≤ code ∧ code ≤ 126 then char.toString
    else if code < 0x10000 then unitEscape code
    else
      unitEscape (0xD800 + (code - 0x10000) / 0x400) ++
        unitEscape (0xDC00 + (code - 0x10000) % 0x400)

def pointText : CodePoint → String
  | .char char => charText char
  | .surrogate index => unitEscape (CodePoint.surrogate index).number

def stringText (text : Text) : String :=
  "\x22" ++ String.join (text.points.map pointText) ++ "\x22"

def lineBreak (level : Nat) : String :=
  "\n" ++ String.ofList (List.replicate (2 * level) ' ')

end Json

mutual

def Json.render (level : Nat) : Json → String
  | .number value => toString value
  | .text value => Json.stringText value
  | .array .nil => "[]"
  | .array (.cons first rest) =>
    "[" ++ Json.lineBreak (level + 1) ++ first.render (level + 1) ++ rest.render (level + 1) ++
      Json.lineBreak level ++ "]"
  | .object .nil => "\x7b\x7d"
  | .object (.cons name value rest) =>
    "\x7b" ++ Json.lineBreak (level + 1) ++ Json.stringText name ++ ": " ++
      value.render (level + 1) ++ rest.render (level + 1) ++ Json.lineBreak level ++ "\x7d"

def Items.render (level : Nat) : Items → String
  | .nil => ""
  | .cons first rest =>
    "," ++ Json.lineBreak level ++ first.render level ++ rest.render level

def Members.render (level : Nat) : Members → String
  | .nil => ""
  | .cons name value rest =>
    "," ++ Json.lineBreak level ++ Json.stringText name ++ ": " ++ value.render level ++
      rest.render level

end

/-! Whether the numbers of a document can be written. -/

mutual

def Json.isWritable : Json → Bool
  | .number value => Literal.writableWhole value
  | .text _ => true
  | .array items => items.areWritable
  | .object members => members.areWritable

def Items.areWritable : Items → Bool
  | .nil => true
  | .cons first rest => first.isWritable && rest.areWritable

def Members.areWritable : Members → Bool
  | .nil => true
  | .cons _ value rest => value.isWritable && rest.areWritable

end

end FrameCheck.Report
