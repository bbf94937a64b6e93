import FrameCheck.Literal

/-! Tokens of a script. -/

namespace FrameCheck.Syntax

structure TextToken where
  isRaw : Bool := false
  isBytes : Bool := false
  isFormatted : Bool := false
  body : List Char

inductive TokenKind where
  /-- A name in its normal form, and whether the script spells it so. -/
  | name (text : String) (isSpelledSo : Bool)
  | keyword (text : String)
  | number (value : Literal)
  | text (token : TextToken)
  | symbol (text : String)
  | newline
  | indent
  | dedent

structure Token where
  kind : TokenKind
  line : Nat

def keywords : List String :=
  ["False", "None", "True", "and", "as", "assert", "async", "await", "break", "class", "continue",
    "def", "del", "elif", "else", "except", "finally", "for", "from", "global", "if", "import",
    "in", "is", "lambda", "nonlocal", "not", "or", "pass", "raise", "return", "try", "while",
    "with", "yield"]

/-- Operators and delimiters, longer ones before their beginnings. -/
def symbols : List (List Char) :=
  ["**=", "//=", ">>=", "<<=", "...", "!=", "%=", "&=", "**", "*=", "+=", "-=", "->", "/=", "//",
    ":=", "<<", "<=", "==", ">=", ">>", "@=", "^=", "|=", "%", "&", "(", ")", "*", "+", ",", "-",
    ".", "/", ":", ";", "<", "=", ">", "@", "[", "]", "^", "\x7b", "|", "\x7d", "~"].map
    String.toList

end FrameCheck.Syntax
