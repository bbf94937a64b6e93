import FrameCheck.Text.CodePoint
import FrameCheck.Text.WordRanges
import FrameCheck.Text.PrintRanges
import FrameCheck.Text.IdentifierRanges
import FrameCheck.Text.DigitRanges

/-!
Character classes over all of Unicode. Each of them answers for ASCII without a
look into its table.
-/

namespace FrameCheck.Text

/-- Blank characters: the separators of Unicode, and the controls that part
words, lines or records. -/
def isBlank (char : Char) : Bool :=
  let code := char.toNat
  (9 ≤ code && code ≤ 13) || (28 ≤ code && code ≤ 32) || code == 0x85 || code == 0xA0 ||
    code == 0x1680 || (0x2000 ≤ code && code ≤ 0x200A) || code == 0x2028 || code == 0x2029 ||
    code == 0x202F || code == 0x205F || code == 0x3000

def isAlphanumeric (char : Char) : Bool :=
  if char.toNat < 128 then char.isAlphanum else wordRanges.contains char

/-- Characters of schema names: letters, digits and the low line. -/
def isWord (char : Char) : Bool :=
  isAlphanumeric char || char == '_'

def isPrintable (char : Char) : Bool :=
  if char.toNat < 128 then 32 ≤ char.toNat && char.toNat < 127 else printRanges.contains char

def isDecimalDigit (char : Char) : Bool :=
  if char.toNat < 128 then char.isDigit else digitRanges.contains char

def isIdentifierStart (char : Char) : Bool :=
  if char.toNat < 128 then char.isAlpha || char == '_' else identifierStartRanges.contains char

def isIdentifierPart (char : Char) : Bool :=
  if char.toNat < 128 then char.isAlphanum || char == '_' else identifierPartRanges.contains char

def strip (points : List CodePoint) : List CodePoint :=
  let isBlankPoint := CodePoint.meets isBlank
  ((points.dropWhile isBlankPoint).reverse.dropWhile isBlankPoint).reverse

end FrameCheck.Text
