import FrameCheck.Text.CodePoint

/-! Texts: sequences of code points. -/

namespace FrameCheck

structure Text where
  points : List CodePoint := []
deriving DecidableEq, Repr

namespace Text

def ofChars (chars : List Char) : Text := ⟨chars.map .char⟩

def ofString (string : String) : Text := ofChars string.toList

instance : Coe String Text := ⟨ofString⟩

instance : Inhabited Text := ⟨{}⟩

def append (left right : Text) : Text := ⟨left.points ++ right.points⟩

instance : Append Text := ⟨append⟩

def length (text : Text) : Nat := text.points.length

def isEmpty (text : Text) : Bool := text.points.isEmpty

def ofPoint (point : CodePoint) : Text := ⟨[point]⟩

def join (texts : List Text) : Text := ⟨texts.flatMap points⟩

def intercalate (separator : Text) : List Text → Text
  | [] => {}
  | [text] => text
  | text :: rest => text ++ (separator ++ intercalate separator rest)

def endsWith (text ending : Text) : Bool :=
  ending.points.isSuffixOf text.points

/-- The text for eyes: what is no character shows as one that stands for the unknown. -/
def shown (text : Text) : String :=
  String.ofList (text.points.map fun point => point.char?.getD (Char.ofNat 0xFFFD))

/-! Texts are ordered by the numbers of their code points, from the first on. -/

def numbers (text : Text) : List Nat := text.points.map CodePoint.number

instance : LT Text := ⟨fun left right => left.numbers < right.numbers⟩

instance : LE Text := ⟨fun left right => ¬ right < left⟩

instance (left right : Text) : Decidable (left < right) :=
  inferInstanceAs (Decidable (left.numbers < right.numbers))

instance (left right : Text) : Decidable (left ≤ right) :=
  inferInstanceAs (Decidable (¬ right < left))

end Text

end FrameCheck
