/-!
Code points, the units of texts. They are the characters and the halves of surrogate pairs:
these are no characters, but a script can write one of them into a text by its number.
-/

namespace FrameCheck

inductive CodePoint where
  | char (value : Char)
  /-- Half a surrogate pair, counted from the first one. -/
  | surrogate (index : Fin 0x800)
deriving DecidableEq, Repr

namespace CodePoint

instance : Coe Char CodePoint := ⟨.char⟩

/-- The numbers between those of characters are the numbers of surrogates. -/
def number : CodePoint → Nat
  | .char value => value.toNat
  | .surrogate index => 0xD800 + index.val

def ofNumber? (number : Nat) : Option CodePoint :=
  if _ : 0xD800 ≤ number ∧ number < 0xE000 then
    some (.surrogate ⟨number - 0xD800, by omega⟩)
  else if number < 0x110000 then some (.char (Char.ofNat number))
  else none

def char? : CodePoint → Option Char
  | .char value => some value
  | .surrogate _ => none

def meets (property : Char → Bool) : CodePoint → Bool
  | .char value => property value
  | .surrogate _ => false

def isSurrogate : CodePoint → Bool
  | .char _ => false
  | .surrogate _ => true

end CodePoint

end FrameCheck
