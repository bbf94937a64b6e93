import FrameCheck.Literal
import FrameCheck.Text.CharClass

/-!
Numbers of a script: whole numbers in four bases, floating-point numbers and imaginary
ones. Single low lines may part digits.
-/

namespace FrameCheck.Syntax

def digitValue? (char : Char) : Option Nat :=
  if '0' ≤ char && char ≤ '9' then some (char.toNat - '0'.toNat)
  else if 'a' ≤ char && char ≤ 'f' then some (char.toNat - 'a'.toNat + 10)
  else if 'A' ≤ char && char ≤ 'F' then some (char.toNat - 'A'.toNat + 10)
  else none

def isDigitIn (base : Nat) (char : Char) : Bool :=
  match digitValue? char with
  | some value => value < base
  | none => false

def digitsValue (base : Nat) (digits : List Char) : Nat :=
  digits.foldl (fun value char => value * base + (digitValue? char).getD 0) 0

/-- Digits of a base, in groups parted by single low lines, and what follows them. A low
line without a digit after it is refused. -/
def digitGroups (base : Nat) : List Char → Option (List Char × List Char)
  | '_' :: next :: rest =>
    if isDigitIn base next then do
      let (digits, rest) ← digitGroups base rest
      return (next :: digits, rest)
    else none
  | '_' :: [] => none
  | char :: rest =>
    if isDigitIn base char then do
      let (digits, rest) ← digitGroups base rest
      return (char :: digits, rest)
    else some ([], char :: rest)
  | [] => some ([], [])

def continuesName (char : Char) : Bool :=
  char.isAlphanum || char == '_' || 128 ≤ char.toNat

def wordsAfterNumber : List (List Char) :=
  ["and", "else", "for", "if", "in", "is", "or", "not"].map String.toList

def endsNumber (rest : List Char) : Bool :=
  match rest with
  | [] => true
  | char :: _ => !continuesName char || wordsAfterNumber.any fun word => word.isPrefixOf rest

def basedNumber (base : Nat) (chars : List Char) : Option (Literal × List Char) := do
  let (digits, rest) ← digitGroups base chars
  if digits.isEmpty || !endsNumber rest then none
  else some (.int (digitsValue base digits), rest)

/-- The exponent of a number: the letter, perhaps a sign, and digits. A letter without digits
belongs to what follows the number. -/
def exponentPart (chars : List Char) : Option (Option Int × List Char) :=
  match chars with
  | letter :: rest =>
    if letter != 'e' && letter != 'E' then some (none, chars)
    else
      let (sign, signed, rest) : Int × Bool × List Char := match rest with
        | '+' :: rest => (1, true, rest)
        | '-' :: rest => (-1, true, rest)
        | rest => (1, false, rest)
      match rest with
      | digit :: _ =>
        if digit.isDigit then do
          let (digits, rest) ← digitGroups 10 rest
          return (some (sign * (digitsValue 10 digits : Nat)), rest)
        else if signed then none
        else some (none, chars)
      | [] => if signed then none else some (none, chars)
  | [] => some (none, [])

def optionalDigits (chars : List Char) : Option (List Char × List Char) :=
  match chars with
  | char :: _ => if char.isDigit then digitGroups 10 chars else some ([], chars)
  | [] => some ([], [])

def decimalNumber (chars : List Char) : Option (Literal × List Char) := do
  let (whole, rest) ← optionalDigits chars
  let (hasPoint, fraction, rest) ← match rest with
    | '.' :: rest => do
      let (fraction, rest) ← optionalDigits rest
      pure (true, fraction, rest)
    | rest => pure (false, [], rest)
  let (exponent, rest) ← exponentPart rest
  let digits := digitsValue 10 (whole ++ fraction)
  let power := exponent.getD 0 - (fraction.length : Int)
  match rest with
  | 'j' :: rest | 'J' :: rest =>
    if endsNumber rest then some (.imaginary (Magnitude.ofDecimal digits power), rest) else none
  | rest =>
    if !endsNumber rest then none
    else if hasPoint || exponent.isSome then
      some (.float (Magnitude.ofDecimal digits power), rest)
    else if whole.head? == some '0' && digits != 0 then none
    else if digits != 0 && Literal.wholeDigitLimit < whole.length then none
    else some (.int digits, rest)

def scanNumber (chars : List Char) : Option (Literal × List Char) :=
  match chars with
  | '0' :: 'x' :: rest | '0' :: 'X' :: rest => basedNumber 16 rest
  | '0' :: 'o' :: rest | '0' :: 'O' :: rest => basedNumber 8 rest
  | '0' :: 'b' :: rest | '0' :: 'B' :: rest => basedNumber 2 rest
  | chars => decimalNumber chars

end FrameCheck.Syntax
