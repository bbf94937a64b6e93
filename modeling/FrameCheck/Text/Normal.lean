import FrameCheck.Text.Hexadecimal
import FrameCheck.Text.NormalData
import FrameCheck.Text.Split

/-!
The normal form of identifiers: characters that are variants of others give way to them, and
a character and its marks are written as one wherever there is one for them. Two identifiers
are the same name when their normal forms are equal.
-/

namespace FrameCheck.Text

/-! Reading the data. -/

def readNumbers (lines : List String) : List Nat :=
  lines.flatMap fun line => (split ' ' line.toList).map hexadecimalValue

def triples : List Nat → List (Nat × Nat × Nat)
  | first :: second :: third :: rest => (first, second, third) :: triples rest
  | _ => []

def sequences (numbers : List Nat) : List (Nat × List Nat) :=
  (split 0 numbers).filterMap fun
    | [] => none
    | first :: rest => some (first, rest)

structure Normalization where
  runs : List (Nat × Nat × Nat)
  expansions : List (Nat × List Nat)
  compositions : List (Nat × Nat × Nat)
  classes : List (Nat × Nat × Nat)

def normalization : Normalization where
  runs := triples (readNumbers compatibleRuns)
  expansions := sequences (readNumbers compatibleSequences)
  compositions := triples (readNumbers compositions)
  classes := triples (readNumbers markClasses)

namespace Normalization

variable (data : Normalization)

/-! Syllables of Hangul are composed by a rule: there are 19 leading consonants, 21 vowels
and 27 trailing consonants, and a syllable may lack the last. -/

def leadingBase : Nat := 0x1100

def vowelBase : Nat := 0x1161

def trailingBase : Nat := 0x11A7

def syllableBase : Nat := 0xAC00

def vowelCount : Nat := 21

def trailingCount : Nat := 28

def isSyllable (code : Nat) : Bool :=
  syllableBase ≤ code && code < syllableBase + 19 * vowelCount * trailingCount

def splitSyllable (code : Nat) : List Nat :=
  let index := code - syllableBase
  let leading := leadingBase + index / (vowelCount * trailingCount)
  let vowel := vowelBase + index % (vowelCount * trailingCount) / trailingCount
  if index % trailingCount = 0 then [leading, vowel]
  else [leading, vowel, trailingBase + index % trailingCount]

def joinSyllable? (first second : Nat) : Option Nat :=
  if leadingBase ≤ first && first < leadingBase + 19 && vowelBase ≤ second &&
      second < vowelBase + vowelCount then
    some (syllableBase +
      ((first - leadingBase) * vowelCount + (second - vowelBase)) * trailingCount)
  else if isSyllable first && (first - syllableBase) % trailingCount = 0 &&
      trailingBase < second && second < trailingBase + trailingCount then
    some (first + (second - trailingBase))
  else none

/-! Taking characters apart. -/

def compatible (code : Nat) : List Nat :=
  match data.expansions.lookup code with
  | some codes => codes
  | none =>
    match data.runs.find? fun run => run.1 ≤ code && code ≤ run.2.1 with
    | some run => [run.2.2 + (code - run.1)]
    | none => [code]

/-- A character and its marks apart; one with several marks loses them one after the other. -/
def apart : (steps : Nat) → (code : Nat) → List Nat
  | 0, code => [code]
  | steps + 1, code =>
    if isSyllable code then splitSyllable code
    else
      match data.compositions.find? fun composition => composition.2.2 = code with
      | some composition => apart steps composition.1 ++ [composition.2.1]
      | none => [code]

def markLimit : Nat := 4

/-! The order of marks. -/

def markClass (code : Nat) : Nat :=
  match data.classes.find? fun range => range.1 ≤ code && code ≤ range.2.1 with
  | some range => range.2.2
  | none => 0

def insertMark (code : Nat) : List Nat → List Nat
  | [] => [code]
  | other :: rest =>
    if 0 < data.markClass other && data.markClass other < data.markClass code then
      other :: insertMark code rest
    else code :: other :: rest

def order (codes : List Nat) : List Nat :=
  codes.foldr data.insertMark []

/-! Putting characters together. -/

def together? (first second : Nat) : Option Nat :=
  match joinSyllable? first second with
  | some code => some code
  | none =>
    (data.compositions.find? fun composition =>
      composition.1 = first && composition.2.1 = second).map fun composition => composition.2.2

/-- Put a character and the marks behind it together where there is one for both. A mark is
kept from the character by one of its own class in between. -/
def compose (start : Nat) (marks : List Nat) : List Nat → List Nat
  | [] => start :: marks
  | code :: rest =>
    let isFree := match marks.getLast? with
      | none => true
      | some mark => data.markClass mark < data.markClass code
    match if isFree then data.together? start code else none with
    | some composed => compose composed marks rest
    | none =>
      if data.markClass code = 0 then start :: marks ++ compose code [] rest
      else compose start (marks ++ [code]) rest

def normalCodes (codes : List Nat) : List Nat :=
  match data.order ((codes.flatMap data.compatible).flatMap (data.apart markLimit)) with
  | [] => []
  | first :: rest => data.compose first [] rest

end Normalization

def normalForm (identifier : List Char) : List Char :=
  if identifier.all fun char => char.toNat < 128 then identifier
  else (normalization.normalCodes (identifier.map Char.toNat)).map Char.ofNat

end FrameCheck.Text
