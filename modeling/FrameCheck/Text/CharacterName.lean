import FrameCheck.Text.CharacterNameData
import FrameCheck.Text.Hexadecimal
import FrameCheck.Text.Split

/-!
From the names of characters to their numbers. Syllables of Hangul and unified ideographs have
names that follow a rule, in capital letters; all other names stand in a list, and there the
case of letters does not matter.
-/

namespace FrameCheck.Text

/-! Names in a list. -/

structure NameEntry where
  code : Nat
  words : List (List Char)

namespace NameEntry

def after (entry : NameEntry) (chars : List Char) : NameEntry :=
  let (code, chars) := match chars with
    | '@' :: rest =>
      (hexadecimalValue (rest.takeWhile (· != ' ')), (rest.dropWhile (· != ' ')).drop 1)
    | _ => (entry.code + 1, chars)
  match chars with
  | [] => { entry with code := code }
  | digit :: rest => ⟨code, entry.words.take (digit.toNat - 48) ++ split ' ' rest⟩

end NameEntry

def findName (name : List (List Char)) (entry : NameEntry) : List (List Char) → Option Nat
  | [] => none
  | chars :: rest =>
    let entry := entry.after chars
    if entry.words = name then some entry.code else findName name entry rest

def findListed (list : String) (name : List Char) : Option Nat :=
  let entries := (list.splitOn "\n").flatMap fun line => split ';' line.toList
  findName (split ' ' name) ⟨0, []⟩ entries

/-! Syllables of Hangul. -/

def leadingNames : List (List Char) :=
  ["G", "GG", "N", "D", "DD", "R", "M", "B", "BB", "S", "SS", "", "J", "JJ", "C", "K", "T", "P",
    "H"].map String.toList

def vowelNames : List (List Char) :=
  ["A", "AE", "YA", "YAE", "EO", "E", "YEO", "YE", "O", "WA", "WAE", "OE", "YO", "U", "WEO", "WE",
    "WI", "YU", "EU", "YI", "I"].map String.toList

def trailingNames : List (List Char) :=
  ["", "G", "GG", "GS", "N", "NJ", "NH", "D", "L", "LG", "LM", "LB", "LS", "LT", "LP", "LH", "M",
    "B", "BS", "S", "SS", "NG", "J", "C", "K", "T", "P", "H"].map String.toList

/-- The longest of some names that characters begin with: its position, and what follows it. -/
def longestName (names : List (List Char)) (chars : List Char) : Option (Nat × List Char) :=
  let fitting := names.zipIdx.filter fun entry => entry.1.isPrefixOf chars
  let longest := fitting.foldl
    (fun best entry =>
      if (best.map fun found => found.1.length).getD 0 ≤ entry.1.length then some entry else best)
    none
  longest.map fun entry => (entry.2, chars.drop entry.1.length)

def namedSyllable? (chars : List Char) : Option Nat := do
  let (leading, chars) ← longestName leadingNames chars
  let (vowel, chars) ← longestName vowelNames chars
  let (trailing, chars) ← longestName trailingNames chars
  if chars.isEmpty then
    some (0xAC00 + (leading * vowelNames.length + vowel) * trailingNames.length + trailing)
  else none

/-! Unified ideographs. -/

def ideographRanges : List (Nat × Nat) :=
  [(0x3400, 0x4DBF), (0x4E00, 0x9FFF), (0x20000, 0x2A6DF), (0x2A700, 0x2B738),
    (0x2B740, 0x2B81D), (0x2B820, 0x2CEA1), (0x2CEB0, 0x2EBE0), (0x30000, 0x3134A)]

def isCapitalHexDigit (char : Char) : Bool :=
  char.isDigit || ('A' ≤ char && char ≤ 'F')

def numberedIdeograph? (digits : List Char) : Option Nat :=
  let code := hexadecimalValue digits
  if (digits.length = 4 || digits.length = 5) && digits.all isCapitalHexDigit &&
      ideographRanges.any fun range => range.1 ≤ code && code ≤ range.2 then some code
  else none

/-! All names. -/

def syllableBeginning : List Char := "HANGUL SYLLABLE ".toList

def ideographBeginning : List Char := "CJK UNIFIED IDEOGRAPH-".toList

def codeOfName? (name : List Char) : Option Nat :=
  if syllableBeginning.isPrefixOf name then
    namedSyllable? (name.drop syllableBeginning.length)
  else if ideographBeginning.isPrefixOf name then
    numberedIdeograph? (name.drop ideographBeginning.length)
  else
    let capitals := name.map Char.toUpper
    (findListed characterNames capitals).or (findListed furtherNames capitals)

end FrameCheck.Text
