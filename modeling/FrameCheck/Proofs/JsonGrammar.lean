import FrameCheck.Text.Basic
import Mathlib.Algebra.Field.Rat
import Mathlib.Data.List.TakeWhile

/-!
The grammar of JSON texts. Every rule says what it reads at the start of a text, what that
denotes, and what it leaves of the text. A whole text denotes at most one value.

Numbers need no rule that they be taken as long as possible: what may follow a value in a whole
text is never part of a number.
-/

namespace FrameCheck.JsonText

/-- What JSON texts denote. Numbers are exact, and members keep their order. -/
inductive Value where
  | null
  | truth (value : Bool)
  | number (value : ℚ)
  | text (value : Text)
  | array (items : List Value)
  | object (members : List (Text × Value))

/-! ## Blanks -/

def isBlank (char : Char) : Bool :=
  char == ' ' || char == '\n' || char == '\r' || char == '\t'

inductive Gap : List Char → List Char → Prop
  | none {rest : List Char} : Gap rest rest
  | blank {char : Char} {text rest : List Char} (blank : isBlank char = true)
      (others : Gap text rest) : Gap (char :: text) rest

/-! ## Numbers -/

@[ext] structure Digits where
  chars : List Char
  nonempty : chars ≠ []
  digits : ∀ char ∈ chars, char.isDigit = true

def Digits.value (digits : Digits) : ℕ :=
  Nat.ofDigitChars 10 digits.chars 0

inductive ExponentSign where
  | none
  | plus
  | minus

def ExponentSign.text : ExponentSign → List Char
  | none => []
  | plus => ['+']
  | minus => ['-']

structure Exponent where
  letter : Char
  isLetter : letter = 'e' ∨ letter = 'E'
  sign : ExponentSign
  digits : Digits

namespace Exponent

def text (exponent : Exponent) : List Char :=
  exponent.letter :: (exponent.sign.text ++ exponent.digits.chars)

def value (exponent : Exponent) : ℤ :=
  match exponent.sign with
  | .minus => -exponent.digits.value
  | _ => exponent.digits.value

end Exponent

structure Numeral where
  minus : Bool
  whole : Digits
  noLeadingZero : whole.chars.head? = some '0' → whole.chars = ['0']
  fraction : Option Digits
  exponent : Option Exponent

namespace Numeral

def signText : Bool → List Char
  | true => ['-']
  | false => []

def fractionText : Option Digits → List Char
  | some digits => '.' :: digits.chars
  | none => []

def exponentText : Option Exponent → List Char
  | some exponent => exponent.text
  | none => []

def text (numeral : Numeral) : List Char :=
  signText numeral.minus ++ (numeral.whole.chars ++
    (fractionText numeral.fraction ++ exponentText numeral.exponent))

def magnitude (numeral : Numeral) : ℚ :=
  (numeral.whole.value + (numeral.fraction.elim 0 fun digits =>
    (digits.value : ℚ) / 10 ^ digits.chars.length)) *
      10 ^ (numeral.exponent.elim 0 Exponent.value)

def value (numeral : Numeral) : ℚ :=
  if numeral.minus then -numeral.magnitude else numeral.magnitude

end Numeral

/-! ## Strings -/

def isPlain (char : Char) : Bool :=
  char != '\x22' && char != '\\' && 32 ≤ char.toNat

def escaped? (letter : Char) : Option Char :=
  [('\x22', '\x22'), ('\\', '\\'), ('/', '/'), ('b', '\x08'), ('f', '\x0c'), ('n', '\n'),
    ('r', '\r'), ('t', '\t')].lookup letter

def hexDigit? (char : Char) : Option ℕ :=
  if '0' ≤ char ∧ char ≤ '9' then some (char.toNat - 48)
  else if 'a' ≤ char ∧ char ≤ 'f' then some (char.toNat - 87)
  else if 'A' ≤ char ∧ char ≤ 'F' then some (char.toNat - 55)
  else none

def unit? (first second third fourth : Char) : Option CodePoint := do
  let number := (((← hexDigit? first) * 16 + (← hexDigit? second)) * 16 +
    (← hexDigit? third)) * 16 + (← hexDigit? fourth)
  CodePoint.ofNumber? number

inductive StringText : List Char → List CodePoint → List Char → Prop
  | close {rest : List Char} : StringText ('\x22' :: rest) [] rest
  | plain {char : Char} {text rest : List Char} {points : List CodePoint}
      (plain : isPlain char = true) (others : StringText text points rest) :
      StringText (char :: text) (.char char :: points) rest
  | escape {letter char : Char} {text rest : List Char} {points : List CodePoint}
      (stands : escaped? letter = some char) (others : StringText text points rest) :
      StringText ('\\' :: letter :: text) (.char char :: points) rest
  | unit {first second third fourth : Char} {point : CodePoint} {text rest : List Char}
      {points : List CodePoint} (stands : unit? first second third fourth = some point)
      (others : StringText text points rest) :
      StringText ('\\' :: 'u' :: first :: second :: third :: fourth :: text) (point :: points) rest

/-- Put a code point in front of others. The two halves of a surrogate pair become one
character. -/
def joinPoint : CodePoint → List CodePoint → List CodePoint
  | .surrogate high, .surrogate low :: rest =>
    if high.val < 0x400 ∧ 0x400 ≤ low.val then
      .char (Char.ofNat (0x10000 + high.val * 0x400 + (low.val - 0x400))) :: rest
    else .surrogate high :: .surrogate low :: rest
  | point, rest => point :: rest

def joined (points : List CodePoint) : List CodePoint :=
  points.foldr joinPoint []

/-! ## Values -/

inductive NameText : List Char → Text → List Char → Prop
  | intro {text inside behind rest : List Char} {points : List CodePoint}
      (gap : Gap text ('\x22' :: inside)) (string : StringText inside points behind)
      (gapBehind : Gap behind (':' :: rest)) : NameText text ⟨joined points⟩ rest

mutual

inductive ValueText : List Char → Value → List Char → Prop
  | null {rest : List Char} : ValueText ('n' :: 'u' :: 'l' :: 'l' :: rest) .null rest
  | trueWord {rest : List Char} :
      ValueText ('t' :: 'r' :: 'u' :: 'e' :: rest) (.truth true) rest
  | falseWord {rest : List Char} :
      ValueText ('f' :: 'a' :: 'l' :: 's' :: 'e' :: rest) (.truth false) rest
  | number {text rest : List Char} (numeral : Numeral) (starts : text = numeral.text ++ rest) :
      ValueText text (.number numeral.value) rest
  | string {text rest : List Char} {points : List CodePoint}
      (string : StringText text points rest) :
      ValueText ('\x22' :: text) (.text ⟨joined points⟩) rest
  | emptyArray {text rest : List Char} (gap : Gap text (']' :: rest)) :
      ValueText ('[' :: text) (.array []) rest
  | array {text rest : List Char} {items : List Value}
      (inside : ItemsText text items (']' :: rest)) :
      ValueText ('[' :: text) (.array items) rest
  | emptyObject {text rest : List Char} (gap : Gap text ('\x7d' :: rest)) :
      ValueText ('\x7b' :: text) (.object []) rest
  | object {text rest : List Char} {members : List (Text × Value)}
      (inside : MembersText text members ('\x7d' :: rest)) :
      ValueText ('\x7b' :: text) (.object members) rest

inductive ElementText : List Char → Value → List Char → Prop
  | intro {text start behind rest : List Char} {value : Value} (gap : Gap text start)
      (read : ValueText start value behind) (gapBehind : Gap behind rest) :
      ElementText text value rest

inductive ItemsText : List Char → List Value → List Char → Prop
  | last {text rest : List Char} {value : Value} (element : ElementText text value rest) :
      ItemsText text [value] rest
  | more {text next rest : List Char} {value : Value} {items : List Value}
      (element : ElementText text value (',' :: next)) (others : ItemsText next items rest) :
      ItemsText text (value :: items) rest

inductive MembersText : List Char → List (Text × Value) → List Char → Prop
  | last {text behind rest : List Char} {name : Text} {value : Value}
      (named : NameText text name behind) (element : ElementText behind value rest) :
      MembersText text [(name, value)] rest
  | more {text behind next rest : List Char} {name : Text} {value : Value}
      {members : List (Text × Value)} (named : NameText text name behind)
      (element : ElementText behind value (',' :: next)) (others : MembersText next members rest) :
      MembersText text ((name, value) :: members) rest

end

def Denotes (text : List Char) (value : Value) : Prop :=
  ElementText text value []

/-! ## Runs of characters -/

def Stops (property : Char → Bool) (text : List Char) : Prop :=
  ∀ char, text.head? = some char → property char = false

theorem stops_cons {property : Char → Bool} {char : Char} {text : List Char}
    (stops : property char = false) : Stops property (char :: text) := by
  intro first isFirst
  cases isFirst
  exact stops

theorem Stops.takeWhile_append {property : Char → Bool} {run rest : List Char}
    (within : ∀ char ∈ run, property char = true) (stops : Stops property rest) :
    (run ++ rest).takeWhile property = run := by
  rw [List.takeWhile_append_of_pos within]
  cases rest with
  | nil => rw [List.takeWhile_nil, List.append_nil]
  | cons char others =>
    rw [List.takeWhile_cons_of_neg (by simp [stops char rfl]), List.append_nil]

/-- A run of characters with a property is taken as long as possible, in only one way. -/
theorem run_unique {property : Char → Bool} {run other rest left : List Char}
    (within : ∀ char ∈ run, property char = true)
    (otherWithin : ∀ char ∈ other, property char = true)
    (stops : Stops property rest) (otherStops : Stops property left)
    (same : run ++ rest = other ++ left) : run = other ∧ rest = left := by
  have runs : run = other := by
    rw [← stops.takeWhile_append within, same, otherStops.takeWhile_append otherWithin]
  subst runs
  exact ⟨rfl, List.append_cancel_left same⟩

theorem Gap.unique {text rest left : List Char} (gap : Gap text rest) (other : Gap text left)
    (stops : Stops isBlank rest) (otherStops : Stops isBlank left) : rest = left := by
  induction gap with
  | none =>
    cases other with
    | none => rfl
    | blank blank _ => rw [stops _ rfl] at blank; cases blank
  | blank blank _ inOthers =>
    cases other with
    | none => rw [otherStops _ rfl] at blank; cases blank
    | blank _ others => exact inOthers others stops

/-! ## Numbers are read in one way -/

theorem Digits.unique {digits other : Digits} {rest left : List Char}
    (stops : Stops Char.isDigit rest) (otherStops : Stops Char.isDigit left)
    (same : digits.chars ++ rest = other.chars ++ left) : digits = other ∧ rest = left := by
  obtain ⟨chars, rests⟩ := run_unique digits.digits other.digits stops otherStops same
  exact ⟨Digits.ext chars, rests⟩

theorem Digits.exists_cons (digits : Digits) :
    ∃ char others, digits.chars = char :: others ∧ char.isDigit = true := by
  obtain ⟨char, others, split⟩ := List.exists_cons_of_ne_nil digits.nonempty
  exact ⟨char, others, split, digits.digits char (by rw [split]; exact List.mem_cons_self)⟩

def continuesDigits (char : Char) : Bool :=
  char.isDigit || char == '.'

def continuesNumber (char : Char) : Bool :=
  continuesDigits char || char == 'e' || char == 'E'

theorem Stops.mono {property other : Char → Bool} {text : List Char}
    (implies : ∀ char, property char = true → other char = true) (stops : Stops other text) :
    Stops property text := by
  intro char isFirst
  cases holds : property char with
  | false => rfl
  | true =>
    have notOther := stops char isFirst
    rw [implies char holds] at notOther
    cases notOther

theorem stops_exponentText {rest : List Char} (stops : Stops continuesNumber rest)
    (exponent : Option Exponent) :
    Stops continuesDigits (Numeral.exponentText exponent ++ rest) := by
  cases exponent with
  | none => exact stops.mono fun char continues => by simp [continuesNumber, continues]
  | some exponent =>
    exact stops_cons (by rcases exponent.isLetter with isE | isE <;> rw [isE] <;> rfl)

theorem stops_fractionText {rest : List Char} (stops : Stops continuesDigits rest)
    (fraction : Option Digits) : Stops Char.isDigit (Numeral.fractionText fraction ++ rest) := by
  cases fraction with
  | none => exact stops.mono fun char isDigit => by simp [continuesDigits, isDigit]
  | some digits => exact stops_cons rfl

theorem Digits.stops (digits : Digits) (rest : List Char) :
    Stops (fun char => !char.isDigit) (digits.chars ++ rest) := by
  obtain ⟨char, others, split, isDigit⟩ := digits.exists_cons
  rw [split]
  exact stops_cons (by simp [isDigit])

theorem sign_unique {sign other : List Char} (isSign : ∀ char ∈ sign, (!char.isDigit) = true)
    (otherIsSign : ∀ char ∈ other, (!char.isDigit) = true) {digits otherDigits : Digits}
    {rest left : List Char}
    (same : sign ++ (digits.chars ++ rest) = other ++ (otherDigits.chars ++ left)) :
    sign = other ∧ digits.chars ++ rest = otherDigits.chars ++ left :=
  run_unique isSign otherIsSign (digits.stops rest) (otherDigits.stops left) same

theorem ExponentSign.text_isSign (sign : ExponentSign) :
    ∀ char ∈ sign.text, (!char.isDigit) = true := by
  cases sign <;> simp [text]

theorem ExponentSign.text_injective {sign other : ExponentSign} (same : sign.text = other.text) :
    sign = other := by
  revert same
  cases sign <;> cases other <;> simp [text]

theorem exponent_unique {exponent other : Option Exponent} {rest left : List Char}
    (stops : Stops continuesNumber rest) (otherStops : Stops continuesNumber left)
    (same : Numeral.exponentText exponent ++ rest = Numeral.exponentText other ++ left) :
    exponent = other ∧ rest = left := by
  have letterContinues (exponent : Exponent) : continuesNumber exponent.letter = true := by
    rcases exponent.isLetter with isE | isE <;> rw [isE] <;> rfl
  cases exponent with
  | none =>
    cases other with
    | none => exact ⟨rfl, same⟩
    | some other =>
      have notLetter := stops other.letter (by
        rw [show rest = _ from same]
        rfl)
      rw [letterContinues] at notLetter
      cases notLetter
  | some exponent =>
    cases other with
    | none =>
      have notLetter := otherStops exponent.letter (by
        rw [show left = _ from same.symm]
        rfl)
      rw [letterContinues] at notLetter
      cases notLetter
    | some other =>
      obtain ⟨letter, isLetter, sign, digits⟩ := exponent
      obtain ⟨otherLetter, otherIsLetter, otherSign, otherDigits⟩ := other
      simp only [Numeral.exponentText, Exponent.text, List.cons_append, List.append_assoc,
        List.cons.injEq] at same
      obtain ⟨rfl, sameRest⟩ := same
      obtain ⟨sameSign, sameDigits⟩ := sign_unique sign.text_isSign otherSign.text_isSign sameRest
      obtain rfl := ExponentSign.text_injective sameSign
      have isDigit : ∀ char : Char, char.isDigit = true → continuesNumber char = true :=
        fun char isDigit => by simp [continuesNumber, continuesDigits, isDigit]
      obtain ⟨rfl, rests⟩ := Digits.unique (stops.mono isDigit) (otherStops.mono isDigit) sameDigits
      exact ⟨rfl, rests⟩

theorem fraction_unique {fraction other : Option Digits} {rest left : List Char}
    (stops : Stops continuesDigits rest) (otherStops : Stops continuesDigits left)
    (same : Numeral.fractionText fraction ++ rest = Numeral.fractionText other ++ left) :
    fraction = other ∧ rest = left := by
  cases fraction with
  | none =>
    cases other with
    | none => exact ⟨rfl, same⟩
    | some other => cases stops '.' (by rw [show rest = _ from same]; rfl)
  | some digits =>
    cases other with
    | none => cases otherStops '.' (by rw [show left = _ from same.symm]; rfl)
    | some other =>
      have isDigit : ∀ char : Char, char.isDigit = true → continuesDigits char = true :=
        fun char isDigit => by simp [continuesDigits, isDigit]
      obtain ⟨rfl, rests⟩ := Digits.unique (stops.mono isDigit) (otherStops.mono isDigit)
        (List.cons.inj same).2
      exact ⟨rfl, rests⟩

namespace Numeral

theorem exists_cons (numeral : Numeral) :
    ∃ char others, numeral.text = char :: others ∧ (char = '-' ∨ char.isDigit = true) := by
  cases isMinus : numeral.minus with
  | true => exact ⟨'-', _, by rw [text, isMinus]; rfl, .inl rfl⟩
  | false =>
    obtain ⟨char, others, split, isDigit⟩ := numeral.whole.exists_cons
    exact ⟨char, _, by rw [text, isMinus, split]; rfl, .inr isDigit⟩

theorem signText_isSign (minus : Bool) : ∀ char ∈ signText minus, (!char.isDigit) = true := by
  cases minus <;> simp [signText]

theorem signText_injective {minus other : Bool} (same : signText minus = signText other) :
    minus = other := by
  revert same
  cases minus <;> cases other <;> simp [signText]

theorem unique {numeral other : Numeral} {rest left : List Char}
    (stops : Stops continuesNumber rest) (otherStops : Stops continuesNumber left)
    (same : numeral.text ++ rest = other.text ++ left) : numeral = other ∧ rest = left := by
  obtain ⟨minus, whole, noLeadingZero, fraction, exponent⟩ := numeral
  obtain ⟨otherMinus, otherWhole, otherNoLeadingZero, otherFraction, otherExponent⟩ := other
  simp only [text, List.append_assoc] at same
  have exponentStops := stops_exponentText stops exponent
  have otherExponentStops := stops_exponentText otherStops otherExponent
  obtain ⟨sameSign, sameWhole⟩ :=
    sign_unique (signText_isSign minus) (signText_isSign otherMinus) same
  obtain rfl := signText_injective sameSign
  obtain ⟨rfl, sameFraction⟩ := Digits.unique (stops_fractionText exponentStops fraction)
    (stops_fractionText otherExponentStops otherFraction) sameWhole
  obtain ⟨rfl, sameExponent⟩ := fraction_unique exponentStops otherExponentStops sameFraction
  obtain ⟨rfl, rests⟩ := exponent_unique stops otherStops sameExponent
  exact ⟨rfl, rests⟩

end Numeral

/-! ## Texts denote one value -/

theorem StringText.unique {text rest left : List Char} {points other : List CodePoint}
    (string : StringText text points rest) (otherString : StringText text other left) :
    points = other ∧ rest = left := by
  induction string generalizing other with
  | close =>
    cases otherString with
    | close => exact ⟨rfl, rfl⟩
    | plain plain _ => cases plain
  | plain plain _ inOthers =>
    cases otherString with
    | close => cases plain
    | plain _ others =>
      obtain ⟨rfl, rests⟩ := inOthers others
      exact ⟨rfl, rests⟩
    | escape _ _ => cases plain
    | unit _ _ => cases plain
  | escape stands _ inOthers =>
    cases otherString with
    | plain plain _ => cases plain
    | escape otherStands others =>
      obtain ⟨rfl, rests⟩ := inOthers others
      rw [stands, Option.some.injEq] at otherStands
      exact ⟨by rw [otherStands], rests⟩
    | unit _ _ => cases stands
  | unit stands _ inOthers =>
    cases otherString with
    | plain plain _ => cases plain
    | escape otherStands _ => cases otherStands
    | unit otherStands others =>
      obtain ⟨rfl, rests⟩ := inOthers others
      rw [stands, Option.some.injEq] at otherStands
      exact ⟨by rw [otherStands], rests⟩

def startsValue (char : Char) : Bool :=
  char.isDigit || ['-', 'n', 't', 'f', '\x22', '[', '\x7b'].contains char

theorem ValueText.exists_cons {text rest : List Char} {value : Value}
    (read : ValueText text value rest) :
    ∃ char others, text = char :: others ∧ startsValue char = true := by
  cases read with
  | number numeral starts =>
    obtain ⟨char, others, split, isStart⟩ := numeral.exists_cons
    refine ⟨char, others ++ rest, by rw [starts, split, List.cons_append], ?_⟩
    rcases isStart with rfl | isDigit
    · decide
    · simp [startsValue, isDigit]
  | _ => exact ⟨_, _, rfl, by decide⟩

theorem startsValue_of_isBlank {char : Char} (blank : isBlank char = true) :
    startsValue char = false := by
  simp only [isBlank, Bool.or_eq_true, beq_iff_eq] at blank
  rcases blank with ((rfl | rfl) | rfl) | rfl <;> decide

theorem ValueText.stops {text rest : List Char} {value : Value}
    (read : ValueText text value rest) : Stops isBlank text := by
  obtain ⟨char, others, rfl, starts⟩ := read.exists_cons
  refine stops_cons ?_
  cases blank : isBlank char with
  | false => rfl
  | true => rw [startsValue_of_isBlank blank] at starts; cases starts

theorem NameText.unique {text rest left : List Char} {name other : Text}
    (named : NameText text name rest) (otherNamed : NameText text other left) :
    name = other ∧ rest = left := by
  obtain ⟨gap, string, gapBehind⟩ := named
  obtain ⟨otherGap, otherString, otherGapBehind⟩ := otherNamed
  have sameStart := gap.unique otherGap (stops_cons rfl) (stops_cons rfl)
  cases sameStart
  obtain ⟨rfl, rfl⟩ := string.unique otherString
  have sameRest := gapBehind.unique otherGapBehind (stops_cons rfl) (stops_cons rfl)
  cases sameRest
  exact ⟨rfl, rfl⟩

def Closes (text : List Char) : Prop :=
  ∀ char, text.head? = some char → char = ',' ∨ char = ']' ∨ char = '\x7d'

theorem closes_cons {char : Char} {text : List Char}
    (closes : char = ',' ∨ char = ']' ∨ char = '\x7d') : Closes (char :: text) := by
  intro first isFirst
  cases isFirst
  exact closes

theorem Closes.stops {text : List Char} (closes : Closes text) : Stops isBlank text := by
  intro char isFirst
  rcases closes char isFirst with rfl | rfl | rfl <;> rfl

theorem Gap.stops_number {text rest : List Char} (gap : Gap text rest) (closes : Closes rest) :
    Stops continuesNumber text := by
  cases gap with
  | none =>
    intro char isFirst
    rcases closes char isFirst with rfl | rfl | rfl <;> decide
  | blank blank _ =>
    refine stops_cons ?_
    simp only [isBlank, Bool.or_eq_true, beq_iff_eq] at blank
    rcases blank with ((rfl | rfl) | rfl) | rfl <;> decide

theorem Numeral.cons_ne {char : Char} (notMinus : char ≠ '-') (notDigit : char.isDigit = false)
    (text : List Char) (numeral : Numeral) (rest : List Char) :
    char :: text ≠ numeral.text ++ rest := by
  obtain ⟨first, others, split, starts⟩ := numeral.exists_cons
  rw [split]
  intro same
  obtain ⟨rfl, -⟩ := List.cons.inj same
  rcases starts with isMinus | isDigit
  · exact notMinus isMinus
  · rw [notDigit] at isDigit
    cases isDigit

theorem ValueText.eq_of_numeral {text rest left : List Char} {value : Value} {numeral : Numeral}
    (read : ValueText text value rest) (starts : text = numeral.text ++ left)
    (stops : Stops continuesNumber rest) (otherStops : Stops continuesNumber left) :
    value = .number numeral.value ∧ rest = left := by
  cases read with
  | number other otherStarts =>
    obtain ⟨rfl, rests⟩ := Numeral.unique stops otherStops (otherStarts.symm.trans starts)
    exact ⟨rfl, rests⟩
  | _ => exact absurd starts (Numeral.cons_ne (by decide) (by decide) _ _ _)

theorem ElementText.not_bracket {text rest left : List Char} {value : Value}
    (element : ElementText text value rest) : ¬ Gap text (']' :: left) := by
  obtain ⟨gap, read, -⟩ := element
  intro otherGap
  cases gap.unique otherGap read.stops (stops_cons rfl)
  obtain ⟨_, _, split, starts⟩ := read.exists_cons
  cases split
  cases starts

theorem ItemsText.not_bracket {text rest left : List Char} {items : List Value}
    (inside : ItemsText text items rest) : ¬ Gap text (']' :: left) := by
  cases inside with
  | last element => exact element.not_bracket
  | more element _ => exact element.not_bracket

theorem MembersText.not_brace {text rest left : List Char} {members : List (Text × Value)}
    (inside : MembersText text members rest) : ¬ Gap text ('\x7d' :: left) := by
  have named : ∃ name behind, NameText text name behind := by
    cases inside with
    | last named _ => exact ⟨_, _, named⟩
    | more named _ _ => exact ⟨_, _, named⟩
  obtain ⟨name, behind, gap, -, -⟩ := named
  intro otherGap
  cases gap.unique otherGap (stops_cons rfl) (stops_cons rfl)

mutual

theorem ValueText.unique {text rest left : List Char} {value other : Value}
    (read : ValueText text value rest) (otherRead : ValueText text other left)
    (stops : Stops continuesNumber rest) (otherStops : Stops continuesNumber left) :
    value = other ∧ rest = left := by
  match read, otherRead with
  | .number numeral starts, otherRead =>
    obtain ⟨rfl, rests⟩ := otherRead.eq_of_numeral starts otherStops stops
    exact ⟨rfl, rests.symm⟩
  | read, .number numeral starts => exact read.eq_of_numeral starts stops otherStops
  | .null, .null => exact ⟨rfl, rfl⟩
  | .trueWord, .trueWord => exact ⟨rfl, rfl⟩
  | .falseWord, .falseWord => exact ⟨rfl, rfl⟩
  | .string string, .string otherString =>
    obtain ⟨rfl, rests⟩ := string.unique otherString
    exact ⟨rfl, rests⟩
  | .emptyArray gap, .emptyArray otherGap =>
    cases gap.unique otherGap (stops_cons rfl) (stops_cons rfl)
    exact ⟨rfl, rfl⟩
  | .emptyArray gap, .array inside => exact absurd gap inside.not_bracket
  | .array inside, .emptyArray gap => exact absurd gap inside.not_bracket
  | .array inside, .array otherInside =>
    obtain ⟨rfl, rests⟩ := inside.unique otherInside rfl rfl
    exact ⟨rfl, (List.cons.inj rests).2⟩
  | .emptyObject gap, .emptyObject otherGap =>
    cases gap.unique otherGap (stops_cons rfl) (stops_cons rfl)
    exact ⟨rfl, rfl⟩
  | .emptyObject gap, .object inside => exact absurd gap inside.not_brace
  | .object inside, .emptyObject gap => exact absurd gap inside.not_brace
  | .object inside, .object otherInside =>
    obtain ⟨rfl, rests⟩ := inside.unique otherInside rfl rfl
    exact ⟨rfl, (List.cons.inj rests).2⟩
termination_by structural read

theorem ElementText.unique {text rest left : List Char} {value other : Value}
    (element : ElementText text value rest) (otherElement : ElementText text other left)
    (closes : Closes rest) (otherCloses : Closes left) : value = other ∧ rest = left := by
  match element, otherElement with
  | .intro gap read gapBehind, .intro otherGap otherRead otherGapBehind =>
    cases gap.unique otherGap read.stops otherRead.stops
    obtain ⟨rfl, rfl⟩ := read.unique otherRead (gapBehind.stops_number closes)
      (otherGapBehind.stops_number otherCloses)
    exact ⟨rfl, gapBehind.unique otherGapBehind closes.stops otherCloses.stops⟩
termination_by structural element

theorem ItemsText.unique {text rest left : List Char} {items others : List Value}
    (inside : ItemsText text items rest) (otherInside : ItemsText text others left)
    (closed : rest.head? = some ']') (otherClosed : left.head? = some ']') :
    items = others ∧ rest = left := by
  have closes : Closes rest := fun char isFirst => by simp_all
  have otherCloses : Closes left := fun char isFirst => by simp_all
  match inside, otherInside with
  | .last element, .last otherElement =>
    obtain ⟨rfl, rests⟩ := element.unique otherElement closes otherCloses
    exact ⟨rfl, rests⟩
  | .last element, .more otherElement _ =>
    obtain ⟨-, rfl⟩ := element.unique otherElement closes (closes_cons (.inl rfl))
    cases closed
  | .more element _, .last otherElement =>
    obtain ⟨-, rfl⟩ := element.unique otherElement (closes_cons (.inl rfl)) otherCloses
    cases otherClosed
  | .more element others, .more otherElement otherOthers =>
    obtain ⟨rfl, rests⟩ := element.unique otherElement (closes_cons (.inl rfl))
      (closes_cons (.inl rfl))
    cases rests
    obtain ⟨rfl, rests⟩ := others.unique otherOthers closed otherClosed
    exact ⟨rfl, rests⟩
termination_by structural inside

theorem MembersText.unique {text rest left : List Char} {members others : List (Text × Value)}
    (inside : MembersText text members rest) (otherInside : MembersText text others left)
    (closed : rest.head? = some '\x7d') (otherClosed : left.head? = some '\x7d') :
    members = others ∧ rest = left := by
  have closes : Closes rest := fun char isFirst => by simp_all
  have otherCloses : Closes left := fun char isFirst => by simp_all
  match inside, otherInside with
  | .last named element, .last otherNamed otherElement =>
    obtain ⟨rfl, rfl⟩ := named.unique otherNamed
    obtain ⟨rfl, rests⟩ := element.unique otherElement closes otherCloses
    exact ⟨rfl, rests⟩
  | .last named element, .more otherNamed otherElement _ =>
    obtain ⟨rfl, rfl⟩ := named.unique otherNamed
    obtain ⟨-, rfl⟩ := element.unique otherElement closes (closes_cons (.inl rfl))
    cases closed
  | .more named element _, .last otherNamed otherElement =>
    obtain ⟨rfl, rfl⟩ := named.unique otherNamed
    obtain ⟨-, rfl⟩ := element.unique otherElement (closes_cons (.inl rfl)) otherCloses
    cases otherClosed
  | .more named element others, .more otherNamed otherElement otherOthers =>
    obtain ⟨rfl, rfl⟩ := named.unique otherNamed
    obtain ⟨rfl, rests⟩ := element.unique otherElement (closes_cons (.inl rfl))
      (closes_cons (.inl rfl))
    cases rests
    obtain ⟨rfl, rests⟩ := others.unique otherOthers closed otherClosed
    exact ⟨rfl, rests⟩
termination_by structural inside

end

theorem Denotes.unique {text : List Char} {value other : Value} (denotes : Denotes text value)
    (otherDenotes : Denotes text other) : value = other :=
  (ElementText.unique denotes otherDenotes (fun _ isFirst => nomatch isFirst)
    (fun _ isFirst => nomatch isFirst)).1

end FrameCheck.JsonText
