import FrameCheck.Proofs.JsonGrammar
import FrameCheck.Report.Diagnostic

/-!
The report for tools is a JSON text that denotes the findings, and ASCII whatever names and
messages it holds. The steps are those of the writer: characters inside quotes, strings, numbers,
and documents at all levels of indentation.
-/

namespace FrameCheck.Report

open JsonText

/-! ## Escapes -/

theorem toList_hexadecimal_succ {width : Nat} (positive : 0 < width) (number : Nat) :
    (Text.hexadecimal (width + 1) number).toList =
      (Text.hexadecimal width (number / 16)).toList ++ [(number % 16).digitChar] := by
  simp only [Text.hexadecimal, String.toList_ofList]
  rcases Nat.lt_or_ge number 16 with small | large
  · have noQuotient : number / 16 = 0 := Nat.div_eq_of_lt small
    rw [noQuotient, Nat.mod_eq_of_lt small, Nat.toDigits_of_lt_base small, Nat.toDigits_zero]
    simp only [List.length_singleton, Nat.add_sub_cancel]
    obtain ⟨fewer, rfl⟩ : ∃ fewer, width = fewer + 1 := ⟨width - 1, by omega⟩
    rw [Nat.add_sub_cancel, List.replicate_succ']
  · rw [Nat.toDigits_of_base_le (by decide) large, List.length_append, List.length_singleton,
      Nat.add_sub_add_right, List.append_assoc]

theorem toList_unitEscape {number : Nat} (isUnit : number < 0x10000) :
    (Json.unitEscape number).toList =
      ['\\', 'u', (number / 4096).digitChar, (number / 256 % 16).digitChar,
        (number / 16 % 16).digitChar, (number % 16).digitChar] := by
  have leading : (Text.hexadecimal 1 (number / 16 / 16 / 16)).toList =
      [(number / 16 / 16 / 16).digitChar] := by
    rw [Text.hexadecimal, String.toList_ofList, Nat.toDigits_of_lt_base (by omega)]
    rfl
  rw [Json.unitEscape, String.toList_append, toList_hexadecimal_succ (by decide),
    toList_hexadecimal_succ (by decide), toList_hexadecimal_succ (by decide), leading]
  simp only [Nat.div_div_eq_div_mul]
  rfl

theorem hexDigit?_digitChar : ∀ digit < 16, hexDigit? digit.digitChar = some digit := by
  decide

theorem reads_unitEscape {number : Nat} (isUnit : number < 0x10000) {point : CodePoint}
    (isPoint : CodePoint.ofNumber? number = some point) {text rest : List Char}
    {points : List CodePoint} (others : StringText text points rest) :
    StringText ((Json.unitEscape number).toList ++ text) (point :: points) rest := by
  rw [toList_unitEscape isUnit]
  refine .unit ?_ others
  rw [unit?, hexDigit?_digitChar _ (by omega), hexDigit?_digitChar _ (by omega),
    hexDigit?_digitChar _ (by omega), hexDigit?_digitChar _ (by omega)]
  have number_eq : ((number / 4096 * 16 + number / 256 % 16) * 16 + number / 16 % 16) * 16 +
      number % 16 = number := by omega
  show CodePoint.ofNumber? _ = _
  rw [number_eq, isPoint]

theorem ofNumber?_toNat (char : Char) : CodePoint.ofNumber? char.toNat = some (.char char) := by
  have valid : char.toNat < 0xD800 ∨ 0xDFFF < char.toNat ∧ char.toNat < 0x110000 := char.valid
  rw [CodePoint.ofNumber?, dif_neg (by omega), if_pos (by omega), Char.ofNat_toNat]

theorem ofNumber?_surrogate (index : Fin 0x800) :
    CodePoint.ofNumber? (0xD800 + index.val) = some (.surrogate index) := by
  rw [CodePoint.ofNumber?, dif_pos (by omega)]
  simp

/-! ## Strings -/

theorem joinPoint_low {low : Fin 0x800} (isLow : 0x400 ≤ low.val) (points : List CodePoint) :
    joinPoint (.surrogate low) points = .surrogate low :: points := by
  unfold joinPoint
  split
  next isSurrogate =>
    cases isSurrogate
    rw [if_neg (by omega)]
  next => rfl

theorem joinPoint_pair {high low : Fin 0x800} (isHigh : high.val < 0x400) (isLow : 0x400 ≤ low.val)
    (points : List CodePoint) :
    joinPoint (.surrogate high) (joinPoint (.surrogate low) points) =
      .char (Char.ofNat (0x10000 + high.val * 0x400 + (low.val - 0x400))) :: points := by
  rw [joinPoint_low isLow, joinPoint, if_pos ⟨isHigh, isLow⟩]

/-- Characters beyond sixteen bits are written as two units, which become one character again
when they are read. -/
theorem reads_pair {char : Char} (beyond : 0x10000 ≤ char.toNat) {text rest : List Char}
    {points : List CodePoint} (others : StringText text points rest) :
    ∃ units, StringText ((Json.unitEscape (0xD800 + (char.toNat - 0x10000) / 0x400) ++
        Json.unitEscape (0xDC00 + (char.toNat - 0x10000) % 0x400)).toList ++ text) units rest ∧
      joined units = .char char :: joined points := by
  have valid : char.toNat < 0xD800 ∨ 0xDFFF < char.toNat ∧ char.toNat < 0x110000 := char.valid
  let high : Fin 0x800 := ⟨(char.toNat - 0x10000) / 0x400, by omega⟩
  let low : Fin 0x800 := ⟨0x400 + (char.toNat - 0x10000) % 0x400, by omega⟩
  have isLow : 0xDC00 + (char.toNat - 0x10000) % 0x400 = 0xD800 + low.val := by
    show _ = 0xD800 + (0x400 + (char.toNat - 0x10000) % 0x400)
    omega
  refine ⟨.surrogate high :: .surrogate low :: points, ?_, ?_⟩
  · rw [String.toList_append, List.append_assoc, isLow]
    exact reads_unitEscape (by omega) (ofNumber?_surrogate high)
      (reads_unitEscape (by omega) (ofNumber?_surrogate low) others)
  · have number_eq : 0x10000 + high.val * 0x400 + (low.val - 0x400) = char.toNat := by
      show 0x10000 + (char.toNat - 0x10000) / 0x400 * 0x400 +
        (0x400 + (char.toNat - 0x10000) % 0x400 - 0x400) = char.toNat
      omega
    have isHigh : high.val < 0x400 := by
      show (char.toNat - 0x10000) / 0x400 < 0x400
      omega
    rw [joined, List.foldr_cons, List.foldr_cons, joinPoint_pair isHigh (Nat.le_add_right _ _),
      number_eq, Char.ofNat_toNat]
    rfl

inductive QuotedForm (char : Char) : List Char → Prop
  | escape {letter : Char} (stands : escaped? letter = some char) (ascii : letter.toNat < 128) :
      QuotedForm char ['\\', letter]
  | plain (plain : isPlain char = true) (ascii : char.toNat < 128) : QuotedForm char [char]
  | unit (isUnit : char.toNat < 0x10000) : QuotedForm char (Json.unitEscape char.toNat).toList
  | pair (beyond : 0x10000 ≤ char.toNat) :
      QuotedForm char (Json.unitEscape (0xD800 + (char.toNat - 0x10000) / 0x400) ++
        Json.unitEscape (0xDC00 + (char.toNat - 0x10000) % 0x400)).toList

theorem quotedForm_charText (char : Char) : QuotedForm char (Json.charText char).toList := by
  unfold Json.charText
  by_cases isQuote : char = '\x22'
  · rw [if_pos isQuote]
    exact .escape (by rw [isQuote]; rfl) (by decide)
  rw [if_neg isQuote]
  by_cases isSlash : char = '\\'
  · rw [if_pos isSlash]
    exact .escape (by rw [isSlash]; rfl) (by decide)
  rw [if_neg isSlash]
  by_cases isLine : char = '\n'
  · rw [if_pos isLine]
    exact .escape (by rw [isLine]; rfl) (by decide)
  rw [if_neg isLine]
  by_cases isReturn : char = '\r'
  · rw [if_pos isReturn]
    exact .escape (by rw [isReturn]; rfl) (by decide)
  rw [if_neg isReturn]
  by_cases isTab : char = '\t'
  · rw [if_pos isTab]
    exact .escape (by rw [isTab]; rfl) (by decide)
  rw [if_neg isTab]
  by_cases isFeed : char = '\x0c'
  · rw [if_pos isFeed]
    exact .escape (by rw [isFeed]; rfl) (by decide)
  rw [if_neg isFeed]
  by_cases isBack : char = '\x08'
  · rw [if_pos isBack]
    exact .escape (by rw [isBack]; rfl) (by decide)
  rw [if_neg isBack]
  dsimp only
  by_cases printable : 32 ≤ char.toNat ∧ char.toNat ≤ 126
  · have toList_eq : char.toString.toList = [char] := String.toList_singleton char
    rw [if_pos printable, toList_eq]
    exact .plain (by simp [isPlain, isQuote, isSlash, printable.1]) (by omega)
  rw [if_neg printable]
  by_cases isUnit : char.toNat < 0x10000
  · rw [if_pos isUnit]
    exact .unit isUnit
  · rw [if_neg isUnit]
    exact .pair (by omega)

theorem reads_charText (char : Char) {text rest : List Char} {points : List CodePoint}
    (others : StringText text points rest) :
    ∃ units, StringText ((Json.charText char).toList ++ text) units rest ∧
      joined units = .char char :: joined points := by
  have form := quotedForm_charText char
  generalize (Json.charText char).toList = quoted at form ⊢
  cases form with
  | escape stands _ => exact ⟨_, .escape stands others, rfl⟩
  | plain plain _ => exact ⟨_, .plain plain others, rfl⟩
  | unit isUnit => exact ⟨_, reads_unitEscape isUnit (ofNumber?_toNat char) others, rfl⟩
  | pair beyond => exact reads_pair beyond others

theorem reads_pointText (point : CodePoint) {text rest : List Char} {points : List CodePoint}
    (others : StringText text points rest) :
    ∃ units, StringText ((Json.pointText point).toList ++ text) units rest ∧
      joined units = joinPoint point (joined points) := by
  cases point with
  | char char => exact reads_charText char others
  | surrogate index =>
    exact ⟨_, reads_unitEscape (by show 0xD800 + index.val < 0x10000; omega)
      (ofNumber?_surrogate index) others, rfl⟩

/-- A string is read as its code points, with surrogate pairs as characters. -/
theorem reads_points (points : List CodePoint) (rest : List Char) :
    ∃ units, StringText
        (points.flatMap (fun point => (Json.pointText point).toList) ++ '\x22' :: rest) units rest ∧
      joined units = joined points := by
  induction points with
  | nil => exact ⟨[], .close, rfl⟩
  | cons point points inPoints =>
    obtain ⟨units, string, same⟩ := inPoints
    obtain ⟨more, longer, joins⟩ := reads_pointText point string
    rw [List.flatMap_cons, List.append_assoc]
    exact ⟨more, longer, by rw [joins, same]; rfl⟩

theorem toList_stringText (text : Text) (rest : List Char) :
    (Json.stringText text).toList ++ rest =
      '\x22' :: (text.points.flatMap (fun point => (Json.pointText point).toList) ++
        '\x22' :: rest) := by
  rw [Json.stringText, String.toList_append, String.toList_append, String.toList_join,
    List.flatMap_map, List.append_assoc, List.append_assoc]
  rfl

def IsWhole (text : Text) : Prop :=
  ∀ point ∈ text.points, point.isSurrogate = false

theorem joined_of_whole {points : List CodePoint}
    (isWhole : ∀ point ∈ points, point.isSurrogate = false) : joined points = points := by
  induction points with
  | nil => rfl
  | cons point points inPoints =>
    have others := inPoints fun other member => isWhole other (List.mem_cons_of_mem _ member)
    cases point with
    | char char => exact congrArg (.char char :: ·) others
    | surrogate index => cases isWhole (.surrogate index) List.mem_cons_self

theorem IsWhole.joined_eq {text : Text} (isWhole : IsWhole text) : ⟨joined text.points⟩ = text :=
  congrArg Text.mk (joined_of_whole isWhole)

theorem isWhole_ofString (string : String) : IsWhole (.ofString string) := by
  intro point member
  obtain ⟨char, -, rfl⟩ := List.mem_map.mp member
  rfl

/-! ## Numbers -/

theorem toDigits_noLeadingZero (number : Nat) :
    (Nat.toDigits 10 number).head? = some '0' → Nat.toDigits 10 number = ['0'] := by
  induction number using Nat.strong_induction_on with
  | _ number inSmaller =>
    intro startsWithZero
    rcases Nat.lt_or_ge number 10 with small | large
    · rw [Nat.toDigits_of_lt_base small] at startsWithZero ⊢
      exact congrArg (fun char => [char]) (Option.some.inj startsWithZero)
    · have isHead : (Nat.toDigits 10 (number / 10)).head? = some '0' := by
        rw [Nat.toDigits_of_base_le (by decide) large] at startsWithZero
        cases split : Nat.toDigits 10 (number / 10) with
        | nil => exact absurd split Nat.toDigits_ne_nil
        | cons char others =>
          rw [split] at startsWithZero
          exact startsWithZero
      have isZero := inSmaller (number / 10) (by omega) isHead
      have noQuotient : Nat.ofDigitChars 10 (Nat.toDigits 10 (number / 10)) 0 = 0 := by
        rw [isZero]
        rfl
      rw [Nat.ofDigitChars_ten_toDigits] at noQuotient
      omega

def digitsOf (number : Nat) : Digits where
  chars := Nat.toDigits 10 number
  nonempty := Nat.toDigits_ne_nil
  digits _ member := Nat.isDigit_of_mem_toDigits (by decide) (by decide) member

def numeralOf (value : Int) : Numeral where
  minus := decide (value < 0)
  whole := digitsOf value.natAbs
  noLeadingZero := toDigits_noLeadingZero value.natAbs
  fraction := none
  exponent := none

theorem minus_numeralOf_negSucc (number : Nat) : (numeralOf (.negSucc number)).minus = true :=
  decide_eq_true (Int.negSucc_lt_zero number)

theorem text_numeralOf (value : Int) : (numeralOf value).text = (toString value).toList := by
  have digits (number : Nat) : number.repr.toList = (digitsOf number).chars := by
    rw [Nat.repr_eq_ofList_toDigits, String.toList_ofList]
    rfl
  rw [Int.toString_eq_repr, Numeral.text]
  cases value with
  | ofNat number =>
    show [] ++ ((digitsOf number).chars ++ ([] ++ [])) = number.repr.toList
    rw [digits, List.nil_append, List.append_nil, List.append_nil]
  | negSucc number =>
    rw [minus_numeralOf_negSucc]
    show ['-'] ++ ((digitsOf (number + 1)).chars ++ ([] ++ [])) = ("-" ++ (number + 1).repr).toList
    rw [String.toList_append, digits, List.append_nil, List.append_nil]
    rfl

theorem magnitude_numeralOf (value : Int) : (numeralOf value).magnitude = value.natAbs := by
  have whole : (digitsOf value.natAbs).value = value.natAbs := Nat.ofDigitChars_ten_toDigits
  show (((digitsOf value.natAbs).value : ℚ) + 0) * 10 ^ (0 : ℤ) = value.natAbs
  rw [whole, add_zero, zpow_zero, mul_one]

theorem value_numeralOf (value : Int) : (numeralOf value).value = value := by
  rw [Numeral.value, magnitude_numeralOf]
  cases value with
  | ofNat number =>
    show (number : ℚ) = ((number : ℤ) : ℚ)
    rw [Int.cast_natCast]
  | negSucc number =>
    rw [if_pos (minus_numeralOf_negSucc number), Int.cast_negSucc, Int.natAbs_negSucc]

/-! ## Documents -/

mutual

def Json.denoted : Json → Value
  | .number value => .number value
  | .text value => .text ⟨joined value.points⟩
  | .array items => .array items.denoted
  | .object members => .object members.denoted

def Items.denoted : Items → List Value
  | .nil => []
  | .cons first rest => first.denoted :: rest.denoted

def Members.denoted : Members → List (Text × Value)
  | .nil => []
  | .cons name value rest => (.ofString name, value.denoted) :: rest.denoted

end

theorem gap_replicate (count : Nat) (text : List Char) :
    Gap (List.replicate count ' ' ++ text) text := by
  induction count with
  | zero => exact .none
  | succ count inCount => exact .blank rfl inCount

theorem gap_lineBreak (level : Nat) (text : List Char) :
    Gap ((Json.lineBreak level).toList ++ text) text := by
  have blanks : (String.ofList (List.replicate (2 * level) ' ')).toList =
      List.replicate (2 * level) ' ' := String.toList_ofList
  rw [Json.lineBreak, String.toList_append, blanks]
  exact .blank rfl (gap_replicate _ text)

theorem reads_name (level : Nat) (name : String) (rest : List Char) :
    NameText ((Json.lineBreak level).toList ++ ((Json.stringText name).toList ++ ':' :: rest))
      (.ofString name) rest := by
  obtain ⟨units, string, same⟩ := reads_points (Text.ofString name).points (':' :: rest)
  have read := NameText.intro (gap_lineBreak level _) string .none
  rwa [same, (isWhole_ofString name).joined_eq, ← toList_stringText] at read

mutual

theorem Json.reads (level : Nat) (json : Json) (rest : List Char) :
    ValueText ((json.render level).toList ++ rest) json.denoted rest := by
  match json with
  | .number value =>
    rw [Json.render, Json.denoted, ← value_numeralOf, ← text_numeralOf]
    exact .number _ rfl
  | .text value =>
    obtain ⟨units, string, same⟩ := reads_points value.points rest
    rw [Json.render, Json.denoted, toList_stringText, ← same]
    exact .string string
  | .array .nil =>
    rw [Json.render, Json.denoted, Items.denoted]
    exact .emptyArray .none
  | .array (.cons first items) =>
    rw [Json.render, Json.denoted, Items.denoted]
    simp only [String.toList_append, List.append_assoc]
    exact .array (items.reads (level + 1) (gap_lineBreak _ _) (gap_lineBreak level _)
      (first.reads (level + 1) _))
  | .object .nil =>
    rw [Json.render, Json.denoted, Members.denoted]
    exact .emptyObject .none
  | .object (.cons name value members) =>
    rw [Json.render, Json.denoted, Members.denoted]
    simp only [String.toList_append, List.append_assoc]
    exact .object (members.reads (level + 1) (reads_name _ name _) (.blank rfl .none)
      (gap_lineBreak level _) (value.reads (level + 1) _))
termination_by structural json

theorem Items.reads (level : Nat) (items : Items) {text start closing rest : List Char}
    {value : Value} (gap : Gap text start) (gapBehind : Gap closing (']' :: rest))
    (read : ValueText start value ((items.render level).toList ++ closing)) :
    ItemsText text (value :: items.denoted) (']' :: rest) := by
  match items with
  | .nil => exact .last (.intro gap read gapBehind)
  | .cons first others =>
    rw [Items.render] at read
    simp only [String.toList_append, List.append_assoc] at read
    exact .more (.intro gap read .none) (others.reads level (gap_lineBreak level _) gapBehind
      (first.reads level _))
termination_by structural items

theorem Members.reads (level : Nat) (members : Members) {text behind start closing rest : List Char}
    {name : Text} {value : Value} (named : NameText text name behind) (gap : Gap behind start)
    (gapBehind : Gap closing ('\x7d' :: rest))
    (read : ValueText start value ((members.render level).toList ++ closing)) :
    MembersText text ((name, value) :: members.denoted) ('\x7d' :: rest) := by
  match members with
  | .nil => exact .last named (.intro gap read gapBehind)
  | .cons next nextValue others =>
    rw [Members.render] at read
    simp only [String.toList_append, List.append_assoc] at read
    exact .more named (.intro gap read .none) (others.reads level (reads_name level next _)
      (.blank rfl .none) gapBehind (nextValue.reads level _))
termination_by structural members

end

/-! ## ASCII -/

def IsAscii (string : String) : Prop :=
  ∀ char ∈ string.toList, char.toNat < 128

instance (string : String) : Decidable (IsAscii string) :=
  List.decidableBAll (fun char : Char => char.toNat < 128) string.toList

theorem IsAscii.append {string other : String} (ascii : IsAscii string)
    (otherAscii : IsAscii other) : IsAscii (string ++ other) := by
  intro char member
  rw [String.toList_append, List.mem_append] at member
  exact member.elim (ascii char) (otherAscii char)

theorem toNat_digitChar_lt : ∀ digit < 16, digit.digitChar.toNat < 128 := by
  decide

theorem isAscii_unitEscape {number : Nat} (isUnit : number < 0x10000) :
    IsAscii (Json.unitEscape number) := by
  intro char member
  rw [toList_unitEscape isUnit] at member
  simp only [List.mem_cons, List.not_mem_nil, or_false] at member
  rcases member with rfl | rfl | rfl | rfl | rfl | rfl
  · decide
  · decide
  all_goals exact toNat_digitChar_lt _ (by omega)

theorem isAscii_charText (char : Char) : IsAscii (Json.charText char) := by
  have valid : char.toNat < 0xD800 ∨ 0xDFFF < char.toNat ∧ char.toNat < 0x110000 := char.valid
  have form := quotedForm_charText char
  unfold IsAscii
  generalize (Json.charText char).toList = quoted at form ⊢
  cases form with
  | escape _ ascii => simpa using ascii
  | plain _ ascii => simpa using ascii
  | unit isUnit => exact isAscii_unitEscape isUnit
  | pair beyond => exact (isAscii_unitEscape (by omega)).append (isAscii_unitEscape (by omega))

theorem isAscii_stringText (text : Text) : IsAscii (Json.stringText text) := by
  have quote : IsAscii "\x22" := by decide
  refine (quote.append ?_).append quote
  intro char member
  rw [String.toList_join, List.flatMap_map, List.mem_flatMap] at member
  obtain ⟨point, -, isPart⟩ := member
  cases point with
  | char point => exact isAscii_charText point char isPart
  | surrogate index =>
    exact isAscii_unitEscape (by show 0xD800 + index.val < 0x10000; omega) char isPart

theorem isAscii_lineBreak (level : Nat) : IsAscii (Json.lineBreak level) := by
  have line : IsAscii "\n" := by decide
  refine line.append fun char member => ?_
  rw [String.toList_ofList] at member
  rw [List.eq_of_mem_replicate member]
  decide

theorem isAscii_number (value : Int) : IsAscii (toString value) := by
  have digits (number : Nat) : IsAscii number.repr := by
    intro char member
    rw [Nat.repr_eq_ofList_toDigits, String.toList_ofList] at member
    have isDigit := Nat.isDigit_of_mem_toDigits (by decide) (by decide) member
    simp only [Char.isDigit, ge_iff_le, UInt32.le_iff_toNat_le, Bool.and_eq_true,
      decide_eq_true_eq] at isDigit
    exact Nat.lt_of_le_of_lt isDigit.2 (by decide)
  rw [Int.toString_eq_repr]
  cases value with
  | ofNat number => exact digits number
  | negSucc number =>
    have minus : IsAscii "-" := by decide
    exact minus.append (digits (number + 1))

mutual

theorem Json.isAscii_render (level : Nat) (json : Json) : IsAscii (json.render level) := by
  match json with
  | .number value =>
    rw [Json.render]
    exact isAscii_number value
  | .text value =>
    rw [Json.render]
    exact isAscii_stringText value
  | .array .nil =>
    rw [Json.render]
    decide
  | .array (.cons first items) =>
    have opening : IsAscii "[" := by decide
    have closing : IsAscii "]" := by decide
    rw [Json.render]
    exact ((((opening.append (isAscii_lineBreak _)).append (first.isAscii_render _)).append
      (items.isAscii_render _)).append (isAscii_lineBreak _)).append closing
  | .object .nil =>
    rw [Json.render]
    decide
  | .object (.cons name value members) =>
    have opening : IsAscii "\x7b" := by decide
    have colon : IsAscii ": " := by decide
    have closing : IsAscii "\x7d" := by decide
    rw [Json.render]
    exact ((((((opening.append (isAscii_lineBreak _)).append (isAscii_stringText _)).append
      colon).append (value.isAscii_render _)).append (members.isAscii_render _)).append
        (isAscii_lineBreak _)).append closing
termination_by structural json

theorem Items.isAscii_render (level : Nat) (items : Items) : IsAscii (items.render level) := by
  match items with
  | .nil =>
    rw [Items.render]
    decide
  | .cons first others =>
    have comma : IsAscii "," := by decide
    rw [Items.render]
    exact ((comma.append (isAscii_lineBreak _)).append (first.isAscii_render _)).append
      (others.isAscii_render _)
termination_by structural items

theorem Members.isAscii_render (level : Nat) (members : Members) :
    IsAscii (members.render level) := by
  match members with
  | .nil =>
    rw [Members.render]
    decide
  | .cons name value others =>
    have comma : IsAscii "," := by decide
    have colon : IsAscii ": " := by decide
    rw [Members.render]
    exact ((((comma.append (isAscii_lineBreak _)).append (isAscii_stringText _)).append
      colon).append (value.isAscii_render _)).append (others.isAscii_render _)
termination_by structural members

end

/-! ## Reports -/

theorem denoted_arrayOf (items : List Json) :
    (Json.arrayOf items).denoted = .array (items.map Json.denoted) := by
  have inside : (items.foldr Items.cons .nil).denoted = items.map Json.denoted := by
    induction items with
    | nil => rfl
    | cons first rest inRest => exact congrArg (first.denoted :: ·) inRest
  rw [Json.arrayOf, Json.denoted, inside]

theorem denoted_objectOf (members : List (String × Json)) :
    (Json.objectOf members).denoted =
      .object (members.map fun member => (.ofString member.1, member.2.denoted)) := by
  have inside : (members.foldr (fun (name, value) rest => Members.cons name value rest)
      .nil).denoted = members.map fun member => (.ofString member.1, member.2.denoted) := by
    induction members with
    | nil => rfl
    | cons first rest inRest => exact congrArg ((.ofString first.1, first.2.denoted) :: ·) inRest
  rw [Json.objectOf, Json.denoted, inside]

theorem denoted_text {text : Text} (isWhole : IsWhole text) :
    (Json.text text).denoted = .text text := by
  rw [Json.denoted, isWhole.joined_eq]

def findingValue (file : Text) (line : Int) (message : Text) : Value :=
  .object [("file", .text file), ("line", .number line), ("column", .number 0),
    ("message", .text message), ("severity", .text "error"), ("source", .text "polypolarism")]

/-- What the report for tools says of verdicts: nothing of functions that passed, and of the others
every finding, at the line of the function or at the first one. -/
def reportValue (verdicts : List Verdict) (file : Text) (lines : Table Text Int) : Value :=
  .object [("file", .text file), ("diagnostics", .array (verdicts.flatMap fun verdict =>
    if verdict.passed then []
    else verdict.findings.map fun finding =>
      findingValue file ((lines.get? verdict.function).getD 1) finding.message))]

theorem denoted_diagnostic {file message : Text} (fileWhole : IsWhole file)
    (messageWhole : IsWhole message) (line : Int) :
    (Json.objectOf (Diagnostic.members
        { file := file, line := line, column := 0, message := message,
          severity := .error })).denoted =
      findingValue file line message := by
  rw [denoted_objectOf, findingValue, ← denoted_text fileWhole, ← denoted_text messageWhole,
    ← denoted_text (isWhole_ofString "error"), ← denoted_text (isWhole_ofString "polypolarism")]
  rfl

theorem denoted_diagnostics {verdicts : List Verdict} {file : Text} (fileWhole : IsWhole file)
    (messagesWhole : ∀ verdict ∈ verdicts, ∀ finding ∈ verdict.findings, IsWhole finding.message)
    (lines : Table Text Int) :
    (diagnostics verdicts file lines).map (fun diagnostic =>
        (Json.objectOf diagnostic.members).denoted) =
      verdicts.flatMap fun verdict =>
        if verdict.passed then []
        else verdict.findings.map fun finding =>
          findingValue file ((lines.get? verdict.function).getD 1) finding.message := by
  induction verdicts with
  | nil => rfl
  | cons verdict rest inRest =>
    have others := inRest fun other member => messagesWhole other (List.mem_cons_of_mem _ member)
    rw [List.flatMap_cons, ← others]
    cases passed : verdict.passed with
    | true => simp [diagnostics, passed]
    | false =>
      simp only [diagnostics, List.filter_cons, passed, Bool.not_false, if_true, List.flatMap_cons,
        List.map_append, List.map_map, Bool.false_eq_true, if_false]
      congr 1
      refine List.map_congr_left fun finding member => ?_
      exact denoted_diagnostic fileWhole (messagesWhole verdict List.mem_cons_self finding member) _

theorem denoted_document {verdicts : List Verdict} {file : Text} (fileWhole : IsWhole file)
    (messagesWhole : ∀ verdict ∈ verdicts, ∀ finding ∈ verdict.findings, IsWhole finding.message)
    (lines : Table Text Int) :
    (document verdicts file lines).denoted = reportValue verdicts file lines := by
  rw [document, denoted_objectOf, reportValue, ← denoted_diagnostics fileWhole messagesWhole lines]
  simp only [List.map_cons, List.map_nil, denoted_text fileWhole, denoted_arrayOf, List.map_map]
  rfl

/-! ## Numbers that can be written -/

theorem isWritable_arrayOf (items : List Json) :
    (Json.arrayOf items).isWritable = items.all Json.isWritable := by
  have inside : (items.foldr Items.cons .nil).areWritable = items.all Json.isWritable := by
    induction items with
    | nil => rfl
    | cons first rest inRest => exact congrArg (first.isWritable && ·) inRest
  rw [Json.arrayOf, Json.isWritable, inside]

theorem isWritable_objectOf (members : List (String × Json)) :
    (Json.objectOf members).isWritable = members.all fun member => member.2.isWritable := by
  have inside : (members.foldr (fun (name, value) rest => Members.cons name value rest)
      .nil).areWritable = members.all fun member => member.2.isWritable := by
    induction members with
    | nil => rfl
    | cons first rest inRest => exact congrArg (first.2.isWritable && ·) inRest
  rw [Json.objectOf, Json.isWritable, inside]

theorem isWritable_diagnostic (file message : Text) (line : Int) (severity : Severity) :
    (Json.objectOf (Diagnostic.members
        { file := file, line := line, column := 0, message := message,
          severity := severity })).isWritable = Literal.writableWhole line := by
  have start : Literal.writableWhole 0 = true := by decide +kernel
  simp [isWritable_objectOf, Diagnostic.members, Json.isWritable, start]

/-- What the report for tools says of a function can be written: nothing if it passed, and else its
findings, each at the line of the function or at the first one. -/
def Reportable (lines : Table Text Int) (verdict : Verdict) : Prop :=
  verdict.passed = false → ∀ finding ∈ verdict.findings,
    finding.isWritable = true ∧
      Literal.writableWhole ((lines.get? verdict.function).getD 1) = true

theorem isWritable_document_iff {verdicts : List Verdict} {file : Text} {lines : Table Text Int} :
    (document verdicts file lines).isWritable = true ↔
      ∀ verdict ∈ verdicts, verdict.passed = false → ∀ finding ∈ verdict.findings,
        Literal.writableWhole ((lines.get? verdict.function).getD 1) = true := by
  rw [document, isWritable_objectOf]
  simp only [List.all_cons, List.all_nil, Bool.and_true, Json.isWritable, Bool.true_and,
    isWritable_arrayOf, List.all_map, Function.comp_def, diagnostics, List.all_flatMap,
    isWritable_diagnostic, List.all_eq_true, List.mem_filter, Bool.not_eq_true', and_imp]

theorem reportable_iff {verdicts : List Verdict} {file : Text} {lines : Table Text Int} :
    (verdicts.all Verdict.isWritable && (document verdicts file lines).isWritable) = true ↔
      ∀ verdict ∈ verdicts, Reportable lines verdict := by
  simp only [Bool.and_eq_true, isWritable_document_iff, List.all_eq_true, Verdict.isWritable,
    Bool.or_eq_true]
  constructor
  · rintro ⟨findings, ofLines⟩ verdict member failed finding isFinding
    refine ⟨?_, ofLines verdict member failed finding isFinding⟩
    rcases findings verdict member with passed | writable
    · rw [failed] at passed
      cases passed
    · exact writable finding isFinding
  · intro reportable
    refine ⟨fun verdict member => ?_, fun verdict member failed finding isFinding =>
      (reportable verdict member failed finding isFinding).2⟩
    cases passed : verdict.passed with
    | true => exact .inl rfl
    | false =>
      exact .inr fun finding isFinding => (reportable verdict member passed finding isFinding).1

theorem documentText_of_reportable {verdicts : List Verdict} {file : Text} {lines : Table Text Int}
    (reportable : ∀ verdict ∈ verdicts, Reportable lines verdict) :
    documentText verdicts file lines = .ok ((document verdicts file lines).render 0) :=
  if_pos (reportable_iff.mpr reportable)

theorem documentText_of_not_reportable {verdicts : List Verdict} {file : Text}
    {lines : Table Text Int} (unreportable : ¬ ∀ verdict ∈ verdicts, Reportable lines verdict) :
    documentText verdicts file lines = .error .longNumber :=
  if_neg (mt reportable_iff.mp unreportable)

theorem Json.denotes_render (json : Json) (value : Value) :
    Denotes (json.render 0).toList value ↔ value = json.denoted := by
  have read := json.reads 0 []
  rw [List.append_nil] at read
  have denotes : Denotes (json.render 0).toList json.denoted := .intro .none read .none
  constructor
  · exact fun other => other.unique denotes
  · rintro rfl
    exact denotes

/-- Where all that it has to say can be written, the report for tools is ASCII, and as a JSON text
it denotes the findings and nothing else. Otherwise there is no report. -/
theorem documentText_denotes_report {verdicts : List Verdict} {file : Text}
    (fileWhole : IsWhole file)
    (messagesWhole : ∀ verdict ∈ verdicts, ∀ finding ∈ verdict.findings, IsWhole finding.message)
    (lines : Table Text Int) :
    ((∀ verdict ∈ verdicts, Reportable lines verdict) →
      ∃ chars, documentText verdicts file lines = .ok (.ofChars chars) ∧
        (∀ char ∈ chars, char.toNat < 128) ∧
        ∀ value, Denotes chars value ↔ value = reportValue verdicts file lines) ∧
    ((¬ ∀ verdict ∈ verdicts, Reportable lines verdict) →
      documentText verdicts file lines = .error .longNumber) := by
  refine ⟨fun reportable => ?_, documentText_of_not_reportable⟩
  refine ⟨_, documentText_of_reportable reportable,
    (document verdicts file lines).isAscii_render 0, fun value => ?_⟩
  rw [← denoted_document fileWhole messagesWhole lines]
  exact (document verdicts file lines).denotes_render value

def oddFile : Text :=
  .ofChars ['\x22', '\\', '\x01', Char.ofNat 0x1F600]

def oddVerdicts : List Verdict :=
  [{ function := "f", passed := false,
     findings := [.inferenceFailure oddFile, .missingColumn (.text "\n\x7f") (.scalar .int64)] },
    { function := "g", passed := true, findings := [.inferenceFailure "unseen"] },
    { function := "h", passed := false, findings := [.inferenceFailure ""] }]

theorem oddVerdicts_denote_report :
    IsWhole oddFile ∧
    (∀ verdict ∈ oddVerdicts, ∀ finding ∈ verdict.findings, IsWhole finding.message) ∧
    (∀ verdict ∈ oddVerdicts, Reportable (.ofList [("g", 3), ("f", 70)]) verdict) ∧
    ∃ chars,
      documentText oddVerdicts oddFile (.ofList [("g", 3), ("f", 70)]) = .ok (.ofChars chars) ∧
      (∀ char ∈ chars, char.toNat < 128) ∧
      Denotes chars (.object [("file", .text oddFile), ("diagnostics", .array [
        findingValue oddFile 70 oddFile,
        findingValue oddFile 70 "Missing column '\n\x7f' of type Int64",
        findingValue oddFile 1 ""])]) := by
  have fileWhole : IsWhole oddFile := by
    unfold IsWhole
    decide +kernel
  have messagesWhole : ∀ verdict ∈ oddVerdicts, ∀ finding ∈ verdict.findings,
      IsWhole finding.message := by
    unfold IsWhole
    decide +kernel
  have reportable : ∀ verdict ∈ oddVerdicts,
      Reportable (.ofList [("g", 3), ("f", 70)]) verdict := by
    unfold Reportable
    decide +kernel
  obtain ⟨chars, isText, ascii, denotes⟩ :=
    (documentText_denotes_report fileWhole messagesWhole _).1 reportable
  exact ⟨fileWhole, messagesWhole, reportable, chars, isText, ascii, (denotes _).mpr rfl⟩

/-- A finding against a function, on a column that is called by a number. -/
def numberedColumn (number : Nat) : List Verdict :=
  [{ function := "f", passed := false, findings := [.extraColumn (.int number) .int64] }]

/-- Of a number with one digit too many there is no report, be it a label or a line. -/
theorem longNumbers_not_reported :
    documentText (numberedColumn (Magnitude.powerOfTen Literal.wholeDigitLimit)) "a.py"
      (.ofList [("f", 1)]) = .error .longNumber ∧
    documentText (numberedColumn 0) "a.py"
      (.ofList [("f", Magnitude.powerOfTen Literal.wholeDigitLimit)]) = .error .longNumber ∧
    ∃ text, documentText (numberedColumn 0) "a.py" (.ofList [("f", 1)]) = .ok text := by
  refine ⟨documentText_of_not_reportable ?_, documentText_of_not_reportable ?_,
    _, documentText_of_reportable ?_⟩
  all_goals
    unfold Reportable
    decide +kernel

end FrameCheck.Report
