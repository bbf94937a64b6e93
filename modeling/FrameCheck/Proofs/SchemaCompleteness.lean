import FrameCheck.Proofs.SchemaGrammar
import Mathlib.Data.List.TakeWhile

/-!
Completeness of the readers of schema texts: from a text that the grammar derives a thing from,
a reader takes that thing.

Every reader passes over blanks before anything else, and some also pass over those behind what
they read. So what a reader starts at and what it leaves are told only up to blanks in front,
and readers one after the other fit together.
-/

namespace FrameCheck.Schema

abbrev bare (points : List CodePoint) : List CodePoint := points.dropWhile isBlankPoint

def Reads (reader : Reader α) (before : List CodePoint) (value : α) (left : List CodePoint) :
    Prop :=
  ∀ cursor : Cursor, bare cursor.rest = bare before →
    ∃ after, reader cursor = .ok value after ∧ bare after.rest = bare left

/-! ## Blanks in front -/

theorem Blanks.bare_append {gap : List CodePoint} (isBlank : Blanks gap) (rest : List CodePoint) :
    bare (gap ++ rest) = bare rest :=
  List.dropWhile_append_of_pos isBlank

theorem bare_cons {point : CodePoint} (notBlank : isBlankPoint point = false)
    (rest : List CodePoint) : bare (point :: rest) = point :: rest :=
  List.dropWhile_cons_of_neg (by simp [notBlank])

theorem isBlankPoint_of_isWordPoint {point : CodePoint} (isWord : isWordPoint point = true) :
    isBlankPoint point = false := by
  cases isBlank : isBlankPoint point with
  | false => rfl
  | true => exact absurd isWord (by simp [isWordPoint_of_isBlankPoint isBlank])

theorem IsWord.bare_append {name : List CodePoint} (isWord : IsWord name) (rest : List CodePoint) :
    bare (name ++ rest) = name ++ rest := by
  obtain ⟨first, others, rfl⟩ := List.exists_cons_of_ne_nil isWord.nonempty
  have notBlank := isBlankPoint_of_isWordPoint (isWord.word first List.mem_cons_self)
  exact bare_cons notBlank _

theorem bare_bare (points : List CodePoint) : bare (bare points) = bare points := by
  induction points with
  | nil => rfl
  | cons point rest inRest =>
    cases isBlank : isBlankPoint point with
    | true =>
      rw [bare, bare, List.dropWhile_cons_of_pos isBlank]
      exact inRest
    | false => rw [bare_cons isBlank, bare_cons isBlank]

/-! ## Readers in a row -/

namespace Reads

variable {reader : Reader α} {next : α → Reader β} {before middle left : List CodePoint}
  {first : α} {value : β}

theorem pure (value : α) (before : List CodePoint) :
    Reads (Pure.pure value : Reader α) before value before :=
  fun cursor same => ⟨cursor, rfl, same⟩

theorem bind (firstReads : Reads reader before first middle)
    (nextReads : Reads (next first) middle value left) :
    Reads (reader >>= next) before value left := by
  intro cursor same
  obtain ⟨after, run, afterSame⟩ := firstReads cursor same
  obtain ⟨last, nextRun, lastSame⟩ := nextReads after afterSame
  exact ⟨last, by rw [Steps.bind_of_ok run, nextRun], lastSame⟩

theorem of_bare {other : List CodePoint} (reads : Reads reader before first left)
    (same : bare other = bare before) : Reads reader other first left :=
  fun cursor cursorSame => reads cursor (cursorSame.trans same)

end Reads

/-! ## Words and single code points -/

theorem skipped_rest_eq {cursor : Cursor} {before : List CodePoint}
    (same : bare cursor.rest = bare before) : cursor.skipped.rest = bare before :=
  (Cursor.rest_skipped cursor).trans same

theorem reads_consume {gap : List CodePoint} {expected : CodePoint} (isBlank : Blanks gap)
    (notBlank : isBlankPoint expected = false) (rest : List CodePoint) :
    Reads (consume (some (.ofPoint expected))) (gap ++ expected :: rest) expected rest := by
  intro cursor same
  have next : cursor.skipped.rest = expected :: rest := by
    rw [skipped_rest_eq same, isBlank.bare_append, bare_cons notBlank]
  exact ⟨_, consume_of_next next, by rw [Cursor.rest_advance, next, List.drop_one, List.tail_cons]⟩

theorem reads_peek (before : List CodePoint) : Reads peek before (bare before).head? before := by
  intro cursor same
  refine ⟨cursor.skipped, ?_, ?_⟩
  · rw [peek_run, skipped_rest_eq same]
  · rw [skipped_rest_eq same, bare_bare]

def EndsWord (rest : List CodePoint) : Prop :=
  ∀ point, (bare rest).head? = some point → isWordPoint point = false

structure EndsType (rest : List CodePoint) : Prop where
  word : EndsWord rest
  mark : (bare rest).head? ≠ some (.char '?')

theorem EndsWord.takeWhile_eq_nil {rest : List CodePoint} (ends : EndsWord rest) :
    rest.takeWhile isWordPoint = [] := by
  cases rest with
  | nil => rfl
  | cons point others =>
    have notWord : isWordPoint point = false := by
      cases isBlank : isBlankPoint point with
      | true => exact isWordPoint_of_isBlankPoint isBlank
      | false => exact ends point (by rw [bare_cons isBlank]; rfl)
    rw [List.takeWhile_cons_of_neg (by simp [notWord])]

theorem endsWord_of_next {gap rest : List CodePoint} {point : CodePoint} (isBlank : Blanks gap)
    (notBlank : isBlankPoint point = false) (notWord : isWordPoint point = false) :
    EndsWord (gap ++ point :: rest) := by
  intro other isHead
  rw [isBlank.bare_append, bare_cons notBlank] at isHead
  cases isHead
  exact notWord

theorem endsType_of_next {gap rest : List CodePoint} {point : CodePoint} (isBlank : Blanks gap)
    (notBlank : isBlankPoint point = false) (notWord : isWordPoint point = false)
    (notMark : point ≠ .char '?') : EndsType (gap ++ point :: rest) := by
  refine ⟨endsWord_of_next isBlank notBlank notWord, ?_⟩
  rw [isBlank.bare_append, bare_cons notBlank]
  simpa using notMark

theorem endsType_nil : EndsType [] :=
  ⟨fun _ isHead => (nomatch isHead), fun isMark => (nomatch isMark)⟩

theorem EndsWord.blanks_append {gap rest : List CodePoint} (isBlank : Blanks gap)
    (ends : EndsWord rest) : EndsWord (gap ++ rest) := by
  intro point isHead
  rw [isBlank.bare_append] at isHead
  exact ends point isHead

theorem reads_identifier {name rest : List CodePoint} (isWord : IsWord name)
    (ends : EndsWord rest) : Reads identifier (name ++ rest) ⟨name⟩ rest := by
  intro cursor same
  have next : cursor.skipped.rest = name ++ rest := by
    rw [skipped_rest_eq same, isWord.bare_append]
  have taken : (name ++ rest).takeWhile isWordPoint = name := by
    rw [List.takeWhile_append_of_pos isWord.word, ends.takeWhile_eq_nil, List.append_nil]
  refine ⟨cursor.skipped.advance name.length, ?_, ?_⟩
  · rw [identifier_run, next, taken, if_neg (by simpa using isWord.nonempty)]
  · rw [Cursor.rest_advance, next, List.drop_left]

theorem reads_questionMark_plain (type : ColumnType) {rest : List CodePoint}
    (noMark : (bare rest).head? ≠ some (.char '?')) :
    Reads (questionMark type) rest type rest := by
  intro cursor same
  refine ⟨cursor.skipped, ?_, ?_⟩
  · rw [questionMark_run, skipped_rest_eq same, if_neg noMark]
  · rw [skipped_rest_eq same, bare_bare]

theorem reads_questionMark_nullable (type : ColumnType) {gap : List CodePoint}
    (isBlank : Blanks gap) (rest : List CodePoint) :
    Reads (questionMark type) (gap ++ .char '?' :: rest) (.nullable type) rest := by
  intro cursor same
  have next : cursor.skipped.rest = .char '?' :: rest := by
    rw [skipped_rest_eq same, isBlank.bare_append, bare_cons (by decide)]
  refine ⟨cursor.skipped.advance 1, ?_, ?_⟩
  · rw [questionMark_run, next, List.head?_cons, if_pos rfl]
  · rw [Cursor.rest_advance, next, List.drop_one, List.tail_cons]

/-! ## Fields -/

def Complete (reader : Reader α) (derives : List CodePoint → α → Prop) : Prop :=
  ∀ {text value rest}, derives text value → EndsType rest → Reads reader (text ++ rest) value rest

section Fields

variable {readType : Reader ColumnType} {isType : List CodePoint → ColumnType → Prop}

theorem complete_field (typeComplete : Complete readType isType) :
    Complete (field readType) (FieldText isType) := by
  intro fieldText entry rest derived ends
  cases derived with
  | @intro lead name gap text type leadBlank isWord gapBlank typed =>
    have colonEnds : EndsWord (gap ++ .char ':' :: (text ++ rest)) :=
      endsWord_of_next gapBlank (by decide) (by decide)
    have reads : Reads (field readType) (name ++ (gap ++ .char ':' :: (text ++ rest)))
        (⟨name⟩, type) rest :=
      (reads_identifier isWord colonEnds).bind <|
        (reads_consume gapBlank (by decide) _).bind <|
          (typeComplete typed ends).bind (.pure _ _)
    refine reads.of_bare ?_
    simp only [List.append_assoc, List.cons_append]
    rw [leadBlank.bare_append]

theorem FieldsText.exists_word {text : List CodePoint} {entries : FieldEntries}
    (fields : FieldsText isType text entries) :
    ∃ lead point rest, Blanks lead ∧ isWordPoint point = true ∧ text = lead ++ point :: rest ∧
      FieldsText isType (point :: rest) entries := by
  have first : ∀ {text entry}, FieldText isType text entry →
      ∃ lead point rest, Blanks lead ∧ isWordPoint point = true ∧ text = lead ++ point :: rest ∧
        FieldText isType (point :: rest) entry := by
    intro text entry field
    cases field with
    | @intro lead name gap typeText type leadBlank isWord gapBlank typed =>
      obtain ⟨point, others, rfl⟩ := List.exists_cons_of_ne_nil isWord.nonempty
      exact ⟨lead, point, _, leadBlank, isWord.word point List.mem_cons_self, rfl,
        .intro blanks_nil isWord gapBlank typed⟩
  cases fields with
  | last field =>
    obtain ⟨lead, point, rest, leadBlank, isWord, rfl, others⟩ := first field
    exact ⟨lead, point, rest, leadBlank, isWord, rfl, .last others⟩
  | more field gapBlank others =>
    obtain ⟨lead, point, rest, leadBlank, isWord, rfl, inFirst⟩ := first field
    exact ⟨lead, point, _, leadBlank, isWord, by simp, .more inFirst gapBlank others⟩

theorem FieldsText.length_le {text : List CodePoint} {entries : FieldEntries}
    (fields : FieldsText isType text entries) : entries.length ≤ text.length := by
  induction fields with
  | last field =>
    cases field
    simp only [List.length_append, List.length_cons, List.length_nil]
    omega
  | more field gapBlank others inOthers =>
    simp only [List.length_append, List.length_cons]
    omega

/-- Fields are read up to the brace behind them, if there are steps for each. The induction
follows the commas. -/
theorem reads_fieldsFrom (typeComplete : Complete readType isType) {text gap : List CodePoint}
    {entries : FieldEntries} (fields : FieldsText isType text entries) (gapBlank : Blanks gap)
    (rest : List CodePoint) {steps : Nat} (enough : entries.length ≤ steps) :
    Reads (fieldsFrom readType steps) (text ++ (gap ++ .char '\x7d' :: rest)) entries
      (gap ++ .char '\x7d' :: rest) := by
  induction fields generalizing steps with
  | @last text entry field =>
    obtain ⟨steps, rfl⟩ : ∃ fewer, steps = fewer + 1 := ⟨steps - 1, by simp at enough; omega⟩
    have ends : EndsType (gap ++ .char '\x7d' :: rest) :=
      endsType_of_next gapBlank (by decide) (by decide) (by decide)
    have notComma : (bare (gap ++ .char '\x7d' :: rest)).head? ≠ some (.char ',') := by
      rw [gapBlank.bare_append, bare_cons (by decide)]
      simp
    rw [fieldsFrom_succ]
    refine (complete_field typeComplete field ends).bind ((reads_peek _).bind ?_)
    rw [if_neg notComma]
    exact .pure _ _
  | @more text commaGap others entry entries field commaBlank fields inOthers =>
    obtain ⟨steps, rfl⟩ : ∃ fewer, steps = fewer + 1 := ⟨steps - 1, by simp at enough; omega⟩
    have ends : EndsType (commaGap ++ .char ',' :: (others ++ (gap ++ .char '\x7d' :: rest))) :=
      endsType_of_next commaBlank (by decide) (by decide) (by decide)
    have isComma : (bare (commaGap ++ .char ',' :: (others ++ (gap ++ .char '\x7d' :: rest)))).head?
        = some (.char ',') := by
      rw [commaBlank.bare_append, bare_cons (by decide)]
      rfl
    have othersRead := inOthers (Nat.le_of_succ_le_succ enough)
    rw [fieldsFrom_succ]
    simp only [List.append_assoc, List.cons_append]
    refine (complete_field typeComplete field ends).bind ((reads_peek _).bind ?_)
    rw [if_pos isComma]
    exact (reads_consume commaBlank (by decide) _).bind (othersRead.bind (.pure _ _))

theorem reads_fieldEntries (typeComplete : Complete readType isType) {text gap : List CodePoint}
    {entries : FieldEntries} (body : BodyText isType text entries) (gapBlank : Blanks gap)
    (rest : List CodePoint) :
    Reads (fieldEntries readType) (text ++ (gap ++ .char '\x7d' :: rest)) entries
      (gap ++ .char '\x7d' :: rest) := by
  intro cursor same
  rw [fieldEntries_run]
  cases body with
  | blank isBlank =>
    have next : cursor.skipped.rest = .char '\x7d' :: rest := by
      rw [skipped_rest_eq same, isBlank.bare_append, gapBlank.bare_append, bare_cons (by decide)]
    refine ⟨cursor.skipped, ?_, ?_⟩
    · rw [next, List.head?_cons, if_pos rfl]
    · rw [next, gapBlank.bare_append]
  | fields fields =>
    obtain ⟨lead, point, others, leadBlank, isWord, rfl, bareFields⟩ := fields.exists_word
    have next : cursor.skipped.rest = point :: others ++ (gap ++ .char '\x7d' :: rest) := by
      rw [skipped_rest_eq same, List.append_assoc, leadBlank.bare_append]
      exact bare_cons (isBlankPoint_of_isWordPoint isWord) _
    have notClosing : cursor.skipped.rest.head? ≠ some (.char '\x7d') := by
      rw [next]
      rintro ⟨⟩
      exact absurd isWord (by decide)
    have enough : entries.length ≤ cursor.skipped.rest.length + 1 := by
      have bound := bareFields.length_le
      rw [next, List.length_append]
      omega
    rw [if_neg notClosing]
    exact reads_fieldsFrom typeComplete bareFields gapBlank rest enough cursor.skipped
      (congrArg bare next)

/-! ## Types -/

theorem take_eq_take_of_opens {opening name rest : List CodePoint}
    (opens : opening <+: name ++ rest) :
    opening.take name.length = name.take opening.length := by
  have whole : opening = (name ++ rest).take opening.length := List.prefix_iff_eq_take.mp opens
  calc opening.take name.length
      = ((name ++ rest).take opening.length).take name.length := by rw [← whole]
    _ = ((name ++ rest).take name.length).take opening.length := by
        rw [List.take_take, List.take_take, Nat.min_comm]
    _ = name.take opening.length := by rw [List.take_left]

theorem namedTypes_apart : ∀ entry ∈ namedTypes,
    listOpening.points.take entry.1.points.length ≠ entry.1.points.take listOpening.points.length ∧
    structOpening.points.take entry.1.points.length ≠
      entry.1.points.take structOpening.points.length := by
  decide

theorem namedTypes_lookup : ∀ entry ∈ namedTypes, namedTypes.lookup entry.1 = some entry.2 := by
  decide

theorem namedTypes_words : ∀ entry ∈ namedTypes,
    entry.1.points ≠ [] ∧ ∀ point ∈ entry.1.points, isWordPoint point = true := by
  decide

theorem isPrefixOf_eq_false {opening name rest : List CodePoint}
    (apart : opening.take name.length ≠ name.take opening.length) :
    opening.isPrefixOf (name ++ rest) = false := by
  cases opens : opening.isPrefixOf (name ++ rest) with
  | false => rfl
  | true => exact absurd (take_eq_take_of_opens (List.isPrefixOf_iff_prefix.mp opens)) apart

theorem reads_namedType {name : Text} {type : ColumnType} (member : (name, type) ∈ namedTypes)
    {rest : List CodePoint} (ends : EndsWord rest) :
    Reads namedType (name.points ++ rest) type rest := by
  obtain ⟨nonempty, word⟩ := namedTypes_words _ member
  refine (reads_identifier ⟨nonempty, word⟩ ends).bind ?_
  have found : namedTypes.lookup ⟨name.points⟩ = some type := namedTypes_lookup _ member
  simp only [found]
  exact .pure _ _

theorem reads_listBody (typeComplete : Complete readType isType) {text gap : List CodePoint}
    {type : ColumnType} (element : isType text type) (gapBlank : Blanks gap)
    (rest : List CodePoint) :
    Reads (listBody readType) (text ++ (gap ++ .char ']' :: rest)) (.list type) rest := by
  have ends : EndsType (gap ++ .char ']' :: rest) :=
    endsType_of_next gapBlank (by decide) (by decide) (by decide)
  exact (typeComplete element ends).bind <|
    (reads_consume gapBlank (by decide) rest).bind (.pure _ _)

theorem reads_structBody (typeComplete : Complete readType isType) {text gap : List CodePoint}
    {entries : FieldEntries} (body : BodyText isType text entries) (gapBlank : Blanks gap)
    (rest : List CodePoint) :
    Reads (structBody readType) (text ++ (gap ++ .char '\x7d' :: rest))
      (.struct (.ofList (resolved entries))) rest := by
  rw [← toFields_eq]
  exact (reads_fieldEntries typeComplete body gapBlank rest).bind <|
    (reads_consume gapBlank (by decide) rest).bind (.pure _ _)

theorem reads_core (typeComplete : Complete readType isType) {text rest : List CodePoint}
    {type : ColumnType} (derived : CoreText isType text type) (ends : EndsWord rest) :
    Reads (core readType) (text ++ rest) type rest := by
  intro cursor same
  rw [core_run]
  cases derived with
  | @named name _ member =>
    obtain ⟨nonempty, word⟩ := namedTypes_words _ member
    obtain ⟨noList, noStruct⟩ := namedTypes_apart _ member
    have next : cursor.skipped.rest = name.points ++ rest :=
      (skipped_rest_eq same).trans (IsWord.bare_append ⟨nonempty, word⟩ rest)
    rw [next, isPrefixOf_eq_false noList, isPrefixOf_eq_false noStruct]
    exact reads_namedType member ends cursor.skipped (by rw [next])
  | @list element gap elementType elementDerived gapBlank =>
    have next : cursor.skipped.rest =
        listOpening.points ++ (element ++ (gap ++ .char ']' :: rest)) := by
      rw [skipped_rest_eq same]
      simp only [List.append_assoc, List.cons_append, List.nil_append]
      rfl
    rw [next, List.isPrefixOf_iff_prefix.mpr (List.prefix_append _ _), if_pos rfl]
    refine reads_listBody typeComplete elementDerived gapBlank rest _ ?_
    rw [Cursor.rest_advance, next, List.drop_left]
  | @struct body gap entries bodyDerived gapBlank =>
    have next : cursor.skipped.rest =
        structOpening.points ++ (body ++ (gap ++ .char '\x7d' :: rest)) := by
      rw [skipped_rest_eq same]
      simp only [List.append_assoc, List.cons_append, List.nil_append]
      rfl
    have noList : listOpening.points.isPrefixOf
        (structOpening.points ++ (body ++ (gap ++ .char '\x7d' :: rest))) = false := rfl
    rw [next, noList, List.isPrefixOf_iff_prefix.mpr (List.prefix_append _ _)]
    refine reads_structBody typeComplete bodyDerived gapBlank rest _ ?_
    rw [Cursor.rest_advance, next, List.drop_left]

end Fields

theorem complete_typeWithin (depth : Nat) : Complete (typeWithin depth) (TypeText depth) := by
  induction depth with
  | zero => exact fun derived => derived.elim
  | succ depth inDepth =>
    intro markedText type rest derived ends
    rw [typeWithin_succ]
    cases derived with
    | @plain lead text gap _ leadBlank derived gapBlank =>
      have noMark : (bare (gap ++ rest)).head? ≠ some (.char '?') := by
        rw [gapBlank.bare_append]
        exact ends.mark
      have reads := (reads_core inDepth derived (ends.word.blanks_append gapBlank)).bind
        (reads_questionMark_plain type noMark)
      intro cursor same
      obtain ⟨after, run, left⟩ := reads cursor
        (by rw [same]; simp only [List.append_assoc]; rw [leadBlank.bare_append])
      exact ⟨after, run, left.trans (gapBlank.bare_append rest)⟩
    | @nullable lead text gap inner leadBlank derived gapBlank =>
      have markEnds : EndsWord (gap ++ .char '?' :: rest) :=
        endsWord_of_next gapBlank (by decide) (by decide)
      have reads := (reads_core inDepth derived markEnds).bind
        (reads_questionMark_nullable inner gapBlank rest)
      refine reads.of_bare ?_
      simp only [List.append_assoc, List.cons_append, List.nil_append]
      rw [leadBlank.bare_append]

theorem reads_schemaWithin {depth : Nat} {text : List CodePoint} {frame : Frame}
    (derived : SchemaText depth text frame) : Reads (schemaWithin depth) text frame [] := by
  cases derived with
  | @intro text gap entries columns body gapBlank named =>
    have sameFrame : toFrame entries = { columns := columns } := by
      have sameEntries := (toFrame_entries entries).trans named.symm
      cases columns
      cases sameEntries
      rfl
    rw [← sameFrame]
    exact (reads_consume blanks_nil (by decide) _).bind <|
      (reads_fieldEntries (complete_typeWithin depth) body gapBlank []).bind <|
        (reads_consume gapBlank (by decide) []).bind (.pure _ _)

end FrameCheck.Schema
