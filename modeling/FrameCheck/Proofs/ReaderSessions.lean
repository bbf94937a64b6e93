import FrameCheck.Proofs.SchemaParsing

/-!
Sessions with the readers of schema texts: operations one after the other on one text, each from
where the one before it stopped, whether that one succeeded or failed.

What every reader keeps is said once, by `Moves`: it only reads on, and when it fails the error
is true of the place where it stopped. From this follows also that neither the limit of nesting
nor the bound on the number of fields is what ends a reader: without them, the readers are
solutions of the same equations.
-/

namespace FrameCheck.Schema

/-! ## Cursors -/

structure Cursor.StandsIn (text : Text) (cursor : Cursor) : Prop where
  bounded : cursor.position ≤ text.length
  rest_eq : cursor.rest = text.points.drop cursor.position

def Cursor.Reaches (least : Nat) (before after : Cursor) : Prop :=
  ∃ taken, before.rest = taken ++ after.rest ∧ after.position = before.position + taken.length ∧
    least ≤ taken.length

namespace Cursor

theorem Reaches.refl (cursor : Cursor) : cursor.Reaches 0 cursor := ⟨[], rfl, rfl, Nat.le_refl 0⟩

theorem Reaches.trans {first second third : Cursor} {least more : Nat}
    (onward : first.Reaches least second) (further : second.Reaches more third) :
    first.Reaches (least + more) third := by
  obtain ⟨taken, split, position, enough⟩ := onward
  obtain ⟨later, laterSplit, laterPosition, laterEnough⟩ := further
  refine ⟨taken ++ later, ?_, ?_, ?_⟩
  · rw [split, laterSplit, List.append_assoc]
  · rw [laterPosition, position, List.length_append, Nat.add_assoc]
  · rw [List.length_append]
    exact Nat.add_le_add enough laterEnough

theorem Reaches.mono {before after : Cursor} {least fewer : Nat} (le : fewer ≤ least)
    (reaches : before.Reaches least after) : before.Reaches fewer after := by
  obtain ⟨taken, split, position, enough⟩ := reaches
  exact ⟨taken, split, position, Nat.le_trans le enough⟩

theorem Reaches.position_le {before after : Cursor} {least : Nat}
    (reaches : before.Reaches least after) : before.position + least ≤ after.position := by
  obtain ⟨taken, -, position, enough⟩ := reaches
  rw [position]
  exact Nat.add_le_add_left enough _

theorem Reaches.length_le {before after : Cursor} {least : Nat}
    (reaches : before.Reaches least after) : after.rest.length + least ≤ before.rest.length := by
  obtain ⟨taken, split, -, enough⟩ := reaches
  rw [split, List.length_append]
  omega

theorem reaches_advance {cursor : Cursor} {count : Nat} (fits : count ≤ cursor.rest.length) :
    cursor.Reaches count (cursor.advance count) := by
  refine ⟨cursor.rest.take count, (List.take_append_drop ..).symm, rfl, ?_⟩
  rw [List.length_take_of_le fits]

theorem reaches_skipped (cursor : Cursor) : cursor.Reaches 0 cursor.skipped :=
  (reaches_advance (List.takeWhile_sublist isBlankPoint).length_le).mono (Nat.zero_le _)

theorem StandsIn.of_reaches {text : Text} {cursor : Cursor} {least : Nat}
    (reaches : (ofText text).Reaches least cursor) : cursor.StandsIn text := by
  obtain ⟨taken, split, position, -⟩ := reaches
  change text.points = taken ++ cursor.rest at split
  change cursor.position = 0 + taken.length at position
  rw [Nat.zero_add] at position
  constructor
  · rw [Text.length, split, position, List.length_append]
    exact Nat.le_add_right _ _
  · rw [split, position, List.drop_left]

end Cursor

/-! ## Readers move forward -/

/-- What an error says is so, of a reader that went from one cursor to another. A reader that
gives up for depth has read at least `deep` code points. -/
def Error.Stands (deep : Nat) (before after : Cursor) : Error → Prop
  | .unexpectedEnd _ => after.rest = []
  | .unexpectedChar expected found position =>
    position = after.position ∧ after.rest.head? = some found ∧
      meets (some expected) found = false
  | .expectedIdentifier position =>
    position = after.position ∧ ∀ point, after.rest.head? = some point → isWordPoint point = false
  | .unknownType name =>
    IsWord name.points ∧ namedTypes.lookup name = none ∧
      ∃ lead, before.rest = lead ++ (name.points ++ after.rest)
  | .trailing _ _ => False
  | .tooDeep => before.Reaches deep after

theorem Error.Stands.after {before middle after : Cursor} {least deep : Nat} {error : Error}
    (onward : before.Reaches least middle) (stands : error.Stands deep middle after) :
    error.Stands (least + deep) before after := by
  cases error with
  | unexpectedEnd => exact stands
  | unexpectedChar => exact stands
  | expectedIdentifier => exact stands
  | unknownType name =>
    obtain ⟨isWord, unknown, lead, split⟩ := stands
    obtain ⟨taken, takenSplit, -, -⟩ := onward
    exact ⟨isWord, unknown, taken ++ lead, by rw [takenSplit, split, List.append_assoc]⟩
  | trailing => exact stands
  | tooDeep => exact onward.trans stands

theorem Error.Stands.mono {before after : Cursor} {deep fewer : Nat} {error : Error}
    (le : fewer ≤ deep) (stands : error.Stands deep before after) :
    error.Stands fewer before after := by
  cases error with
  | tooDeep => exact Cursor.Reaches.mono le stands
  | _ => exact stands

/-- What a reader comes to that reads on from a cursor: over at least `least` code points when it
succeeds, and over at least `deep` when it gives up for depth. -/
inductive Moved (deep least : Nat) (before : Cursor) : EStateM.Result Error Cursor α → Prop
  | ok {value : α} {after : Cursor} (reaches : before.Reaches least after) :
      Moved deep least before (.ok value after)
  | error {error : Error} {after : Cursor} (reaches : before.Reaches 0 after)
      (stands : error.Stands deep before after) : Moved deep least before (.error error after)

def Moves (deep least : Nat) (reader : Reader α) : Prop :=
  ∀ cursor, Moved deep least cursor (reader cursor)

theorem Moved.after {before middle : Cursor} {deep least further : Nat}
    {result : EStateM.Result Error Cursor α} (onward : before.Reaches further middle)
    (moved : Moved deep least middle result) :
    Moved (further + deep) (further + least) before result := by
  cases moved with
  | ok reaches => exact .ok (onward.trans reaches)
  | error reaches stands =>
    exact .error ((onward.trans reaches).mono (Nat.zero_le _)) (stands.after onward)

theorem Moved.mono {before : Cursor} {deep less least fewer : Nat}
    {result : EStateM.Result Error Cursor α} (lessDeep : less ≤ deep) (le : fewer ≤ least)
    (moved : Moved deep least before result) : Moved less fewer before result := by
  cases moved with
  | ok reaches => exact .ok (reaches.mono le)
  | error reaches stands => exact .error reaches (stands.mono lessDeep)

theorem Moved.skipped {cursor : Cursor} {deep least : Nat}
    {result : EStateM.Result Error Cursor α} (moved : Moved deep least cursor.skipped result) :
    Moved deep least cursor result := by
  simpa using moved.after cursor.reaches_skipped

namespace Moves

variable {deep least more : Nat}

theorem reaches {reader : Reader α} (moves : Moves deep least reader) {cursor after : Cursor}
    {value : α} (run : reader cursor = .ok value after) : cursor.Reaches least after := by
  have moved := moves cursor
  rw [run] at moved
  cases moved with
  | ok reaches => exact reaches

theorem stands {reader : Reader α} (moves : Moves deep least reader) {cursor after : Cursor}
    {error : Error} (run : reader cursor = .error error after) :
    cursor.Reaches 0 after ∧ error.Stands deep cursor after := by
  have moved := moves cursor
  rw [run] at moved
  cases moved with
  | error reaches stands => exact ⟨reaches, stands⟩

theorem pure (value : α) : Moves deep 0 (Pure.pure value : Reader α) :=
  fun cursor => .ok (.refl cursor)

theorem bind {reader : Reader α} {next : α → Reader β} (moves : Moves deep least reader)
    (nextMoves : ∀ value, Moves deep more (next value)) :
    Moves deep (least + more) (reader >>= next) := by
  intro cursor
  cases run : reader cursor with
  | ok value after =>
    rw [Steps.bind_of_ok run]
    exact ((nextMoves value after).after (moves.reaches run)).mono (Nat.le_add_left _ _)
      (Nat.le_refl _)
  | error error after =>
    obtain ⟨reaches, stands⟩ := moves.stands run
    rw [Steps.bind_of_error run]
    exact .error reaches stands

theorem map {reader : Reader α} (moves : Moves deep least reader) (transform : α → β) :
    Moves deep least (do return transform (← reader)) :=
  moves.bind fun value => pure (transform value)

theorem mono {reader : Reader α} {fewer : Nat} (le : fewer ≤ least)
    (moves : Moves deep least reader) : Moves deep fewer reader :=
  fun cursor => (moves cursor).mono (Nat.le_refl _) le

end Moves

theorem moves_skipBlanks {deep : Nat} : Moves deep 0 skipBlanks :=
  fun cursor => .ok cursor.reaches_skipped

theorem moves_peek {deep : Nat} : Moves deep 0 peek :=
  fun cursor => .ok cursor.reaches_skipped

theorem moves_consume {deep : Nat} (expected : Option Text) : Moves deep 1 (consume expected) := by
  intro cursor
  apply Moved.skipped
  rw [consume_run]
  cases next : cursor.skipped.rest with
  | nil => exact .error (.refl _) next
  | cons point others =>
    cases isMet : meets expected point with
    | true =>
      simp only [isMet, if_true]
      exact .ok (Cursor.reaches_advance (by rw [next]; exact Nat.le_add_left 1 _))
    | false =>
      simp only [isMet]
      cases expected with
      | none => cases isMet
      | some text => exact .error (.refl _) ⟨rfl, by rw [next]; rfl, isMet⟩

theorem moves_identifier {deep : Nat} : Moves deep 1 identifier := by
  intro cursor
  apply Moved.skipped
  rw [identifier_run]
  split
  next noWord =>
    refine .error (.refl _) ⟨rfl, fun point next => ?_⟩
    obtain ⟨others, split⟩ := List.head?_eq_some_iff.mp next
    rw [split] at noWord
    cases isWord : isWordPoint point with
    | false => rfl
    | true => simp [isWord] at noWord
  next isWord =>
    refine .ok ((Cursor.reaches_advance ?_).mono ?_)
    · exact (List.takeWhile_sublist isWordPoint).length_le
    · exact List.length_pos_iff.mpr (by simpa using isWord)

theorem moves_namedType {deep : Nat} : Moves deep 1 namedType := by
  intro cursor
  have moves : Moves deep 1 identifier := moves_identifier
  rw [namedType]
  cases run : identifier cursor with
  | error error after =>
    obtain ⟨reaches, stands⟩ := moves.stands run
    rw [Steps.bind_of_error run]
    exact .error reaches stands
  | ok name after =>
    have reaches := moves.reaches run
    rw [Steps.bind_of_ok run]
    cases found : namedTypes.lookup name with
    | some type => exact .ok reaches
    | none =>
      obtain ⟨lead, -, isWord, split⟩ := takes_identifier run
      exact .error (reaches.mono (Nat.zero_le _)) ⟨isWord, found, lead, split⟩

theorem moves_questionMark {deep : Nat} (type : ColumnType) : Moves deep 0 (questionMark type) := by
  intro cursor
  apply Moved.skipped
  rw [questionMark_run]
  split
  next marked =>
    obtain ⟨others, next⟩ := List.head?_eq_some_iff.mp marked
    have fits : 1 ≤ cursor.skipped.rest.length := by rw [next]; exact Nat.le_add_left 1 _
    exact .ok ((Cursor.reaches_advance fits).mono (Nat.zero_le _))
  next => exact .ok (.refl _)

section Fields

variable {deep least : Nat} {readType : Reader ColumnType}

theorem moves_field (typeMoves : Moves deep least readType) :
    Moves deep 2 (field readType) :=
  (moves_identifier.bind fun _ => (moves_consume _).bind fun _ =>
    typeMoves.bind fun _ => Moves.pure _).mono (by omega)

theorem moves_fieldsFrom (typeMoves : Moves deep least readType) (steps : Nat) :
    Moves deep 0 (fieldsFrom readType steps) := by
  induction steps with
  | zero => exact Moves.pure _
  | succ steps inSteps =>
    rw [fieldsFrom_succ]
    refine ((moves_field typeMoves).bind fun _ => moves_peek.bind fun next => ?_).mono
      (Nat.zero_le (2 + (0 + 0)))
    split
    · exact ((moves_consume _).bind fun _ => inSteps.bind fun _ => Moves.pure _).mono
        (Nat.zero_le _)
    · exact Moves.pure _

theorem moves_fieldEntries (typeMoves : Moves deep least readType) :
    Moves deep 0 (fieldEntries readType) := by
  intro cursor
  apply Moved.skipped
  rw [fieldEntries_run]
  split
  · exact .ok (.refl _)
  · exact moves_fieldsFrom typeMoves _ _

theorem length_le_of_opens {opening points : List CodePoint}
    (opens : opening.isPrefixOf points = true) : opening.length ≤ points.length :=
  (List.isPrefixOf_iff_prefix.mp opens).length_le

/-- Both openings have at least five code points, so that every level of nesting takes as many. -/
theorem moves_core (typeMoves : Moves deep least readType) :
    Moves (5 + deep) 1 (core readType) := by
  intro cursor
  apply Moved.skipped
  rw [core_run]
  split
  next opens =>
    have body : Moves deep 0 (listBody readType) :=
      (typeMoves.bind fun _ => (moves_consume _).bind fun _ => Moves.pure _).mono (Nat.zero_le _)
    have opened := Cursor.reaches_advance (length_le_of_opens opens)
    exact ((body _).after opened).mono (Nat.le_refl _) (by decide)
  next =>
    split
    next opens =>
      have body : Moves deep 0 (structBody readType) :=
        ((moves_fieldEntries typeMoves).bind fun _ => (moves_consume _).bind fun _ =>
          Moves.pure _).mono (Nat.zero_le _)
      have opened := Cursor.reaches_advance (length_le_of_opens opens)
      exact ((body _).after opened).mono (Nat.add_le_add_right (by decide) _) (by decide)
    next => exact moves_namedType _

end Fields

theorem moves_typeWithin (depth : Nat) : Moves (5 * depth) 1 (typeWithin depth) := by
  induction depth with
  | zero => exact fun cursor => .error (.refl cursor) (.refl cursor)
  | succ depth inDepth =>
    rw [typeWithin_succ, Nat.mul_succ, Nat.add_comm]
    exact (moves_core inDepth).bind moves_questionMark

/-! ## Readers without bounds -/

def Agree (size : Nat) (reader other : Reader α) : Prop :=
  ∀ cursor, cursor.rest.length ≤ size → reader cursor = other cursor

namespace Agree

variable {size deep least : Nat}

theorem refl (reader : Reader α) : Agree size reader reader := fun _ _ => rfl

theorem bind {reader other : Reader α} {next otherNext : α → Reader β}
    (moves : Moves deep least reader) (agree : Agree size reader other)
    (nextAgree : ∀ value, Agree size (next value) (otherNext value)) :
    Agree size (reader >>= next) (other >>= otherNext) := by
  intro cursor small
  have same := agree cursor small
  cases run : reader cursor with
  | ok value after =>
    have shorter := (moves.reaches run).length_le
    rw [run] at same
    rw [Steps.bind_of_ok run, Steps.bind_of_ok same.symm]
    exact nextAgree value after (Nat.le_trans (Nat.le_of_add_right_le shorter) small)
  | error error after =>
    rw [run] at same
    rw [Steps.bind_of_error run, Steps.bind_of_error same.symm]

theorem after {reader : Reader α} {next otherNext : α → Reader β} (moves : Moves 0 least reader)
    (nextAgree : ∀ value, Agree size (next value) (otherNext value)) :
    Agree size (reader >>= next) (reader >>= otherNext) :=
  (refl reader).bind moves nextAgree

variable {readType other : Reader ColumnType}

theorem field (moves : Moves deep least readType) (agree : Agree size readType other) :
    Agree size (field readType) (field other) :=
  after moves_identifier fun _ => after (moves_consume _) fun _ => agree.bind moves fun _ => refl _

theorem fieldsFrom (moves : Moves deep least readType) (agree : Agree size readType other)
    (steps : Nat) : Agree size (fieldsFrom readType steps) (fieldsFrom other steps) := by
  induction steps with
  | zero => exact refl _
  | succ steps inSteps =>
    rw [fieldsFrom_succ, fieldsFrom_succ]
    refine (agree.field moves).bind (moves_field moves) fun _ => after moves_peek fun next => ?_
    split
    · exact after (moves_consume _) fun _ =>
        inSteps.bind (moves_fieldsFrom moves steps) fun _ => refl _
    · exact refl _

theorem fieldEntries (moves : Moves deep least readType) (agree : Agree size readType other) :
    Agree size (fieldEntries readType) (fieldEntries other) := by
  intro cursor small
  rw [fieldEntries_run, fieldEntries_run]
  split
  · rfl
  · exact agree.fieldsFrom moves _ _
      (Nat.le_trans (Nat.le_of_add_right_le cursor.reaches_skipped.length_le) small)

theorem core (moves : Moves deep least readType) (agree : Agree size readType other) :
    Agree size (core readType) (core other) := by
  intro cursor small
  have inside (count : Nat) : (cursor.skipped.advance count).rest.length ≤ size := by
    have skipped := cursor.reaches_skipped.length_le
    rw [Cursor.rest_advance, List.length_drop]
    omega
  rw [core_run, core_run]
  split
  · exact agree.bind moves (fun _ => after (moves_consume _) fun _ => refl _) _ (inside _)
  · split
    · exact (agree.fieldEntries moves).bind (moves_fieldEntries moves)
        (fun _ => after (moves_consume _) fun _ => refl _) _ (inside _)
    · rfl

end Agree

def unlimitedType : Reader ColumnType := fun cursor =>
  typeWithin (cursor.rest.length + 1) cursor

def GivesUp (result : EStateM.Result Error Cursor α) : Prop :=
  ∃ after, result = .error .tooDeep after

theorem not_givesUp_of_length_lt {deep least : Nat} {cursor : Cursor}
    {result : EStateM.Result Error Cursor α} (moved : Moved deep least cursor result)
    (short : cursor.rest.length < deep) : ¬ GivesUp result := by
  rintro ⟨after, rfl⟩
  cases moved with
  | error _ stands =>
    have long := Cursor.Reaches.length_le stands
    omega

theorem typeWithin_eq_unlimitedType {depth : Nat} {cursor : Cursor}
    (enough : cursor.rest.length < depth) : typeWithin depth cursor = unlimitedType cursor := by
  have short : cursor.rest.length < 5 * (cursor.rest.length + 1) := by omega
  rcases deepens_typeWithin (Nat.succ_le_of_lt enough) cursor with gaveUp | same
  · exact absurd gaveUp (not_givesUp_of_length_lt (moves_typeWithin _ cursor) short)
  · exact same

theorem moves_unlimitedType {deep : Nat} : Moves deep 1 unlimitedType := by
  intro cursor
  have enough : cursor.rest.length < deep + cursor.rest.length + 1 := by omega
  rw [← typeWithin_eq_unlimitedType enough]
  exact (moves_typeWithin _ cursor).mono (by omega) (Nat.le_refl _)

theorem deepens_unlimitedType (depth : Nat) : Deepens (typeWithin depth) unlimitedType := by
  intro cursor
  rcases Nat.lt_or_ge cursor.rest.length depth with enough | less
  · exact .inr (typeWithin_eq_unlimitedType enough).symm
  · exact deepens_typeWithin (Nat.le_succ_of_le less) cursor

theorem unlimitedType_eq : unlimitedType = core unlimitedType >>= questionMark := by
  funext cursor
  have enough : cursor.rest.length < cursor.rest.length + 2 := by omega
  have agree : Agree cursor.rest.length (typeWithin (cursor.rest.length + 1)) unlimitedType :=
    fun _ small => typeWithin_eq_unlimitedType (Nat.lt_succ_of_le small)
  have moves := moves_typeWithin (cursor.rest.length + 1)
  rw [← typeWithin_eq_unlimitedType enough, typeWithin_succ]
  exact (agree.core moves).bind (moves_core moves) (fun _ => .refl _) cursor (Nat.le_refl _)

def fieldLoop (readType : Reader ColumnType) : Reader FieldEntries := fun cursor =>
  fieldsFrom readType (cursor.rest.length + 1) cursor

section Loop

variable {deep least : Nat} {readType : Reader ColumnType}

/-- The bound on the number of fields does not matter when it exceeds the number of code points
left: every field takes two of them. -/
theorem fieldsFrom_eq_of_lt (moves : Moves deep least readType) {steps others : Nat}
    {cursor : Cursor} (enough : cursor.rest.length < steps)
    (othersEnough : cursor.rest.length < others) :
    fieldsFrom readType steps cursor = fieldsFrom readType others cursor := by
  induction steps generalizing others cursor with
  | zero => exact absurd enough (Nat.not_lt_zero _)
  | succ steps inSteps =>
    obtain ⟨others, rfl⟩ : ∃ fewer, others = fewer + 1 := ⟨others - 1, by omega⟩
    rw [fieldsFrom_succ, fieldsFrom_succ]
    cases run : field readType cursor with
    | error error after => rw [Steps.bind_of_error run, Steps.bind_of_error run]
    | ok first after =>
      have shorter := ((moves_field moves).reaches run).length_le
      have agree : Agree after.rest.length (fieldsFrom readType steps)
          (fieldsFrom readType others) :=
        fun later small => inSteps (by omega) (by omega)
      rw [Steps.bind_of_ok run, Steps.bind_of_ok run]
      refine Agree.after moves_peek (fun next => ?_) after (Nat.le_refl _)
      split
      · exact .after (moves_consume _) fun _ =>
          agree.bind (moves_fieldsFrom moves steps) fun _ => .refl _
      · exact .refl _

theorem fieldsFrom_eq_fieldLoop (moves : Moves deep least readType) {steps : Nat}
    {cursor : Cursor} (enough : cursor.rest.length < steps) :
    fieldsFrom readType steps cursor = fieldLoop readType cursor :=
  fieldsFrom_eq_of_lt moves enough (Nat.lt_succ_self _)

theorem fieldLoop_eq (moves : Moves deep least readType) :
    fieldLoop readType = (do
      let first ← field readType
      let next ← peek
      if next = some (.char ',') then
        let _ ← consume (some (.ofPoint (.char ',')))
        let others ← fieldLoop readType
        return first :: others
      else return [first]) := by
  funext cursor
  have agree : Agree cursor.rest.length (fieldsFrom readType (cursor.rest.length + 1))
      (fieldLoop readType) :=
    fun later small => fieldsFrom_eq_fieldLoop moves (Nat.lt_succ_of_le small)
  have enough : cursor.rest.length < cursor.rest.length + 2 := by omega
  rw [← fieldsFrom_eq_fieldLoop moves enough, fieldsFrom_succ]
  refine Agree.bind (moves_field moves) (.refl _) (fun _ => .after moves_peek fun next => ?_)
    cursor (Nat.le_refl _)
  split
  · exact .after (moves_consume _) fun _ =>
      agree.bind (moves_fieldsFrom moves _) fun _ => .refl _
  · exact .refl _

theorem fieldEntries_eq (readType : Reader ColumnType) :
    fieldEntries readType = (do
      let next ← peek
      if next = some (.char '\x7d') then return []
      else fieldLoop readType) := by
  funext cursor
  rw [fieldEntries_run, Steps.bind_of_ok (peek_run cursor)]
  split <;> rfl

end Loop

/-! ## Operations -/

inductive Operation where
  | peek
  | consume (expected : Option Text)
  | skip
  | identifier
  | type
  | fields
  | schema

inductive Yield where
  | next (point : Option CodePoint)
  | point (point : CodePoint)
  | nothing
  | name (name : Text)
  | type (type : ColumnType)
  | fields (fields : Fields)
  | frame (frame : Frame)

namespace Operation

def run : Operation → Reader Yield
  | .peek => do return .next (← Schema.peek)
  | .consume expected => do return .point (← Schema.consume expected)
  | .skip => do
    skipBlanks
    return .nothing
  | .identifier => do return .name (← Schema.identifier)
  | .type => do return .type (← Schema.type)
  | .fields => do return .fields (← Schema.fields)
  | .schema => do return .frame (← Schema.schema)

def runWith (readType : Reader ColumnType) : Operation → Reader Yield
  | .type => do return .type (← readType)
  | .fields => do return .fields (toFields (← fieldEntries readType))
  | .schema => do
    let _ ← Schema.consume (some (.ofPoint (.char '\x7b')))
    let entries ← fieldEntries readType
    let _ ← Schema.consume (some (.ofPoint (.char '\x7d')))
    return .frame (toFrame entries)
  | operation => operation.run

theorem run_eq (operation : Operation) : operation.run = operation.runWith Schema.type := by
  cases operation with
  | fields => simp only [run, runWith, Schema.fields, bind_assoc, pure_bind]
  | schema =>
    simp only [run, runWith, Schema.schema, bind_assoc, pure_bind]
    rfl
  | _ => rfl

def least : Operation → Nat
  | .peek | .skip | .fields => 0
  | .consume _ | .identifier | .type => 1
  | .schema => 2

theorem moves_runWith {deep : Nat} {readType : Reader ColumnType} (moves : Moves deep 1 readType)
    (operation : Operation) : Moves deep operation.least (operation.runWith readType) := by
  cases operation with
  | peek => exact moves_peek.map _
  | consume expected => exact (moves_consume expected).map _
  | skip => exact moves_skipBlanks.map _
  | identifier => exact moves_identifier.map _
  | type => exact moves.map _
  | fields => exact (moves_fieldEntries moves).map _
  | schema =>
    exact (moves_consume _).bind fun _ => (moves_fieldEntries moves).bind fun _ =>
      (moves_consume _).map _

theorem deepens_runWith {shallow deep : Reader ColumnType} (deepens : Deepens shallow deep)
    (operation : Operation) : Deepens (operation.runWith shallow) (operation.runWith deep) := by
  cases operation with
  | type => exact deepens.bind fun _ => .refl _
  | fields => exact deepens.fieldEntries.bind fun _ => .refl _
  | schema =>
    exact (Deepens.refl _).bind fun _ => deepens.fieldEntries.bind fun _ => .refl _
  | _ => exact .refl _

theorem moves_run (operation : Operation) :
    Moves (5 * nestingLimit) operation.least operation.run := by
  rw [run_eq]
  exact operation.moves_runWith (moves_typeWithin nestingLimit)

end Operation

/-! ## Sessions -/

structure Step where
  operation : Operation
  start : Cursor

namespace Step

def result (step : Step) : EStateM.Result Error Cursor Yield :=
  step.operation.run step.start

def stop (step : Step) : Cursor :=
  match step.result with
  | .ok _ cursor => cursor
  | .error _ cursor => cursor

def outcome (step : Step) : Except Error Yield :=
  match step.result with
  | .ok value _ => .ok value
  | .error error _ => .error error

/-- What holds of a step in a session with a text. -/
structure Sound (text : Text) (step : Step) : Prop where
  starts : step.start.StandsIn text
  stops : step.stop.StandsIn text
  forward : step.start.position ≤ step.stop.position
  succeeds : ∀ value, step.outcome = .ok value →
    step.start.position + step.operation.least ≤ step.stop.position
  fails : ∀ error, step.outcome = .error error →
    error.Stands (5 * nestingLimit) step.start step.stop

end Step

def session : List Operation → Cursor → List Step
  | [], _ => []
  | operation :: rest, cursor => ⟨operation, cursor⟩ :: session rest (Step.stop ⟨operation, cursor⟩)

def Follows : Cursor → List Step → Prop
  | _, [] => True
  | cursor, step :: rest => step.start = cursor ∧ Follows step.stop rest

theorem follows_session (operations : List Operation) (cursor : Cursor) :
    Follows cursor (session operations cursor) := by
  induction operations generalizing cursor with
  | nil => trivial
  | cons operation rest inRest => exact ⟨rfl, inRest _⟩

theorem map_operation_session (operations : List Operation) (cursor : Cursor) :
    (session operations cursor).map Step.operation = operations := by
  induction operations generalizing cursor with
  | nil => rfl
  | cons operation rest inRest => exact congrArg (operation :: ·) (inRest _)

theorem Step.reaches_stop (step : Step) : step.start.Reaches 0 step.stop := by
  have moves := step.operation.moves_run
  rw [stop]
  cases run : step.result with
  | ok value after => exact (moves.reaches run).mono (Nat.zero_le _)
  | error error after => exact (moves.stands run).1

theorem Step.sound_of_reaches {text : Text} {step : Step}
    (reached : (Cursor.ofText text).Reaches 0 step.start) : step.Sound text := by
  have moves := step.operation.moves_run
  refine ⟨.of_reaches reached, .of_reaches (reached.trans step.reaches_stop),
    step.reaches_stop.position_le, fun value succeeded => ?_, fun error failed => ?_⟩
  · rw [outcome] at succeeded
    rw [stop]
    cases run : step.result with
    | error error after => simp [run] at succeeded
    | ok value after => exact (moves.reaches run).position_le
  · rw [outcome] at failed
    rw [stop]
    cases run : step.result with
    | ok value after => simp [run] at failed
    | error other after =>
      simp only [run, Except.error.injEq] at failed
      subst failed
      exact (moves.stands run).2

/-- The invariant of a session is that its cursor is reached from the start of the text. -/
theorem sound_of_mem_session {text : Text} {operations : List Operation} {cursor : Cursor}
    (reached : (Cursor.ofText text).Reaches 0 cursor) {step : Step}
    (member : step ∈ session operations cursor) : step.Sound text := by
  induction operations generalizing cursor with
  | nil => cases member
  | cons operation rest inRest =>
    rcases List.mem_cons.mp member with rfl | later
    · exact Step.sound_of_reaches reached
    · have reachedStop := reached.trans (Step.reaches_stop ⟨operation, cursor⟩)
      exact inRest reachedStop later

structure Unbounded (readType : Reader ColumnType) (loop : Reader FieldEntries) : Prop where
  type_eq : readType = core readType >>= questionMark
  entries_eq : fieldEntries readType = (do
    let next ← peek
    if next = some (.char '\x7d') then return []
    else loop)
  loop_eq : loop = (do
    let first ← field readType
    let next ← peek
    if next = some (.char ',') then
      let _ ← consume (some (.ofPoint (.char ',')))
      let others ← loop
      return first :: others
    else return [first])
  neverGivesUp : ∀ (operation : Operation) cursor, ¬ GivesUp (operation.runWith readType cursor)

theorem unbounded_unlimitedType : Unbounded unlimitedType (fieldLoop unlimitedType) where
  type_eq := unlimitedType_eq
  entries_eq := fieldEntries_eq unlimitedType
  loop_eq := fieldLoop_eq (moves_unlimitedType : Moves 0 1 unlimitedType)
  neverGivesUp operation cursor :=
    not_givesUp_of_length_lt (operation.moves_runWith moves_unlimitedType cursor)
      (Nat.lt_succ_self _)

theorem Step.result_eq_unlimited {step : Step} (notDeep : step.outcome ≠ .error .tooDeep) :
    step.result = step.operation.runWith unlimitedType step.start := by
  have deepens := step.operation.deepens_runWith (deepens_unlimitedType nestingLimit) step.start
  have ran : step.result = step.operation.runWith (typeWithin nestingLimit) step.start := by
    rw [result, Operation.run_eq, type]
  rcases deepens with ⟨after, gaveUp⟩ | same
  · exact absurd (by rw [outcome, ran, gaveUp]) notDeep
  · rw [ran, same]

/-- In every session with a text the cursor stays in the text and never goes back, operations that
read something move it on, and what an operation that fails says is so. They end by themselves:
the readers without bounds do the same, but where the nesting is beyond the limit. -/
theorem session_keeps_place (text : Text) (operations : List Operation) :
    (session operations (.ofText text)).map Step.operation = operations ∧
    Follows (.ofText text) (session operations (.ofText text)) ∧
    (∀ step ∈ session operations (.ofText text), step.Sound text) ∧
    ∃ readType loop, Unbounded readType loop ∧
      ∀ step ∈ session operations (.ofText text), step.outcome ≠ .error .tooDeep →
        step.result = step.operation.runWith readType step.start :=
  ⟨map_operation_session operations _, follows_session operations _,
    fun _ member => sound_of_mem_session (.refl _) member,
    unlimitedType, fieldLoop unlimitedType, unbounded_unlimitedType,
    fun _ _ notDeep => Step.result_eq_unlimited notDeep⟩

/-- A type whose bracket is missing leaves the cursor at the brace, from where the next operation
goes on. -/
example : (session [.type, .peek, .consume none] (.ofText "List[Int64 \x7d")).map
    (fun step => step.stop.position) = [11, 11, 12] := by
  decide +kernel

end FrameCheck.Schema
