import FrameCheck.Proofs.SchemaCompleteness
import FrameCheck.Proofs.SchemaSoundness

/-!
Reading a text succeeds exactly when the grammar derives something from it, and gives what is
derived. Texts that are nested too deep are the only ones for which the grammar derives
something and reading fails.
-/

namespace FrameCheck.Schema

/-! ## Reading deeper -/

def Deepens (shallow deep : Reader α) : Prop :=
  ∀ cursor, (∃ after, shallow cursor = .error .tooDeep after) ∨ deep cursor = shallow cursor

namespace Deepens

theorem refl (reader : Reader α) : Deepens reader reader := fun _ => .inr rfl

theorem bind {shallow deep : Reader α} {shallowNext deepNext : α → Reader β}
    (first : Deepens shallow deep) (next : ∀ value, Deepens (shallowNext value) (deepNext value)) :
    Deepens (shallow >>= shallowNext) (deep >>= deepNext) := by
  intro cursor
  rcases first cursor with ⟨after, gaveUp⟩ | same
  · exact .inl ⟨after, Steps.bind_of_error gaveUp⟩
  · cases run : shallow cursor with
    | error error after =>
      right
      rw [Steps.bind_of_error run, Steps.bind_of_error (same.trans run)]
    | ok value after =>
      rw [Steps.bind_of_ok run, Steps.bind_of_ok (same.trans run)]
      exact next value after

variable {shallow deep : Reader ColumnType}

theorem field (types : Deepens shallow deep) : Deepens (field shallow) (field deep) :=
  (refl _).bind fun _ => (refl _).bind fun _ => types.bind fun _ => refl _

theorem fieldsFrom (types : Deepens shallow deep) (steps : Nat) :
    Deepens (fieldsFrom shallow steps) (fieldsFrom deep steps) := by
  induction steps with
  | zero => exact refl _
  | succ steps inSteps =>
    rw [fieldsFrom_succ, fieldsFrom_succ]
    refine types.field.bind fun _ => (refl _).bind fun next => ?_
    split
    · exact (refl _).bind fun _ => inSteps.bind fun _ => refl _
    · exact refl _

theorem fieldEntries (types : Deepens shallow deep) :
    Deepens (fieldEntries shallow) (fieldEntries deep) := by
  intro cursor
  rw [fieldEntries_run, fieldEntries_run]
  split
  · exact .inr rfl
  · exact types.fieldsFrom _ _

theorem core (types : Deepens shallow deep) : Deepens (core shallow) (core deep) := by
  intro cursor
  rw [core_run, core_run]
  split
  · exact (types.bind fun _ => (refl _).bind fun _ => refl _) _
  · split
    · exact (types.fieldEntries.bind fun _ => (refl _).bind fun _ => refl _) _
    · exact .inr rfl

end Deepens

theorem deepens_typeWithin {depth deeper : Nat} (le : depth ≤ deeper) :
    Deepens (typeWithin depth) (typeWithin deeper) := by
  induction depth generalizing deeper with
  | zero => exact fun cursor => .inl ⟨cursor, rfl⟩
  | succ depth inDepth =>
    obtain ⟨deeper, rfl⟩ : ∃ fewer, deeper = fewer + 1 := ⟨deeper - 1, by omega⟩
    rw [typeWithin_succ, typeWithin_succ]
    exact (inDepth (Nat.le_of_succ_le_succ le)).core.bind fun _ => .refl _

theorem deepens_schemaWithin {depth deeper : Nat} (le : depth ≤ deeper) :
    Deepens (schemaWithin depth) (schemaWithin deeper) :=
  (Deepens.refl _).bind fun _ => (deepens_typeWithin le).fieldEntries.bind fun _ =>
    (Deepens.refl _).bind fun _ => .refl _

/-! ## Blanks at the ends -/

theorem isBlankPoint_head_bare {points : List CodePoint} {point : CodePoint}
    (isHead : (bare points).head? = some point) : isBlankPoint point = false := by
  have notBlank := List.head?_dropWhile_not isBlankPoint points
  rw [isHead] at notBlank
  exact notBlank

theorem isBlankPoint_getLast_strip {points : List CodePoint} {point : CodePoint}
    (isLast : (Text.strip points).getLast? = some point) : isBlankPoint point = false := by
  rw [Text.strip, List.getLast?_reverse] at isLast
  exact isBlankPoint_head_bare isLast

theorem isBlankPoint_head_strip {points : List CodePoint} {point : CodePoint}
    (isHead : (Text.strip points).head? = some point) : isBlankPoint point = false := by
  have isPrefix : Text.strip points <+: bare points := by
    rw [← List.reverse_reverse (bare points)]
    exact List.reverse_prefix.mpr (List.dropWhile_suffix _)
  obtain ⟨others, split⟩ := List.head?_eq_some_iff.mp isHead
  rw [split] at isPrefix
  obtain ⟨more, whole⟩ := isPrefix
  exact isBlankPoint_head_bare (by rw [← whole]; rfl)

theorem eq_nil_of_strip_eq_left {points gap rest : List CodePoint} (isBlank : Blanks gap)
    (split : Text.strip points = gap ++ rest) : gap = [] := by
  cases gap with
  | nil => rfl
  | cons point others =>
    have notBlank : isBlankPoint point = false := isBlankPoint_head_strip (by rw [split]; rfl)
    exact absurd (isBlank point List.mem_cons_self) (by simp [notBlank])

theorem eq_nil_of_strip_eq_right {points gap rest : List CodePoint} (isBlank : Blanks gap)
    (split : Text.strip points = rest ++ gap) : gap = [] := by
  cases gap using List.reverseRecOn with
  | nil => rfl
  | append_singleton others point =>
    have isLast : (Text.strip points).getLast? = some point := by
      rw [split, ← List.append_assoc, List.getLast?_concat]
    have notBlank := isBlankPoint_getLast_strip isLast
    exact absurd (isBlank point (by simp)) (by simp [notBlank])

/-! ## Whole texts -/

/-- A result agrees with a grammar: it is what the grammar derives within the limit of nesting.
Unless it was given up for depth, the limit does not matter, and where nothing is derived the
text is refused for another reason. -/
structure Decides (result : Except Error α) (derives : (depth : Nat) → α → Prop) : Prop where
  ok_iff_within : ∀ value, result = .ok value ↔ derives nestingLimit value
  ok_iff : result ≠ .error .tooDeep → ∀ value, result = .ok value ↔ ∃ depth, derives depth value
  refused : result ≠ .error .tooDeep → (∀ depth value, ¬ derives depth value) →
    ∃ error, error ≠ .tooDeep ∧ result = .error error

theorem readAll_of_error {subject : Subject} {reader : Reader α} {text : Text} {error : Error}
    {after : Cursor} (run : reader { rest := Text.strip text.points } = .error error after) :
    readAll subject reader text = .error error := by
  simp only [readAll, Steps.bind_of_error run]

structure ReadsGrammar (within : (depth : Nat) → Reader α)
    (derives : (depth : Nat) → List CodePoint → α → Prop) : Prop where
  sound : ∀ depth cursor value after, within depth cursor = .ok value after →
    ∃ lead text, Blanks lead ∧ derives depth text value ∧ cursor.rest = lead ++ (text ++ after.rest)
  complete : ∀ depth text value, derives depth text value → Reads (within depth) text value []
  deepens : ∀ depth deeper, depth ≤ deeper → Deepens (within depth) (within deeper)

namespace ReadsGrammar

variable {within : (depth : Nat) → Reader α} {derives : (depth : Nat) → List CodePoint → α → Prop}

theorem readAll_eq_ok_iff_derives (grammar : ReadsGrammar within derives) (subject : Subject)
    (depth : Nat) (text : Text) (value : α) :
    readAll subject (within depth) text = .ok value ↔
      derives depth (Text.strip text.points) value := by
  rw [readAll_eq_ok_iff]
  constructor
  · rintro ⟨after, run, allRead⟩
    obtain ⟨lead, taken, leadBlank, derived, split⟩ := grammar.sound _ _ _ _ run
    change Text.strip text.points = _ at split
    have restBlank : Blanks after.rest :=
      List.dropWhile_eq_nil_iff.mp ((Cursor.rest_skipped after).symm.trans allRead)
    have noRest := eq_nil_of_strip_eq_right restBlank (split.trans (List.append_assoc ..).symm)
    have noLead := eq_nil_of_strip_eq_left leadBlank split
    rw [noRest, noLead, List.nil_append, List.append_nil] at split
    rwa [split]
  · intro derived
    obtain ⟨after, run, allRead⟩ :=
      grammar.complete _ _ _ derived { rest := Text.strip text.points } rfl
    exact ⟨after, run, (Cursor.rest_skipped after).trans allRead⟩

theorem readAll_eq_ok_of_derives (grammar : ReadsGrammar within derives) {subject : Subject}
    {limit : Nat} {text : Text}
    (notDeep : readAll subject (within limit) text ≠ .error .tooDeep) {depth : Nat} {value : α}
    (derived : derives depth (Text.strip text.points) value) :
    readAll subject (within limit) text = .ok value := by
  have isRead := (grammar.readAll_eq_ok_iff_derives subject depth text value).mpr derived
  obtain ⟨after, run, allRead⟩ := readAll_eq_ok_iff.mp isRead
  rw [readAll_eq_ok_iff]
  rcases Nat.le_total depth limit with le | le
  · rcases grammar.deepens _ _ le { rest := Text.strip text.points } with ⟨last, gaveUp⟩ | same
    · rw [run] at gaveUp
      cases gaveUp
    · exact ⟨after, same.trans run, allRead⟩
  · rcases grammar.deepens _ _ le { rest := Text.strip text.points } with ⟨last, gaveUp⟩ | same
    · exact absurd (readAll_of_error gaveUp) notDeep
    · exact ⟨after, same.symm.trans run, allRead⟩

theorem decides (grammar : ReadsGrammar within derives) (subject : Subject) (text : Text) :
    Decides (readAll subject (within nestingLimit) text) fun depth =>
      derives depth (Text.strip text.points) := by
  have okIff := grammar.readAll_eq_ok_iff_derives subject nestingLimit text
  refine ⟨okIff, fun notDeep value => ⟨fun isRead => ?_, fun derived => ?_⟩,
    fun notDeep underived => ?_⟩
  · exact ⟨nestingLimit, (okIff value).mp isRead⟩
  · obtain ⟨depth, derived⟩ := derived
    exact grammar.readAll_eq_ok_of_derives notDeep derived
  · cases result : readAll subject (within nestingLimit) text with
    | ok value => exact absurd ((okIff value).mp result) (underived _ _)
    | error error => exact ⟨error, fun isDeep => notDeep (by rw [result, isDeep]), rfl⟩

end ReadsGrammar

theorem typeWithin_readsGrammar : ReadsGrammar typeWithin TypeText where
  sound depth cursor type after run := by
    obtain ⟨text, split, derived⟩ := takes_typeWithin depth cursor type after run
    exact ⟨[], text, blanks_nil, derived, split⟩
  complete depth text type derived := by
    have reads := complete_typeWithin depth derived endsType_nil
    rwa [List.append_nil] at reads
  deepens _ _ le := deepens_typeWithin le

theorem schemaWithin_readsGrammar : ReadsGrammar schemaWithin SchemaText where
  sound _ _ _ _ run := takes_schemaWithin run
  complete _ _ _ derived := reads_schemaWithin derived
  deepens _ _ le := deepens_schemaWithin le

/-- Types and schemas are read from exactly the texts that the grammar derives them from. -/
theorem parse_decides_grammar (text : Text) :
    Decides (parseType text) (fun depth => TypeText depth (Text.strip text.points)) ∧
    Decides (parseSchema text) (fun depth => SchemaText depth (Text.strip text.points)) :=
  ⟨typeWithin_readsGrammar.decides .type text, schemaWithin_readsGrammar.decides .schema text⟩

def spacedText : Text := " List[ Struct\x7b a : Int64 ,b:Utf8? , a:Date\x7d ] ? "

theorem spacedText_decided :
    parseType spacedText ≠ .error .tooDeep ∧
    (∃ depth, TypeText depth (Text.strip spacedText.points)
      (.nullable (.list (.struct (.ofList
        [("a", .scalar .date), ("b", .nullable (.scalar .utf8))]))))) ∧
    ¬ ∃ frame, SchemaText nestingLimit (Text.strip spacedText.points) frame := by
  have isRead : parseType spacedText = .ok (.nullable (.list (.struct (.ofList
      [("a", .scalar .date), ("b", .nullable (.scalar .utf8))])))) := by
    rfl
  have notDeep : parseType spacedText ≠ .error .tooDeep := by
    rw [isRead]
    exact nofun
  obtain ⟨types, schemas⟩ := parse_decides_grammar spacedText
  refine ⟨notDeep, (types.ok_iff notDeep _).mp isRead, fun ⟨frame, derived⟩ => ?_⟩
  have accepted := (schemas.ok_iff_within frame).mpr derived
  have refused : (parseSchema spacedText).toBool = false := by
    rfl
  rw [accepted] at refused
  cases refused

end FrameCheck.Schema
