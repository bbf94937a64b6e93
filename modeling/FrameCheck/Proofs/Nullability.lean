import FrameCheck.Proofs.Unification

/-!
Nulls in the types of expressions. Arithmetic, unification and choices allow nulls exactly where an
operand does. A cast looks only at `nullable`: it keeps the nulls of its source and of its target,
but from a source of nothing but nulls it comes to a target without them. So in an expression
without such casts nullability only increases, from the parts to the whole.
-/

namespace FrameCheck

def ColumnType.admitsNull (type : ColumnType) : Bool :=
  type == .null || type.isNullable

namespace Typing

/-! ## Contents -/

theorem admitsNull_of_ne {type : ColumnType} (notNull : type ≠ .null) :
    type.admitsNull = type.isNullable := by
  simp [ColumnType.admitsNull, notNull]

namespace Content

def admitsNull : Content → Bool
  | .clash => false
  | .nulls => true
  | .values _ nullable => nullable

@[simp] theorem admitsNull_ofType (type : ColumnType) :
    (ofType type).admitsNull = type.admitsNull := by
  by_cases isNull : type = .null
  · subst isNull
    rfl
  · rw [ofType_of_ne isNull, admitsNull_of_ne isNull, admitsNull]

theorem admitsNull_merge {bases : ColumnType → ColumnType → Option ColumnType}
    {left right : Content} (goTogether : merge bases left right ≠ .clash) :
    (merge bases left right).admitsNull = (left.admitsNull || right.admitsNull) := by
  cases left with
  | clash => simp at goTogether
  | nulls => cases right <;> first | rfl | simp at goTogether
  | values base nullable =>
    cases right with
    | clash => simp at goTogether
    | nulls => simp [admitsNull]
    | values other otherNullable =>
      rw [merge_values_values] at goTogether ⊢
      cases common : bases base other with
      | none =>
        rw [common] at goTogether
        exact absurd rfl goTogether
      | some base => rfl

theorem admitsNull_withNulls {content : Content} (together : content ≠ .clash) :
    content.withNulls.admitsNull = true := by
  cases content <;> first | rfl | contradiction

theorem of_chosen_ne_clash {condition : ColumnType} {content : Content}
    (together : chosen condition content ≠ .clash) :
    condition.base = .boolean ∧ content ≠ .clash := by
  constructor
  · by_contra notBoolean
    exact together (if_neg notBoolean)
  · rintro rfl
    exact together (chosen_clash condition)

theorem admitsNull_chosen {condition : ColumnType} {content : Content}
    (together : chosen condition content ≠ .clash) :
    (chosen condition content).admitsNull = (condition.admitsNull || content.admitsNull) := by
  rcases of_chosen_ne_clash together with ⟨isBoolean, contentTogether⟩
  have notNull : condition ≠ .null := by
    rintro rfl
    cases isBoolean
  rw [chosen, if_pos isBoolean, admitsNull_of_ne notNull]
  cases condition.isNullable with
  | true => simp [admitsNull_withNulls contentTogether]
  | false => simp

end Content

/-! ## Operations -/

theorem ofType_of_ofResult {result : Except ε ColumnType} {type : ColumnType} {content : Content}
    (succeeded : result = .ok type) (isContent : Content.ofResult result = content) :
    Content.ofType type = content ∧ content ≠ .clash := by
  subst succeeded
  subst isContent
  exact ⟨rfl, Content.ofType_ne_clash type⟩

theorem Merging.admitsNull {bases : ColumnType → ColumnType → Option ColumnType}
    {operation : ColumnType → ColumnType → Except ε ColumnType} (merging : Merging bases operation)
    {left right type : ColumnType} (succeeded : operation left right = .ok type) :
    type.admitsNull = (left.admitsNull || right.admitsNull) := by
  rcases ofType_of_ofResult succeeded (merging.merges left right) with ⟨merged, together⟩
  have spread := Content.admitsNull_merge together
  rw [← merged] at spread
  simpa using spread

theorem admitsNull_of_choice {condition consequent alternative type : ColumnType}
    (succeeded : choice condition consequent alternative = .ok type) :
    type.admitsNull =
      (condition.admitsNull || (consequent.admitsNull || alternative.admitsNull)) := by
  rcases ofType_of_ofResult succeeded (Content.ofResult_choice condition consequent alternative)
    with ⟨isChosen, together⟩
  have spread := Content.admitsNull_chosen together
  rw [← isChosen, Content.admitsNull_merge (Content.of_chosen_ne_clash together).2] at spread
  simpa using spread

theorem admitsNull_cast (source target : ColumnType) :
    (cast source target).admitsNull = (source.isNullable || target.admitsNull) := by
  unfold cast
  cases source.isNullable with
  | true => simp [ColumnType.nullableIf, ColumnType.admitsNull, ColumnType.isNullable]
  | false =>
    have unchanged := Content.nullableIf_isNullable_base target
    simp [unchanged]

theorem admitsNull_cast_of_ne {source : ColumnType} (notNull : source ≠ .null)
    (target : ColumnType) :
    (cast source target).admitsNull = (source.admitsNull || target.admitsNull) := by
  rw [admitsNull_cast, admitsNull_of_ne notNull]

theorem cast_loses_nulls_iff {source target : ColumnType}
    (nulls : source.admitsNull = true ∨ target.admitsNull = true) :
    (cast source target).admitsNull = false ↔ source = .null ∧ target.admitsNull = false := by
  rw [admitsNull_cast, Bool.or_eq_false_iff]
  constructor
  · rintro ⟨notNullable, targetHasNone⟩
    refine ⟨?_, targetHasNone⟩
    by_contra notNull
    rw [admitsNull_of_ne notNull] at nulls
    simp_all
  · rintro ⟨rfl, targetHasNone⟩
    exact ⟨rfl, targetHasNone⟩

/-! ## Expressions -/

inductive Formula where
  | given (type : ColumnType)
  | arithmetic (left right : Formula)
  | converted (source : Formula) (target : ColumnType)
  | chosen (condition consequent alternative : Formula)

namespace Formula

def type? : Formula → Option ColumnType
  | given type => some type
  | arithmetic left right => do (promote (← left.type?) (← right.type?)).toOption
  | converted source target => do return cast (← source.type?) target
  | chosen condition consequent alternative => do
    (choice (← condition.type?) (← consequent.type?) (← alternative.type?)).toOption

/-- The types that are given in an expression, those of casts among them. -/
def givenTypes : Formula → List ColumnType
  | given type => [type]
  | arithmetic left right => left.givenTypes ++ right.givenTypes
  | converted source target => source.givenTypes ++ [target]
  | chosen condition consequent alternative =>
    condition.givenTypes ++ (consequent.givenTypes ++ alternative.givenTypes)

/-- Whether nothing but nulls is cast to a type without them. -/
def losesNulls : Formula → Bool
  | given _ => false
  | arithmetic left right => left.losesNulls || right.losesNulls
  | converted source target =>
    source.losesNulls || (source.type? == some .null && !target.admitsNull)
  | chosen condition consequent alternative =>
    condition.losesNulls || (consequent.losesNulls || alternative.losesNulls)

theorem eq_ok_of_toOption {result : Except ε ColumnType} {type : ColumnType}
    (isType : result.toOption = some type) : result = .ok type := by
  cases result with
  | error _ => cases isType
  | ok other =>
    cases isType
    rfl

theorem admitsNull_eq {formula : Formula} {type : ColumnType} (typed : formula.type? = some type)
    (keeps : formula.losesNulls = false) :
    type.admitsNull = formula.givenTypes.any ColumnType.admitsNull := by
  induction formula generalizing type with
  | given other =>
    cases typed
    simp [givenTypes]
  | arithmetic left right inLeft inRight =>
    rw [losesNulls, Bool.or_eq_false_iff] at keeps
    simp only [type?, Option.bind_eq_bind, Option.bind_eq_some_iff] at typed
    rcases typed with ⟨leftType, isLeft, rightType, isRight, promoted⟩
    rw [promote_merging.admitsNull (eq_ok_of_toOption promoted), inLeft isLeft keeps.1,
      inRight isRight keeps.2, givenTypes, List.any_append]
  | converted source target inSource =>
    rw [losesNulls, Bool.or_eq_false_iff] at keeps
    simp only [type?, Option.bind_eq_bind, Option.bind_eq_some_iff] at typed
    rcases typed with ⟨sourceType, isSource, ⟨⟩⟩
    have fromSource := inSource isSource keeps.1
    rw [givenTypes, List.any_append, ← fromSource]
    by_cases isNull : sourceType = .null
    · -- the target is known to allow nulls
      subst isNull
      have targetAdmits : target.admitsNull = true := by
        simpa [isSource] using keeps.2
      simp [admitsNull_cast, targetAdmits]
    · simp [admitsNull_cast_of_ne isNull]
  | chosen condition consequent alternative inCondition inConsequent inAlternative =>
    rw [losesNulls, Bool.or_eq_false_iff, Bool.or_eq_false_iff] at keeps
    simp only [type?, Option.bind_eq_bind, Option.bind_eq_some_iff] at typed
    rcases typed with ⟨conditionType, isCondition, leftType, isLeft, rightType, isRight, chosen⟩
    rw [admitsNull_of_choice (eq_ok_of_toOption chosen), inCondition isCondition keeps.1,
      inConsequent isLeft keeps.2.1, inAlternative isRight keeps.2.2, givenTypes, List.any_append,
      List.any_append]

end Formula

/-- Nulls spread from the operands to the result: a sum, a unification and a choice allow nulls
exactly where an operand does. A cast loses them exactly from a source of nothing but nulls to a
target without them, so that an expression of any depth without such casts allows nulls exactly
where a type that is given in it does. -/
theorem nulls_spread (left right condition : ColumnType) (formula : Formula) :
    (∀ type, promote left right = .ok type →
      type.admitsNull = (left.admitsNull || right.admitsNull)) ∧
    (∀ type, unify left right = .ok type →
      type.admitsNull = (left.admitsNull || right.admitsNull)) ∧
    (∀ type, choice condition left right = .ok type →
      type.admitsNull = (condition.admitsNull || (left.admitsNull || right.admitsNull))) ∧
    (left.admitsNull = true ∨ right.admitsNull = true →
      ((cast left right).admitsNull = false ↔ left = .null ∧ right.admitsNull = false)) ∧
    ∀ type, formula.type? = some type → formula.losesNulls = false →
      type.admitsNull = formula.givenTypes.any ColumnType.admitsNull :=
  ⟨fun _ => promote_merging.admitsNull, fun _ => unify_merging.admitsNull,
    fun _ => admitsNull_of_choice, cast_loses_nulls_iff, fun _ => Formula.admitsNull_eq⟩

def priceFormula : Formula :=
  .converted (.chosen (.given (.nullable .boolean)) (.arithmetic (.given .int32) (.given .float32))
    (.given .int64)) .utf8

theorem priceFormula_spreads :
    promote .null .int64 = .ok (.nullable .int64) ∧ (ColumnType.nullable .int64).admitsNull = true ∧
    unify (.list .utf8) (.nullable (.list .utf8)) = .ok (.nullable (.list .utf8)) ∧
    (ColumnType.nullable (.list .utf8)).admitsNull = true ∧
    (∃ type, choice (.nullable .boolean) .int64 .int64 = .ok type ∧ type.admitsNull = true) ∧
    (cast (.nullable .int64) .utf8).admitsNull ≠ false ∧
    priceFormula.type? = some (.nullable .utf8) ∧
    priceFormula.givenTypes.any ColumnType.admitsNull = true := by
  refine ⟨rfl, ?_, rfl, ?_, ⟨_, rfl, ?_⟩, ?_, rfl, ?_⟩
  · exact (nulls_spread .null .int64 .boolean priceFormula).1 _ rfl
  · exact (nulls_spread (.list .utf8) (.nullable (.list .utf8)) .boolean priceFormula).2.1 _ rfl
  · exact (nulls_spread .int64 .int64 (.nullable .boolean) priceFormula).2.2.1 _ rfl
  · rcases nulls_spread (.nullable .int64) .utf8 .boolean priceFormula with ⟨_, _, _, casts, _⟩
    intro loses
    rcases (casts (.inl rfl)).mp loses with ⟨⟨⟩, _⟩
  · rcases nulls_spread .int64 .int64 .boolean priceFormula with ⟨_, _, _, _, formulas⟩
    exact (formulas _ rfl (by decide +kernel)).symm

/-- A cast from the type of nulls forgets them. -/
theorem cast_forgets_nulls :
    ColumnType.null.admitsNull = true ∧ cast .null .int64 = .int64 ∧
      ColumnType.int64.admitsNull = false := by
  decide

end Typing

end FrameCheck
