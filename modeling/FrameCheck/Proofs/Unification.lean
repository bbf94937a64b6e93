import FrameCheck.Proofs.Alike
import FrameCheck.Typing.Expression
import Mathlib.Data.Multiset.Fold

/-!
Types are brought together by arithmetic and by choices. A type is seen as its content: nothing but
nulls, or values of a base with or without nulls. Both operations merge contents and differ only in
the bases that they bring together, so that both depend neither on the order nor on the nesting of
their operands. Unification takes every type with itself to that type, and goes on from arithmetic
to all types with the same base. A choice whose condition may be null adds nulls to what it unifies;
nesting matters only where there is nothing but nulls to add them to.
-/

namespace FrameCheck.Typing

/-! ## Contents -/

/-- What a type holds: nothing but nulls, or values of a base, perhaps among nulls. Types that do
not go together clash. -/
inductive Content where
  | clash
  | nulls
  | values (base : ColumnType) (nullable : Bool)

namespace Content

def ofType (type : ColumnType) : Content :=
  if type = .null then .nulls else .values type.base.canonical type.isNullable

def ofResult : Except ε ColumnType → Content
  | .ok type => ofType type
  | .error _ => .clash

def ofBase : Option ColumnType → Bool → Content
  | some base, nullable => .values base nullable
  | none, _ => .clash

/-- The content of two types together. Nulls spread, and the bases of values have to go together. -/
def merge (bases : ColumnType → ColumnType → Option ColumnType) : Content → Content → Content
  | .nulls, .nulls => .nulls
  | .nulls, .values base _ => .values base true
  | .values base _, .nulls => .values base true
  | .values left leftNullable, .values right rightNullable =>
    ofBase (bases left right) (leftNullable || rightNullable)
  | .clash, _ => .clash
  | _, .clash => .clash

@[simp] theorem ofType_null : ofType .null = .nulls := rfl

theorem ofType_of_ne {type : ColumnType} (notNull : type ≠ .null) :
    ofType type = .values type.base.canonical type.isNullable :=
  if_neg notNull

@[simp] theorem ofType_nullable (inner : ColumnType) :
    ofType (.nullable inner) = .values inner.canonical true := rfl

theorem ofType_ne_clash (type : ColumnType) : ofType type ≠ .clash := by
  unfold ofType
  split <;> simp

theorem ofResult_eq_clash_iff {result : Except ε ColumnType} :
    ofResult result = .clash ↔ ∃ error, result = .error error := by
  cases result with
  | error error => exact ⟨fun _ => ⟨error, rfl⟩, fun _ => rfl⟩
  | ok type => simp [ofResult, ofType_ne_clash]

theorem nullableIf_isNullable_base (type : ColumnType) :
    type.base.nullableIf type.isNullable = type := by
  cases type <;> rfl

theorem canonical_nullableIf (condition : Bool) (type : ColumnType) :
    (type.nullableIf condition).canonical = type.canonical.nullableIf condition := by
  cases condition <;> rfl

theorem canonical_eq_null_iff {type : ColumnType} : type.canonical = .null ↔ type = .null := by
  cases type <;> simp [ColumnType.canonical]

theorem ofType_eq_iff {left right : ColumnType} :
    ofType left = ofType right ↔ left.same right = true := by
  rw [ColumnType.same_iff, ColumnType.Alike]
  by_cases leftNull : left = .null
  · subst leftNull
    by_cases rightNull : right = .null
    · simp [rightNull]
    · have differs : ColumnType.null.canonical ≠ right.canonical :=
        fun same => rightNull (canonical_eq_null_iff.mp same.symm)
      simp [ofType_of_ne rightNull, differs]
  · by_cases rightNull : right = .null
    · subst rightNull
      have differs : left.canonical ≠ ColumnType.null.canonical :=
        fun same => leftNull (canonical_eq_null_iff.mp same)
      simp [ofType_of_ne leftNull, differs]
    · rw [ofType_of_ne leftNull, ofType_of_ne rightNull]
      constructor
      · intro same
        injection same with bases nullables
        rw [← nullableIf_isNullable_base left, ← nullableIf_isNullable_base right,
          canonical_nullableIf, canonical_nullableIf, bases, nullables]
      · intro same
        rw [ColumnType.canonical_base, ColumnType.canonical_base, same,
          ← ColumnType.isNullable_canonical left, same, ColumnType.isNullable_canonical]

end Content

abbrev OutcomesAlike : Except ε ColumnType → Except ε ColumnType → Prop :=
  ResultsAlike (fun _ _ => True) fun left right => left.same right = true

theorem outcomesAlike_iff {left right : Except ε ColumnType} :
    OutcomesAlike left right ↔ Content.ofResult left = Content.ofResult right := by
  constructor
  · rintro (same | _)
    · exact Content.ofType_eq_iff.mpr same
    · rfl
  · intro same
    cases left with
    | error first =>
      cases right with
      | error second => exact .error trivial
      | ok type => exact absurd same.symm (Content.ofType_ne_clash type)
    | ok type =>
      cases right with
      | error second => exact absurd same (Content.ofType_ne_clash type)
      | ok other => exact .ok (Content.ofType_eq_iff.mp same)

/-! ## Bases -/

def arithmeticBase? (left right : ColumnType) : Option ColumnType :=
  if isArithmetic left && isArithmetic right then some (widen left right) else none

def commonBase? (left right : ColumnType) : Option ColumnType :=
  if left = right then some left else arithmeticBase? left right

structure Orderless (bases : ColumnType → ColumnType → Option ColumnType) : Prop where
  comm : ∀ left right, bases left right = bases right left
  assoc : ∀ first second third,
    (bases first second).bind (bases · third) = (bases second third).bind (bases first ·)

def arithmeticTypes : List ColumnType :=
  [.int32, .int64, .float32, .float64]

theorem isArithmetic_iff {type : ColumnType} :
    isArithmetic type = true ↔ type ∈ arithmeticTypes := by
  constructor
  · intro arithmetic
    unfold isArithmetic at arithmetic
    fun_cases numericRank? type with
    | case5 => simp_all [numericRank?]
    | _ => decide
  · intro member
    revert type
    decide

theorem widen_isArithmetic : ∀ left ∈ arithmeticTypes, ∀ right ∈ arithmeticTypes,
    widen left right ∈ arithmeticTypes := by
  decide

theorem widen_self : ∀ type ∈ arithmeticTypes, widen type type = type := by
  decide

theorem widen_comm : ∀ left ∈ arithmeticTypes, ∀ right ∈ arithmeticTypes,
    widen left right = widen right left := by
  decide

theorem widen_assoc : ∀ first ∈ arithmeticTypes, ∀ second ∈ arithmeticTypes,
    ∀ third ∈ arithmeticTypes,
      widen (widen first second) third = widen first (widen second third) := by
  decide

theorem arithmeticBase?_of_mem {left right : ColumnType} (isLeft : left ∈ arithmeticTypes)
    (isRight : right ∈ arithmeticTypes) : arithmeticBase? left right = some (widen left right) := by
  rw [arithmeticBase?, isArithmetic_iff.mpr isLeft, isArithmetic_iff.mpr isRight]
  rfl

theorem arithmeticBase?_of_not_mem {left right : ColumnType}
    (notBoth : left ∉ arithmeticTypes ∨ right ∉ arithmeticTypes) :
    arithmeticBase? left right = none := by
  simp only [← isArithmetic_iff, Bool.not_eq_true] at notBoth
  rcases notBoth with isNot | isNot <;> simp [arithmeticBase?, isNot]

theorem arithmeticBase?_orderless : Orderless arithmeticBase? where
  comm := by
    intro left right
    by_cases both : left ∈ arithmeticTypes ∧ right ∈ arithmeticTypes
    · rw [arithmeticBase?_of_mem both.1 both.2, arithmeticBase?_of_mem both.2 both.1,
        widen_comm left both.1 right both.2]
    · rw [arithmeticBase?_of_not_mem (by tauto), arithmeticBase?_of_not_mem (by tauto)]
  assoc := by
    intro first second third
    by_cases isSecond : second ∈ arithmeticTypes
    · by_cases isFirst : first ∈ arithmeticTypes
      · by_cases isThird : third ∈ arithmeticTypes
        · simp [arithmeticBase?_of_mem, isFirst, isSecond, isThird, widen_isArithmetic, widen_assoc]
        · simp [arithmeticBase?_of_not_mem, isThird]
      · simp [arithmeticBase?_of_not_mem, isFirst]
    · simp [arithmeticBase?_of_not_mem, isSecond]

theorem commonBase?_of_mem {left right : ColumnType} (isLeft : left ∈ arithmeticTypes)
    (isRight : right ∈ arithmeticTypes) : commonBase? left right = some (widen left right) := by
  unfold commonBase?
  split
  next same => rw [← same, widen_self left isLeft]
  next => exact arithmeticBase?_of_mem isLeft isRight

theorem commonBase?_of_not_mem {left right : ColumnType}
    (notBoth : left ∉ arithmeticTypes ∨ right ∉ arithmeticTypes) :
    commonBase? left right = if left = right then some left else none := by
  rw [commonBase?, arithmeticBase?_of_not_mem notBoth]

theorem commonBase?_bind_of_not_mem {first second third : ColumnType}
    (notAll : first ∉ arithmeticTypes ∨ second ∉ arithmeticTypes ∨ third ∉ arithmeticTypes) :
    (commonBase? first second).bind (commonBase? · third) =
      if first = second ∧ second = third then some first else none := by
  by_cases both : first ∈ arithmeticTypes ∧ second ∈ arithmeticTypes
  · have isNot : third ∉ arithmeticTypes := by tauto
    have differs : ∀ type ∈ arithmeticTypes, type ≠ third := by
      rintro type isType rfl
      exact isNot isType
    have widened := widen_isArithmetic first both.1 second both.2
    rw [commonBase?_of_mem both.1 both.2, Option.bind_some, commonBase?_of_not_mem (.inr isNot),
      if_neg (differs _ widened), if_neg fun same => differs second both.2 same.2]
  · rw [commonBase?_of_not_mem (by tauto)]
    by_cases same : first = second
    · subst same
      have isNot : first ∉ arithmeticTypes := by tauto
      simp [commonBase?_of_not_mem, isNot]
    · simp [same]

theorem commonBase?_self (base : ColumnType) : commonBase? base base = some base :=
  if_pos rfl

theorem commonBase?_comm (left right : ColumnType) :
    commonBase? left right = commonBase? right left := by
  unfold commonBase?
  rw [arithmeticBase?_orderless.comm left right]
  by_cases same : left = right
  · rw [same]
  · rw [if_neg same, if_neg (Ne.symm same)]

theorem commonBase?_orderless : Orderless commonBase? where
  comm := commonBase?_comm
  assoc := by
    intro first second third
    by_cases all : first ∈ arithmeticTypes ∧ second ∈ arithmeticTypes ∧ third ∈ arithmeticTypes
    · rcases all with ⟨isFirst, isSecond, isThird⟩
      simp [commonBase?_of_mem, isFirst, isSecond, isThird, widen_isArithmetic, widen_assoc]
    · have mirrored : (commonBase? second third).bind (commonBase? first ·) =
          (commonBase? third second).bind (commonBase? · first) := by
        rw [commonBase?_comm second third]
        congr 1
        funext base
        exact commonBase?_comm first base
      rw [mirrored, commonBase?_bind_of_not_mem (by tauto), commonBase?_bind_of_not_mem (by tauto)]
      by_cases same : first = second ∧ second = third
      · rw [if_pos same, if_pos ⟨same.2.symm, same.1.symm⟩, same.1, same.2]
      · rw [if_neg same, if_neg fun other => same ⟨other.2.symm, other.1.symm⟩]

/-! ## Merged contents -/

namespace Content

variable {bases : ColumnType → ColumnType → Option ColumnType}

@[simp] theorem merge_clash_left (content : Content) : merge bases .clash content = .clash := by
  cases content <;> rfl

@[simp] theorem merge_clash_right (content : Content) : merge bases content .clash = .clash := by
  cases content <;> rfl

@[simp] theorem merge_nulls_values (base : ColumnType) (nullable : Bool) :
    merge bases .nulls (.values base nullable) = .values base true := rfl

@[simp] theorem merge_values_nulls (base : ColumnType) (nullable : Bool) :
    merge bases (.values base nullable) .nulls = .values base true := rfl

@[simp] theorem merge_values_values (left right : ColumnType) (leftNullable rightNullable : Bool) :
    merge bases (.values left leftNullable) (.values right rightNullable) =
      ofBase (bases left right) (leftNullable || rightNullable) := rfl

theorem merge_ofBase_values (base? : Option ColumnType) (nullable : Bool) (right : ColumnType)
    (rightNullable : Bool) :
    merge bases (ofBase base? nullable) (.values right rightNullable) =
      ofBase (base?.bind (bases · right)) (nullable || rightNullable) := by
  cases base? <;> rfl

theorem merge_values_ofBase (left : ColumnType) (leftNullable : Bool) (base? : Option ColumnType)
    (nullable : Bool) :
    merge bases (.values left leftNullable) (ofBase base? nullable) =
      ofBase (base?.bind (bases left ·)) (leftNullable || nullable) := by
  cases base? <;> rfl

theorem merge_nulls_ofBase (base? : Option ColumnType) (nullable : Bool) :
    merge bases .nulls (ofBase base? nullable) = ofBase base? true := by
  cases base? <;> rfl

theorem merge_ofBase_nulls (base? : Option ColumnType) (nullable : Bool) :
    merge bases (ofBase base? nullable) .nulls = ofBase base? true := by
  cases base? <;> rfl

theorem merge_comm (orderless : Orderless bases) (left right : Content) :
    merge bases left right = merge bases right left := by
  cases left with
  | clash => simp
  | nulls => cases right <;> rfl
  | values base nullable =>
    cases right with
    | clash => simp
    | nulls => rfl
    | values other otherNullable => simp [orderless.comm, Bool.or_comm]

theorem merge_assoc (orderless : Orderless bases) (first second third : Content) :
    merge bases (merge bases first second) third =
      merge bases first (merge bases second third) := by
  cases first with
  | clash => simp
  | nulls =>
    cases second with
    | clash => simp
    | nulls => cases third <;> rfl
    | values base nullable =>
      cases third with
      | clash => simp
      | nulls => rfl
      | values other otherNullable => simp [merge_nulls_ofBase]
  | values base nullable =>
    cases second with
    | clash => simp
    | nulls => cases third <;> simp [merge]
    | values other otherNullable =>
      cases third with
      | clash => simp
      | nulls => simp [merge_ofBase_nulls]
      | values last lastNullable =>
        simp [merge_ofBase_values, merge_values_ofBase, orderless.assoc, Bool.or_assoc]

theorem merge_eq_nulls_iff {left right : Content} :
    merge bases left right = .nulls ↔ left = .nulls ∧ right = .nulls := by
  cases left with
  | clash => simp
  | nulls => cases right <;> simp [merge]
  | values base nullable =>
    cases right with
    | clash => simp
    | nulls => simp
    | values other otherNullable =>
      simp only [merge_values_values, reduceCtorEq, and_self, iff_false]
      cases bases base other <;> simp [ofBase]

end Content

/-! ## Arithmetic and unification -/

theorem numericRank?_canonical (type : ColumnType) :
    numericRank? type.canonical = numericRank? type := by
  cases type <;> rfl

theorem isFloat_canonical (type : ColumnType) : isFloat type.canonical = isFloat type := by
  cases type <;> rfl

theorem isArithmetic_canonical (type : ColumnType) :
    isArithmetic type.canonical = isArithmetic type := by
  rw [isArithmetic, isArithmetic, numericRank?_canonical]

theorem widen_canonical (left right : ColumnType) :
    (widen left right).canonical = widen left.canonical right.canonical := by
  unfold widen
  simp only [numericRank?_canonical, isFloat_canonical]
  split
  · rfl
  · split <;> rfl

theorem arithmeticBase?_canonical (left right : ColumnType) :
    arithmeticBase? left.canonical right.canonical =
      (arithmeticBase? left right).map ColumnType.canonical := by
  simp only [arithmeticBase?, isArithmetic_canonical]
  split
  · rw [Option.map_some, widen_canonical]
  · rfl

theorem promote_null_left {right : ColumnType} (notNull : right ≠ .null) :
    promote .null right = .ok (.nullable right.base) := by
  unfold promote
  split <;> first | contradiction | rfl

theorem promote_null_right {left : ColumnType} (notNull : left ≠ .null) :
    promote left .null = .ok (.nullable left.base) := by
  unfold promote
  split <;> first | contradiction | rfl

theorem promote_of_ne {left right : ColumnType} (leftNotNull : left ≠ .null)
    (rightNotNull : right ≠ .null) :
    promote left right =
      if isArithmetic left.base && isArithmetic right.base then
        .ok ((widen left.base right.base).nullableIf (left.isNullable || right.isNullable))
      else .error ⟨left, right⟩ := by
  unfold promote
  split <;> first | contradiction | rfl

theorem unify_of_ne {left right : ColumnType} (leftNotNull : left ≠ .null)
    (rightNotNull : right ≠ .null) :
    unify left right =
      if left.base.same right.base then
        .ok (left.base.nullableIf (left.isNullable || right.isNullable))
      else promote left right := by
  rw [promote_of_ne leftNotNull rightNotNull]
  unfold unify
  split <;> first | contradiction | rfl

theorem unify_eq_promote {left right : ColumnType} (someNull : left = .null ∨ right = .null) :
    unify left right = promote left right := by
  unfold unify promote
  split <;> first | rfl | simp_all

namespace Content

theorem ofType_nullableIf {base : ColumnType} {nullable : Bool}
    (plain : nullable = false → base ≠ .null ∧ base.isNullable = false) :
    ofType (base.nullableIf nullable) = .values base.canonical nullable := by
  cases nullable with
  | true => rfl
  | false =>
    rcases plain rfl with ⟨notNull, notNullable⟩
    have isBase : base.base = base := by
      cases base <;> first | rfl | cases notNullable
    show ofType base = _
    rw [ofType_of_ne notNull, notNullable, isBase]

theorem plain_of_arithmetic : ∀ base ∈ arithmeticTypes,
    base ≠ .null ∧ base.isNullable = false := by
  decide

theorem plain_base {type : ColumnType} (notNull : type ≠ .null)
    (notNullable : type.isNullable = false) :
    type.base ≠ .null ∧ type.base.isNullable = false := by
  cases type <;> first | exact ⟨notNull, notNullable⟩ | cases notNullable

theorem ofResult_promote (left right : ColumnType) :
    ofResult (promote left right) = merge arithmeticBase? (ofType left) (ofType right) := by
  by_cases leftNull : left = .null
  · subst leftNull
    by_cases rightNull : right = .null
    · subst rightNull
      rfl
    · rw [promote_null_left rightNull, ofType_of_ne rightNull]
      rfl
  · by_cases rightNull : right = .null
    · subst rightNull
      rw [promote_null_right leftNull, ofType_of_ne leftNull]
      rfl
    · rw [promote_of_ne leftNull rightNull, ofType_of_ne leftNull, ofType_of_ne rightNull,
        merge_values_values, arithmeticBase?_canonical, arithmeticBase?]
      split
      next both =>
        rw [Bool.and_eq_true, isArithmetic_iff, isArithmetic_iff] at both
        exact ofType_nullableIf fun _ =>
          plain_of_arithmetic _ (widen_isArithmetic _ both.1 _ both.2)
      next => rfl

theorem ofResult_unify (left right : ColumnType) :
    ofResult (unify left right) = merge commonBase? (ofType left) (ofType right) := by
  by_cases someNull : left = .null ∨ right = .null
  · rw [unify_eq_promote someNull, ofResult_promote]
    rcases someNull with rfl | rfl
    · cases ofType right <;> rfl
    · cases ofType left <;> rfl
  · rw [not_or] at someNull
    rcases someNull with ⟨leftNotNull, rightNotNull⟩
    have merged := ofResult_promote left right
    rw [ofType_of_ne leftNotNull, ofType_of_ne rightNotNull, merge_values_values] at merged ⊢
    rw [unify_of_ne leftNotNull rightNotNull, commonBase?]
    by_cases same : left.base.same right.base = true
    · have sameBase : left.base.canonical = right.base.canonical := ColumnType.same_iff.mp same
      rw [if_pos same, if_pos sameBase]
      refine ofType_nullableIf fun notNullable => plain_base leftNotNull ?_
      rw [Bool.or_eq_false_iff] at notNullable
      exact notNullable.1
    · have differs : ¬ left.base.canonical = right.base.canonical := fun sameBase =>
        same (ColumnType.same_iff.mpr sameBase)
      rw [if_neg same, if_neg differs, merged]

end Content

/-! ## Nestings -/

inductive Nesting where
  | single (type : ColumnType)
  | pair (left right : Nesting)

namespace Nesting

def types : Nesting → List ColumnType
  | single type => [type]
  | pair left right => left.types ++ right.types

def outcome (operation : ColumnType → ColumnType → Except ε ColumnType) :
    Nesting → Except ε ColumnType
  | single type => .ok type
  | pair left right => do operation (← left.outcome operation) (← right.outcome operation)

end Nesting

namespace Content

def gathered (bases : ColumnType → ColumnType → Option ColumnType) (types : List ColumnType) :
    Option Content :=
  (types.map fun type => some (ofType type)).foldr (Option.merge (merge bases)) none

section Gathered

variable {bases : ColumnType → ColumnType → Option ColumnType}

theorem gathered_append (orderless : Orderless bases) (left right : List ColumnType) :
    gathered bases (left ++ right) =
      Option.merge (merge bases) (gathered bases left) (gathered bases right) := by
  have associative : Std.Associative (merge bases) := ⟨merge_assoc orderless⟩
  have split := @List.foldr_assoc _ (Option.merge (merge bases)) _
    (left.map fun type => some (ofType type)) none (gathered bases right)
  rw [Option.merge_none_left] at split
  rw [gathered, List.map_append, List.foldr_append]
  exact split

theorem gathered_perm (orderless : Orderless bases) {left right : List ColumnType}
    (perm : left.Perm right) : gathered bases left = gathered bases right := by
  have associative : Std.Associative (merge bases) := ⟨merge_assoc orderless⟩
  have commutative : Std.Commutative (merge bases) := ⟨merge_comm orderless⟩
  exact (perm.map _).foldr_op_eq

end Gathered

theorem merge_self (content : Content) : merge commonBase? content content = content := by
  cases content with
  | clash => rfl
  | nulls => rfl
  | values base nullable => rw [merge_values_values, commonBase?_self, Bool.or_self, ofBase]

/-- Types that unify count once, however often they are there. -/
theorem gathered_of_mem_iff {left right : List ColumnType}
    (members : ∀ type, type ∈ left ↔ type ∈ right) :
    gathered commonBase? left = gathered commonBase? right := by
  classical
  have associative : Std.Associative (merge commonBase?) := ⟨merge_assoc commonBase?_orderless⟩
  have commutative : Std.Commutative (merge commonBase?) := ⟨merge_comm commonBase?_orderless⟩
  have idempotent : Std.IdempotentOp (merge commonBase?) := ⟨merge_self⟩
  have once (types : List ColumnType) : gathered commonBase? types =
      (Multiset.ofList (types.map fun type => some (ofType type))).dedup.fold
        (Option.merge (merge commonBase?)) none := by
    rw [Multiset.fold_dedup_idem, Multiset.coe_fold_r, gathered]
  rw [once, once, Multiset.dedup_ext.mpr]
  intro content
  simp only [Multiset.mem_coe, List.mem_map, members]

theorem gathered_of_clash {types : List ColumnType} {first second : ColumnType}
    (isFirst : first ∈ types) (isSecond : second ∈ types)
    (clashes : merge commonBase? (ofType first) (ofType second) = .clash) :
    gathered commonBase? types = some .clash := by
  have again : gathered commonBase? types = gathered commonBase? ([first, second] ++ types) := by
    refine gathered_of_mem_iff fun type => ⟨List.mem_append_right _, fun member => ?_⟩
    rcases List.mem_append.mp member with isOne | isThere
    · rcases List.mem_pair.mp isOne with rfl | rfl
      · exact isFirst
      · exact isSecond
    · exact isThere
  have pair : gathered commonBase? [first, second] = some .clash := congrArg some clashes
  rw [again, gathered_append commonBase?_orderless, pair]
  cases gathered commonBase? types with
  | none => rfl
  | some content => exact congrArg some (merge_clash_left content)

end Content

structure Merging (bases : ColumnType → ColumnType → Option ColumnType)
    (operation : ColumnType → ColumnType → Except ε ColumnType) : Prop where
  orderless : Orderless bases
  merges : ∀ left right, Content.ofResult (operation left right) =
    Content.merge bases (Content.ofType left) (Content.ofType right)

theorem promote_merging : Merging arithmeticBase? promote :=
  ⟨arithmeticBase?_orderless, Content.ofResult_promote⟩

theorem unify_merging : Merging commonBase? unify :=
  ⟨commonBase?_orderless, Content.ofResult_unify⟩

structure JoinsTypes (operation : ColumnType → ColumnType → Except ε ColumnType) : Prop where
  commutes : ∀ left right, OutcomesAlike (operation left right) (operation right left)
  associates : ∀ first second third,
    OutcomesAlike (do operation (← operation first second) third)
      (do operation first (← operation second third))
  nests : ∀ left right : Nesting, left.types.Perm right.types →
    OutcomesAlike (left.outcome operation) (right.outcome operation)

namespace Merging

variable {bases : ColumnType → ColumnType → Option ColumnType}
  {operation : ColumnType → ColumnType → Except ε ColumnType}

theorem ofResult_bind (merging : Merging bases operation) (left right : Except ε ColumnType) :
    Content.ofResult (do operation (← left) (← right)) =
      Content.merge bases (Content.ofResult left) (Content.ofResult right) := by
  cases left with
  | error _ => exact (Content.merge_clash_left _).symm
  | ok leftType =>
    cases right with
    | error _ => exact (Content.merge_clash_right _).symm
    | ok rightType => exact merging.merges leftType rightType

theorem ofResult_outcome (merging : Merging bases operation) (nesting : Nesting) :
    some (Content.ofResult (nesting.outcome operation)) =
      Content.gathered bases nesting.types := by
  induction nesting with
  | single type => rfl
  | pair left right inLeft inRight =>
    rw [Nesting.types, Content.gathered_append merging.orderless, ← inLeft, ← inRight]
    exact congrArg some (merging.ofResult_bind _ _)

theorem joinsTypes (merging : Merging bases operation) : JoinsTypes operation where
  commutes := by
    intro left right
    rw [outcomesAlike_iff, merging.merges, merging.merges,
      Content.merge_comm merging.orderless]
  associates := by
    intro first second third
    have leftFirst := merging.ofResult_bind (operation first second) (.ok third)
    have rightFirst := merging.ofResult_bind (.ok first) (operation second third)
    rw [merging.merges] at leftFirst rightFirst
    rw [outcomesAlike_iff]
    exact leftFirst.trans ((Content.merge_assoc merging.orderless _ _ _).trans rightFirst.symm)
  nests := by
    intro left right perm
    rw [outcomesAlike_iff, ← Option.some_inj, merging.ofResult_outcome, merging.ofResult_outcome,
      Content.gathered_perm merging.orderless perm]

end Merging

/-! ## Choices -/

inductive Choices where
  | branch (type : ColumnType)
  | choose (condition : ColumnType) (consequent alternative : Choices)

namespace Choices

def branches : Choices → List ColumnType
  | branch type => [type]
  | choose _ consequent alternative => consequent.branches ++ alternative.branches

def conditions : Choices → List ColumnType
  | branch _ => []
  | choose condition consequent alternative =>
    condition :: (consequent.conditions ++ alternative.conditions)

def outcome : Choices → Except ChoiceError ColumnType
  | branch type => .ok type
  | choose condition consequent alternative => do
    choice condition (← consequent.outcome) (← alternative.outcome)

end Choices

namespace Content

def withNulls : Content → Content
  | .clash => .clash
  | .nulls => .values .null true
  | .values base _ => .values base true

def chosen (condition : ColumnType) (content : Content) : Content :=
  if condition.base = .boolean then
    if condition.isNullable then content.withNulls else content
  else .clash

theorem chosen_clash (condition : ColumnType) : chosen condition .clash = .clash := by
  unfold chosen
  split
  · split <;> rfl
  · rfl

theorem withNulls_ne_nulls (content : Content) : content.withNulls ≠ .nulls := by
  cases content <;> simp [withNulls]

@[simp] theorem withNulls_withNulls (content : Content) :
    content.withNulls.withNulls = content.withNulls := by
  cases content <;> rfl

theorem withNulls_merge_nulls {left right : Content} (isLeft : left.withNulls = .values .null true)
    (isRight : right.withNulls = .values .null true) :
    (merge commonBase? left right).withNulls = .values .null true := by
  cases left with
  | clash => cases isLeft
  | nulls => cases right <;> simp_all [withNulls, merge]
  | values base nullable =>
    cases right with
    | clash => cases isRight
    | nulls => exact isLeft
    | values other otherNullable =>
      simp only [withNulls, values.injEq, and_true] at isLeft isRight
      rw [isLeft, isRight, merge_values_values, commonBase?_self, ofBase, withNulls]

theorem withNulls_eq_merge {content : Content} (notNulls : content ≠ .nulls) :
    content.withNulls = merge commonBase? .nulls content := by
  cases content <;> first | rfl | contradiction

theorem withNulls_merge_left {left : Content} (isNullable : left.withNulls = left)
    (right : Content) :
    (merge commonBase? left right).withNulls = merge commonBase? left right := by
  cases left with
  | clash => simp [withNulls]
  | nulls => cases isNullable
  | values base nullable =>
    cases right with
    | clash => rfl
    | nulls => rfl
    | values other otherNullable =>
      injection isNullable with _ isTrue
      rw [← isTrue, merge_values_values, Bool.true_or]
      cases commonBase? base other <;> rfl

theorem merge_nullable_null {content : Content} (isNull : content.withNulls = .values .null true) :
    merge commonBase? (.values .null true) content = .values .null true := by
  cases content with
  | clash => cases isNull
  | nulls => rfl
  | values base nullable =>
    injection isNull with isBase
    rw [isBase, merge_values_values, commonBase?_self, Bool.true_or, ofBase]

theorem merge_nullable_null_value {type : ColumnType} (notNull : type.base ≠ .null) :
    merge commonBase? (ofType (.nullable .null)) (ofType type) = .clash := by
  have typeNotNull : type ≠ .null := by
    rintro rfl
    exact notNull rfl
  have differs : ColumnType.null.canonical ≠ type.base.canonical :=
    fun same => notNull (canonical_eq_null_iff.mp same.symm)
  rw [ofType_nullable, ofType_of_ne typeNotNull, merge_values_values,
    commonBase?_of_not_mem (.inl (by decide)), if_neg differs, ofBase]

theorem chosen_ne_nulls {content : Content} (notNulls : content ≠ .nulls) (condition : ColumnType) :
    chosen condition content ≠ .nulls := by
  unfold chosen
  split
  · split
    · exact content.withNulls_ne_nulls
    · exact notNulls
  · simp

theorem withNulls_chosen {content : Content} (isNullable : content.withNulls = content)
    (condition : ColumnType) :
    (chosen condition content).withNulls = chosen condition content := by
  unfold chosen
  split
  · split
    · exact content.withNulls_withNulls
    · exact isNullable
  · rfl

theorem ofType_nullable_base (type : ColumnType) :
    ofType (.nullable type.base) = (ofType type).withNulls := by
  by_cases isNull : type = .null
  · subst isNull
    rfl
  · rw [ofType_of_ne isNull]
    rfl

theorem ofResult_choice (condition consequent alternative : ColumnType) :
    ofResult (choice condition consequent alternative) =
      chosen condition (merge commonBase? (ofType consequent) (ofType alternative)) := by
  rw [← ofResult_unify]
  unfold choice chosen
  split
  next isBoolean =>
    rw [if_pos isBoolean]
    cases unify consequent alternative with
    | error _ => exact (ite_self _).symm
    | ok type =>
      dsimp only [ofResult]
      split
      · exact ofType_nullable_base type
      · rfl
  next notBoolean => rw [if_neg notBoolean]; rfl

theorem ofResult_bind_choice (condition : ColumnType)
    (consequent alternative : Except ChoiceError ColumnType) :
    ofResult (do choice condition (← consequent) (← alternative)) =
      chosen condition (merge commonBase? (ofResult consequent) (ofResult alternative)) := by
  cases consequent with
  | error _ =>
    rw [ofResult, merge_clash_left, chosen_clash]
    rfl
  | ok left =>
    cases alternative with
    | error _ =>
      rw [ofResult, ofResult, merge_clash_right, chosen_clash]
      rfl
    | ok right => exact ofResult_choice condition left right

end Content

namespace Choices

open Content

theorem ofResult_outcome_of_not_boolean {choices : Choices} {condition : ColumnType}
    (isCondition : condition ∈ choices.conditions) (notBoolean : condition.base ≠ .boolean) :
    ofResult choices.outcome = .clash := by
  induction choices with
  | branch type => cases isCondition
  | choose other consequent alternative inConsequent inAlternative =>
    rw [outcome, ofResult_bind_choice]
    rcases List.mem_cons.mp isCondition with rfl | inside
    · rw [chosen, if_neg notBoolean]
    · rcases List.mem_append.mp inside with isThere | isThere
      · rw [inConsequent isThere, merge_clash_left, chosen_clash]
      · rw [inAlternative isThere, merge_clash_right, chosen_clash]

/-- No condition adds nulls to nothing but nulls. -/
def AddsToValues : Choices → Prop
  | branch _ => True
  | choose condition consequent alternative =>
    (condition.isNullable = true →
      ∃ type ∈ consequent.branches ++ alternative.branches, type ≠ .null) ∧
    consequent.AddsToValues ∧ alternative.AddsToValues

theorem branches_ne_nil (choices : Choices) : choices.branches ≠ [] := by
  induction choices with
  | branch type => exact List.cons_ne_nil _ _
  | choose condition consequent alternative inConsequent _ =>
    exact List.append_ne_nil_of_left_ne_nil inConsequent _

theorem addsToValues_of_conditions {choices : Choices}
    (never : ∀ condition ∈ choices.conditions, condition.isNullable = false) :
    choices.AddsToValues := by
  induction choices with
  | branch type => trivial
  | choose condition consequent alternative inConsequent inAlternative =>
    rcases List.forall_mem_cons.mp never with ⟨notNullable, inside⟩
    rcases List.forall_mem_append.mp inside with ⟨neverConsequent, neverAlternative⟩
    refine ⟨fun nullable => ?_, inConsequent neverConsequent, inAlternative neverAlternative⟩
    rw [notNullable] at nullable
    cases nullable

theorem addsToValues_of_branches {choices : Choices} (few : choices.branches.count .null ≤ 1) :
    choices.AddsToValues := by
  induction choices with
  | branch type => trivial
  | choose condition consequent alternative inConsequent inAlternative =>
    rw [branches, List.count_append] at few
    refine ⟨fun _ => ?_, inConsequent (by omega), inAlternative (by omega)⟩
    by_contra nothing
    have nulls : ∀ type ∈ consequent.branches ++ alternative.branches, type = .null := by
      simpa only [not_exists, not_and, not_not] using nothing
    have allCounted := List.count_eq_length.mpr fun type member => (nulls type member).symm
    rw [List.count_append, List.length_append] at allCounted
    have leftLength := List.length_pos_of_ne_nil consequent.branches_ne_nil
    have rightLength := List.length_pos_of_ne_nil alternative.branches_ne_nil
    omega

/-- What a condition that may be null adds to a choice between the types. -/
def nullsAmong (types : List ColumnType) : ColumnType :=
  if types.all fun type => type = .null then .nullable .null else .null

theorem nullsAmong_of_nulls {types : List ColumnType} (nulls : ∀ type ∈ types, type = .null) :
    nullsAmong types = .nullable .null := by
  refine if_pos (List.all_eq_true.mpr fun type member => ?_)
  exact decide_eq_true (nulls type member)

theorem nullsAmong_of_value {types : List ColumnType} (value : ∃ type ∈ types, type ≠ .null) :
    nullsAmong types = .null := by
  rcases value with ⟨type, member, notNull⟩
  refine if_neg fun nulls => notNull ?_
  exact of_decide_eq_true (List.all_eq_true.mp nulls type member)

/-- The types that the conditions add to the branches. -/
def added : Choices → List ColumnType
  | branch _ => []
  | choose condition consequent alternative =>
    (if condition.isNullable then [nullsAmong (consequent.branches ++ alternative.branches)]
      else []) ++ (consequent.added ++ alternative.added)

theorem added_of_addsToValues {choices : Choices} (adds : choices.AddsToValues) :
    choices.added = List.replicate (choices.conditions.countP ColumnType.isNullable) .null := by
  induction choices with
  | branch type => rfl
  | choose condition consequent alternative inConsequent inAlternative =>
    rcases adds with ⟨toValue, addsConsequent, addsAlternative⟩
    rw [added, conditions, List.countP_cons, List.countP_append, inConsequent addsConsequent,
      inAlternative addsAlternative, List.replicate_append_replicate]
    cases nullable : condition.isNullable with
    | true =>
      rw [if_pos rfl, if_pos rfl, nullsAmong_of_value (toValue nullable)]
      rfl
    | false => rfl

theorem mem_of_not_addsToValues {choices : Choices} (stuck : ¬ choices.AddsToValues) :
    .nullable .null ∈ choices.added ∧ .null ∈ choices.branches := by
  induction choices with
  | branch type => exact absurd trivial stuck
  | choose condition consequent alternative inConsequent inAlternative =>
    rw [added, branches]
    by_cases addsConsequent : consequent.AddsToValues
    · by_cases addsAlternative : alternative.AddsToValues
      · have here : condition.isNullable = true ∧
            ¬ ∃ type ∈ consequent.branches ++ alternative.branches, type ≠ .null :=
          Classical.not_imp.mp fun toValue => stuck ⟨toValue, addsConsequent, addsAlternative⟩
        have nulls : ∀ type ∈ consequent.branches ++ alternative.branches, type = .null := by
          simpa only [not_exists, not_and, not_not] using here.2
        rw [if_pos here.1, nullsAmong_of_nulls nulls]
        rcases List.exists_mem_of_ne_nil _ consequent.branches_ne_nil with ⟨type, member⟩
        have isNull := nulls type (List.mem_append_left _ member)
        subst isNull
        exact ⟨List.mem_cons_self, List.mem_append_left _ member⟩
      · rcases inAlternative addsAlternative with ⟨isAdded, isBranch⟩
        exact ⟨List.mem_append_right _ (List.mem_append_right _ isAdded),
          List.mem_append_right _ isBranch⟩
    · rcases inConsequent addsConsequent with ⟨isAdded, isBranch⟩
      exact ⟨List.mem_append_right _ (List.mem_append_left _ isAdded),
        List.mem_append_left _ isBranch⟩

theorem null_or_nullable_of_mem_added {choices : Choices} {type : ColumnType}
    (member : type ∈ choices.added) : type = .null ∨ type = .nullable .null := by
  induction choices with
  | branch _ => cases member
  | choose condition consequent alternative inConsequent inAlternative =>
    rcases List.mem_append.mp member with isHere | inside
    · split at isHere
      · rw [List.mem_singleton.mp isHere, nullsAmong]
        split
        · exact .inr rfl
        · exact .inl rfl
      · cases isHere
    · exact (List.mem_append.mp inside).elim inConsequent inAlternative

theorem mem_added_append_iff {choices : Choices} (stuck : ¬ choices.AddsToValues)
    (type : ColumnType) :
    type ∈ choices.added ++ choices.branches ↔
      type = .nullable .null ∨ type ∈ choices.branches := by
  rcases mem_of_not_addsToValues stuck with ⟨isAdded, isBranch⟩
  rw [List.mem_append]
  constructor
  · rintro (member | member)
    · rcases null_or_nullable_of_mem_added member with rfl | rfl
      · exact .inr isBranch
      · exact .inl rfl
    · exact .inr member
  · exact Or.imp_left fun isNullable => isNullable ▸ isAdded

/-! The outcome of choices between booleans gathers the branches and what the conditions add. -/

theorem ofResult_outcome_ne_nulls {choices : Choices}
    (value : ∃ type ∈ choices.branches, type ≠ .null) : ofResult choices.outcome ≠ .nulls := by
  induction choices with
  | branch type =>
    rcases value with ⟨other, member, notNull⟩
    rw [List.mem_singleton.mp member] at notNull
    rw [outcome, ofResult, ofType_of_ne notNull]
    simp
  | choose condition consequent alternative inConsequent inAlternative =>
    rw [outcome, ofResult_bind_choice]
    refine chosen_ne_nulls (fun isNulls => ?_) condition
    rcases value with ⟨type, member, notNull⟩
    rcases List.mem_append.mp member with isThere | isThere
    · exact inConsequent ⟨type, isThere, notNull⟩ (merge_eq_nulls_iff.mp isNulls).1
    · exact inAlternative ⟨type, isThere, notNull⟩ (merge_eq_nulls_iff.mp isNulls).2

section Proper

variable {choices : Choices}
  (proper : ∀ condition ∈ choices.conditions, condition.base = .boolean)

include proper

theorem withNulls_outcome_of_nulls (nulls : ∀ type ∈ choices.branches, type.base = .null) :
    (ofResult choices.outcome).withNulls = .values .null true := by
  induction choices with
  | branch type =>
    rw [outcome, ofResult, ← ofType_nullable_base, nulls type List.mem_cons_self]
    rfl
  | choose condition consequent alternative inConsequent inAlternative =>
    rcases List.forall_mem_cons.mp proper with ⟨isBoolean, inside⟩
    rcases List.forall_mem_append.mp inside with ⟨properConsequent, properAlternative⟩
    rcases List.forall_mem_append.mp nulls with ⟨nullsConsequent, nullsAlternative⟩
    have merged := withNulls_merge_nulls (inConsequent properConsequent nullsConsequent)
      (inAlternative properAlternative nullsAlternative)
    rw [outcome, ofResult_bind_choice, chosen, if_pos isBoolean]
    split
    · rw [withNulls_withNulls, merged]
    · exact merged

theorem withNulls_outcome :
    (ofResult choices.outcome).withNulls =
      merge commonBase? (ofType (nullsAmong choices.branches)) (ofResult choices.outcome) := by
  by_cases value : ∃ type ∈ choices.branches, type ≠ .null
  · rw [nullsAmong_of_value value]
    exact withNulls_eq_merge (ofResult_outcome_ne_nulls value)
  · have nulls : ∀ type ∈ choices.branches, type = .null := by
      simpa only [not_exists, not_and, not_not] using value
    have basesNull : ∀ type ∈ choices.branches, type.base = .null := by
      intro type member
      rw [nulls type member]
      rfl
    have isNull := withNulls_outcome_of_nulls proper basesNull
    rw [nullsAmong_of_nulls nulls, isNull]
    exact (merge_nullable_null isNull).symm

end Proper

theorem ofResult_outcome {choices : Choices}
    (proper : ∀ condition ∈ choices.conditions, condition.base = .boolean) :
    some (ofResult choices.outcome) =
      gathered commonBase? (choices.added ++ choices.branches) := by
  induction choices with
  | branch type => rfl
  | choose condition consequent alternative inConsequent inAlternative =>
    rcases List.forall_mem_cons.mp proper with ⟨isBoolean, inside⟩
    rcases List.forall_mem_append.mp inside with ⟨properConsequent, properAlternative⟩
    have together : some (ofResult (choose .boolean consequent alternative).outcome) =
        gathered commonBase? ((consequent.added ++ alternative.added) ++
          (consequent.branches ++ alternative.branches)) := by
      have regrouped := @gathered_of_mem_iff
        ((consequent.added ++ consequent.branches) ++ (alternative.added ++ alternative.branches))
        ((consequent.added ++ alternative.added) ++ (consequent.branches ++ alternative.branches))
        fun type => by simp only [List.mem_append]; tauto
      rw [← regrouped, gathered_append commonBase?_orderless, ← inConsequent properConsequent,
        ← inAlternative properAlternative, outcome, ofResult_bind_choice]
      rfl
    have chosenOf : ofResult (choose condition consequent alternative).outcome =
        if condition.isNullable then
          (ofResult (choose .boolean consequent alternative).outcome).withNulls
        else ofResult (choose .boolean consequent alternative).outcome := by
      rw [outcome, outcome, ofResult_bind_choice, ofResult_bind_choice, chosen, if_pos isBoolean]
      rfl
    have properBoth : ∀ other ∈ (choose .boolean consequent alternative).conditions,
        other.base = .boolean :=
      List.forall_mem_cons.mpr ⟨rfl, inside⟩
    rw [chosenOf, added, branches]
    cases condition.isNullable with
    | false => exact together
    | true =>
      rw [if_pos rfl, if_pos rfl, withNulls_outcome properBoth, List.append_assoc,
        gathered_append commonBase?_orderless, ← together]
      rfl

theorem withNulls_outcome_of_nullable {choices : Choices}
    (nullable : ∃ condition ∈ choices.conditions, condition.isNullable = true) :
    (ofResult choices.outcome).withNulls = ofResult choices.outcome := by
  induction choices with
  | branch type => simp [conditions] at nullable
  | choose condition consequent alternative inConsequent inAlternative =>
    rcases nullable with ⟨other, member, isNullable⟩
    rw [outcome, ofResult_bind_choice]
    rcases List.mem_cons.mp member with rfl | inside
    · rw [chosen, if_pos isNullable]
      split
      · exact withNulls_withNulls _
      · rfl
    · refine withNulls_chosen ?_ condition
      rcases List.mem_append.mp inside with isThere | isThere
      · exact withNulls_merge_left (inConsequent ⟨other, isThere, isNullable⟩) _
      · rw [merge_comm commonBase?_orderless]
        exact withNulls_merge_left (inAlternative ⟨other, isThere, isNullable⟩) _

section Permuted

variable {left right : Choices} (branches : left.branches.Perm right.branches)

include branches

section Proper

variable (proper : ∀ condition ∈ left.conditions, condition.base = .boolean)
  (rightProper : ∀ condition ∈ right.conditions, condition.base = .boolean)

include proper rightProper

theorem ofResult_eq_of_not_addsToValues (leftStuck : ¬ left.AddsToValues)
    (rightStuck : ¬ right.AddsToValues) :
    ofResult left.outcome = ofResult right.outcome := by
  rw [← Option.some_inj, ofResult_outcome proper, ofResult_outcome rightProper]
  refine gathered_of_mem_iff fun type => ?_
  rw [mem_added_append_iff leftStuck, mem_added_append_iff rightStuck, branches.mem_iff]

variable (conditions : left.conditions.Perm right.conditions)

include conditions

theorem ofResult_eq_of_addsToValues (leftAdds : left.AddsToValues)
    (rightAdds : right.AddsToValues) :
    ofResult left.outcome = ofResult right.outcome := by
  rw [← Option.some_inj, ofResult_outcome proper, ofResult_outcome rightProper,
    added_of_addsToValues leftAdds, added_of_addsToValues rightAdds, conditions.countP_eq]
  exact gathered_perm commonBase?_orderless (branches.append_left _)

theorem ofResult_eq_of_nulls (nulls : ∀ type ∈ left.branches, type.base = .null) :
    ofResult left.outcome = ofResult right.outcome := by
  have rightNulls : ∀ type ∈ right.branches, type.base = .null :=
    fun type member => nulls type (branches.mem_iff.mpr member)
  by_cases nullable : ∃ condition ∈ left.conditions, condition.isNullable = true
  · have rightNullable : ∃ condition ∈ right.conditions, condition.isNullable = true := by
      simpa only [conditions.mem_iff] using nullable
    rw [← withNulls_outcome_of_nullable nullable, ← withNulls_outcome_of_nullable rightNullable,
      withNulls_outcome_of_nulls proper nulls, withNulls_outcome_of_nulls rightProper rightNulls]
  · have never : ∀ condition ∈ left.conditions, condition.isNullable = false := by
      simpa using nullable
    have rightNever : ∀ condition ∈ right.conditions, condition.isNullable = false :=
      fun condition member => never condition (conditions.mem_iff.mpr member)
    exact ofResult_eq_of_addsToValues branches proper rightProper conditions
      (addsToValues_of_conditions never) (addsToValues_of_conditions rightNever)

end Proper

theorem outcomes_alike (conditions : left.conditions.Perm right.conditions)
    (alike : (left.AddsToValues ↔ right.AddsToValues) ∨
      ∀ type ∈ left.branches, type.base = .null) :
    OutcomesAlike left.outcome right.outcome := by
  rw [outcomesAlike_iff]
  by_cases proper : ∀ condition ∈ left.conditions, condition.base = .boolean
  · have rightProper : ∀ condition ∈ right.conditions, condition.base = .boolean :=
      fun condition member => proper condition (conditions.mem_iff.mpr member)
    rcases alike with same | nulls
    · by_cases leftAdds : left.AddsToValues
      · exact ofResult_eq_of_addsToValues branches proper rightProper conditions leftAdds
          (same.mp leftAdds)
      · exact ofResult_eq_of_not_addsToValues branches proper rightProper leftAdds
          (mt same.mpr leftAdds)
    · exact ofResult_eq_of_nulls branches proper rightProper conditions nulls
  · simp only [not_forall] at proper
    rcases proper with ⟨condition, isCondition, notBoolean⟩
    rw [ofResult_outcome_of_not_boolean isCondition notBoolean,
      ofResult_outcome_of_not_boolean (conditions.mem_iff.mp isCondition) notBoolean]

end Permuted

theorem outcome_fails {choices : Choices} (stuck : ¬ choices.AddsToValues)
    (value : ∃ type ∈ choices.branches, type.base ≠ .null) :
    ∃ error, choices.outcome = .error error := by
  rw [← ofResult_eq_clash_iff]
  by_cases proper : ∀ condition ∈ choices.conditions, condition.base = .boolean
  · rcases value with ⟨type, isBranch, notNull⟩
    have isThere := (mem_added_append_iff stuck type).mpr (.inr isBranch)
    have stuckThere := (mem_added_append_iff stuck _).mpr (.inl rfl)
    rw [← Option.some_inj, ofResult_outcome proper]
    exact gathered_of_clash stuckThere isThere (merge_nullable_null_value notNull)
  · simp only [not_forall] at proper
    rcases proper with ⟨condition, isCondition, notBoolean⟩
    exact ofResult_outcome_of_not_boolean isCondition notBoolean

end Choices

/-! ## Unification and arithmetic -/

theorem unify_self (type : ColumnType) : unify type type = .ok type := by
  by_cases isNull : type = .null
  · subst isNull
    rfl
  · rw [unify_of_ne isNull isNull, if_pos (ColumnType.same_iff.mpr (.refl _)), Bool.or_self,
      Content.nullableIf_isNullable_base]

theorem canonical_of_arithmetic : ∀ type ∈ arithmeticTypes, type.canonical = type := by
  decide

theorem unify_of_promote {left right type : ColumnType} (promoted : promote left right = .ok type) :
    unify left right = .ok type := by
  by_cases someNull : left = .null ∨ right = .null
  · rw [unify_eq_promote someNull, promoted]
  · rw [not_or] at someNull
    rw [unify_of_ne someNull.1 someNull.2]
    split
    next same =>
      rw [promote_of_ne someNull.1 someNull.2] at promoted
      split at promoted
      next both =>
        rw [Bool.and_eq_true, isArithmetic_iff, isArithmetic_iff] at both
        have sameBase : left.base.canonical = right.base.canonical := ColumnType.same_iff.mp same
        rw [canonical_of_arithmetic _ both.1, canonical_of_arithmetic _ both.2] at sameBase
        rw [← sameBase, widen_self _ both.1] at promoted
        exact promoted
      next => cases promoted
    next => exact promoted

theorem unify_ok_iff_of_not_promote {left right : ColumnType} {error : Incompatible}
    (failed : promote left right = .error error) :
    (∃ type, unify left right = .ok type) ↔ left.base.same right.base = true := by
  have leftNotNull : left ≠ .null := by
    rintro rfl
    by_cases rightNull : right = .null
    · subst rightNull
      cases failed
    · rw [promote_null_left rightNull] at failed
      cases failed
  have rightNotNull : right ≠ .null := by
    rintro rfl
    rw [promote_null_right leftNotNull] at failed
    cases failed
  rw [unify_of_ne leftNotNull rightNotNull, failed]
  cases left.base.same right.base <;> simp

/-- Unification is a partial join of types that goes on from arithmetic: both operations depend
neither on order nor on nesting, a type with itself is that type, and where arithmetic has a
result, unification has the same. Where arithmetic has none, types unify if they are the same but
for one `nullable` on each. So sums and choices between branches come to the same in any order and
nesting, but for a condition that adds nulls to nothing but nulls. It gives them a base, which goes
together with no other, so that such choices fail if any branch has values. -/
theorem unify_joins_types (left right : ColumnType) (choices others : Choices) :
    JoinsTypes promote ∧ JoinsTypes unify ∧
    unify left left = .ok left ∧
    (∀ type, promote left right = .ok type → unify left right = .ok type) ∧
    (∀ error, promote left right = .error error →
      ((∃ type, unify left right = .ok type) ↔ left.base.same right.base = true)) ∧
    (choices.branches.Perm others.branches → choices.conditions.Perm others.conditions →
      (choices.AddsToValues ↔ others.AddsToValues) ∨
        (∀ type ∈ choices.branches, type.base = .null) →
      OutcomesAlike choices.outcome others.outcome) ∧
    (¬ choices.AddsToValues → (∃ type ∈ choices.branches, type.base ≠ .null) →
      ∃ error, choices.outcome = .error error) ∧
    ((∀ condition ∈ choices.conditions, condition.isNullable = false) ∨
      choices.branches.count .null ≤ 1 → choices.AddsToValues) :=
  ⟨promote_merging.joinsTypes, unify_merging.joinsTypes, unify_self left,
    fun _ => unify_of_promote, fun _ => unify_ok_iff_of_not_promote, Choices.outcomes_alike,
    Choices.outcome_fails,
    fun few => few.elim Choices.addsToValues_of_conditions Choices.addsToValues_of_branches⟩

def placeType : ColumnType :=
  .struct (.ofList [("position", .list .float64), ("height", .nullable .int32)])

def turnedPlaceType : ColumnType :=
  .struct (.ofList [("height", .nullable .int32), ("position", .list .float64)])

def placeNesting : Nesting :=
  .pair (.pair (.single placeType) (.single .null)) (.single (.nullable turnedPlaceType))

def turnedNesting : Nesting :=
  .pair (.single (.nullable turnedPlaceType)) (.pair (.single .null) (.single placeType))

def numberChoices : Choices :=
  .choose (.nullable .boolean) (.branch .int32)
    (.choose .boolean (.branch .float32) (.choose .boolean (.branch .null) (.branch .int64)))

def turnedChoices : Choices :=
  .choose .boolean
    (.choose .boolean (.choose (.nullable .boolean) (.branch .int64) (.branch .null))
      (.branch .int32))
    (.branch .float32)

def nullsApart : Choices :=
  .choose (.nullable .boolean) (.branch .null) (.choose .boolean (.branch .null) (.branch .utf8))

def nullsTogether : Choices :=
  .choose .boolean (.choose (.nullable .boolean) (.branch .null) (.branch .null)) (.branch .utf8)

theorem placeNestings_alike :
    placeNesting.outcome unify = .ok (.nullable placeType) ∧
    OutcomesAlike (placeNesting.outcome unify) (turnedNesting.outcome unify) ∧
    unify .int32 (.nullable .float32) = .ok (.nullable .float64) ∧
    ((∃ type, unify placeType (.nullable turnedPlaceType) = .ok type) ↔
      placeType.same turnedPlaceType = true) ∧
    placeType.same turnedPlaceType = true ∧
    numberChoices.outcome = .ok (.nullable .float64) ∧
    OutcomesAlike numberChoices.outcome turnedChoices.outcome ∧
    ¬ nullsTogether.AddsToValues ∧ ∃ error, nullsTogether.outcome = .error error := by
  rcases unify_joins_types .int32 (.nullable .float32) numberChoices turnedChoices with
    ⟨_, unifies, _, goesOn, _, choices, _, adds⟩
  rcases unify_joins_types placeType (.nullable turnedPlaceType) turnedChoices numberChoices with
    ⟨_, _, _, _, beyond, _, _, turnedAdds⟩
  rcases unify_joins_types .null .null nullsTogether nullsApart with ⟨_, _, _, _, _, _, fails, _⟩
  have same : numberChoices.AddsToValues ↔ turnedChoices.AddsToValues :=
    iff_of_true (adds (.inr (by decide +kernel))) (turnedAdds (.inr (by decide +kernel)))
  have stuck : ¬ nullsTogether.AddsToValues := by
    rintro ⟨_, ⟨toValue, _⟩, _⟩
    rcases toValue rfl with ⟨type, member, notNull⟩
    revert type
    decide +kernel
  refine ⟨rfl, unifies.nests _ _ (by decide +kernel), goesOn _ rfl, beyond _ rfl,
    by decide +kernel, rfl, choices (by decide +kernel) (by decide +kernel) (.inl same), stuck,
    fails stuck ⟨.utf8, by decide +kernel, by decide⟩⟩

/-- Where a condition adds nulls to nothing but nulls, the nesting matters. -/
theorem nullsTogether_clash :
    nullsApart.branches = nullsTogether.branches ∧
    nullsApart.conditions.Perm nullsTogether.conditions ∧
    nullsApart.outcome = .ok (.nullable .utf8) ∧
    ∃ error, nullsTogether.outcome = .error error :=
  ⟨rfl, by decide +kernel, rfl, _, rfl⟩

end FrameCheck.Typing
