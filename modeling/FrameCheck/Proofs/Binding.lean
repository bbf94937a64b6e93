import FrameCheck.Proofs.ArgumentChecks
import FrameCheck.Proofs.Hints

/-!
Which parameter an argument is bound to, and which one it is checked against. A call binds its
arguments by position to the positional parameters, from the first on, and by name to the others.
The check counts positions among the regular parameters only, and does not look at names. So each
argument without a name is checked against its own parameter where there are no positional-only
ones; where there are, it is checked against a parameter further on. Arguments with a name are not
checked at all.
-/

namespace FrameCheck

theorem Text.ofString_inj {first second : String} :
    Text.ofString first = Text.ofString second ↔ first = second := by
  constructor
  · intro same
    have points : first.toList.map CodePoint.char = second.toList.map CodePoint.char :=
      congrArg Text.points same
    have injective : Function.Injective CodePoint.char := fun _ _ same => CodePoint.char.inj same
    exact String.toList_inj.mp (injective.list_map points)
  · exact congrArg Text.ofString

theorem Table.entries_insertAll_of_distinct {κ : Type u} {ν : Type v} [BEq κ] {table : Table κ ν}
    {entries : List (κ × ν)}
    (distinct : (table.entries ++ entries).Pairwise fun first second =>
      (first.1 == second.1) = false) :
    (table.insertAll entries).entries = table.entries ++ entries := by
  induction entries generalizing table with
  | nil => simp [insertAll]
  | cons entry rest inRest =>
    have absent : table.contains entry.1 = false := by
      refine contains_eq_false_iff.mpr fun other member => ?_
      exact (List.pairwise_append.mp distinct).2.2 other member entry List.mem_cons_self
    have written := entries_insert_of_absent absent entry.2
    have moved : table.entries ++ entry :: rest =
        (table.insert entry.1 entry.2).entries ++ rest := by
      rw [written, List.append_assoc]
      rfl
    rw [moved] at distinct ⊢
    exact inRest distinct

namespace Syntax

/-! ## Binding -/

namespace Parameters

def positional (parameters : Parameters) : List Parameter :=
  parameters.positionalOnly ++ parameters.regular

def nameable (parameters : Parameters) : List Parameter :=
  parameters.regular ++ parameters.keywordOnly

def regularTaken (parameters : Parameters) (count : Nat) : List Parameter :=
  parameters.regular.take (count - parameters.positionalOnly.length)

def regularLeft (parameters : Parameters) (count : Nat) : List Parameter :=
  parameters.regular.drop (count - parameters.positionalOnly.length)

end Parameters

def Expr.isStarred : Expr → Bool
  | .starred _ => true
  | _ => false

def keywordNames (keywords : List Keyword) : List String :=
  keywords.filterMap Keyword.name

/-- A function takes a call in which nothing is spread: each argument has a place, no parameter is
bound twice, and those that are not bound have a default. -/
structure Parameters.Accept (parameters : Parameters) (arguments : List Expr)
    (keywords : List Keyword) : Prop where
  distinct : (parameters.all.map Parameter.name).Nodup
  unspread : ∀ argument ∈ arguments, argument.isStarred = false
  named : ∀ keyword ∈ keywords, keyword.name.isSome = true
  once : (keywordNames keywords).Nodup
  room : arguments.length ≤ parameters.positional.length ∨ parameters.variadic.isSome = true
  known : ∀ name ∈ keywordNames keywords,
    name ∈ parameters.nameable.map Parameter.name ∨ parameters.keywordVariadic.isSome = true
  free : ∀ name ∈ keywordNames keywords,
    name ∉ (parameters.regularTaken arguments.length).map Parameter.name
  filledByPosition : ∀ parameter ∈ parameters.positionalOnly.drop arguments.length,
    parameter.default.isSome = true
  filledByName : ∀ parameter ∈ parameters.regularLeft arguments.length ++ parameters.keywordOnly,
    parameter.default.isSome = true ∨ parameter.name ∈ keywordNames keywords

instance (parameters : Parameters) (arguments : List Expr) (keywords : List Keyword) :
    Decidable (parameters.Accept arguments keywords) :=
  decidable_of_iff
    ((parameters.all.map Parameter.name).Nodup ∧
      (∀ argument ∈ arguments, argument.isStarred = false) ∧
      (∀ keyword ∈ keywords, keyword.name.isSome = true) ∧ (keywordNames keywords).Nodup ∧
      (arguments.length ≤ parameters.positional.length ∨ parameters.variadic.isSome = true) ∧
      (∀ name ∈ keywordNames keywords,
        name ∈ parameters.nameable.map Parameter.name ∨ parameters.keywordVariadic.isSome = true) ∧
      (∀ name ∈ keywordNames keywords,
        name ∉ (parameters.regularTaken arguments.length).map Parameter.name) ∧
      (∀ parameter ∈ parameters.positionalOnly.drop arguments.length,
        parameter.default.isSome = true) ∧
      ∀ parameter ∈ parameters.regularLeft arguments.length ++ parameters.keywordOnly,
        parameter.default.isSome = true ∨ parameter.name ∈ keywordNames keywords)
    ⟨fun ⟨distinct, unspread, named, once, room, known, free, byPosition, byName⟩ =>
      ⟨distinct, unspread, named, once, room, known, free, byPosition, byName⟩,
    fun ⟨distinct, unspread, named, once, room, known, free, byPosition, byName⟩ =>
      ⟨distinct, unspread, named, once, room, known, free, byPosition, byName⟩⟩

end Syntax

namespace Analysis

open Syntax Typing

/-! ## Positions of a signature -/

theorem findSome?_zipIdx (pick : α → Option β) (values : List α) (offset index : Nat) :
    ((values.zipIdx offset).findSome? fun placed =>
      if placed.2 = offset + index then pick placed.1 else none) = values[index]?.bind pick := by
  induction values generalizing offset index with
  | nil => rfl
  | cons value rest inRest =>
    rw [List.zipIdx_cons, List.findSome?_cons]
    cases index with
    | zero =>
      have later : ((rest.zipIdx (offset + 1)).findSome? fun placed =>
          if placed.2 = offset + 0 then pick placed.1 else none) = none := by
        refine List.findSome?_eq_none_iff.mpr fun placed member => if_neg ?_
        have bound := List.le_snd_of_mem_zipIdx member
        omega
      rw [later]
      cases found : pick value <;> simp [found]
    | succ index =>
      have elsewhere : offset ≠ offset + (index + 1) := by omega
      have shifted := inRest (offset + 1) index
      rw [if_neg elsewhere]
      simpa [Nat.add_assoc, Nat.add_comm 1 index] using shifted

def placedFrame? (placed : Parameter × Nat) : Option (Text × Nat × Frame) :=
  (placed.1.hint.bind declaredFrame?).map fun frame => (placed.1.name, placed.2, frame)

theorem entries_declaredParameters {definition : FunctionDefinition}
    (distinct : (definition.regularParameters.map Parameter.name).Nodup) :
    (declaredParameters definition).entries =
      definition.regularParameters.zipIdx.filterMap placedFrame? := by
  have written : declaredParameters definition =
      Table.ofList (definition.regularParameters.zipIdx.filterMap placedFrame?) := by
    refine congrArg Table.ofList (List.filterMap_congr fun placed _ => ?_)
    unfold placedFrame?
    cases isHint : placed.1.hint with
    | none => simp [isHint]
    | some hint => cases isDeclared : declaredFrame? hint <;> simp [isHint, isDeclared]
  rw [written]
  refine Table.entries_insertAll_of_distinct (List.pairwise_filterMap.mpr ?_)
  have names : definition.regularParameters.zipIdx.Pairwise fun first second =>
      first.1.name ≠ second.1.name := by
    rw [← List.zipIdx_map_fst 0 definition.regularParameters, List.map_map] at distinct
    exact List.pairwise_map.mp distinct
  refine names.imp fun {first second} differ found isFound other isOther => ?_
  obtain ⟨_, _, rfl⟩ := Option.map_eq_some_iff.mp isFound
  obtain ⟨_, _, rfl⟩ := Option.map_eq_some_iff.mp isOther
  simpa [Text.ofString_inj] using differ

/-- Where regular parameters have different names, a signature has at a position the regular
parameter there, if it declares a frame. -/
theorem parameterAt?_eq {definition : FunctionDefinition} {signature : Signature}
    (isSigned : signature? definition = some signature)
    (distinct : (definition.regularParameters.map Parameter.name).Nodup) (index : Nat) :
    signature.parameterAt? index = definition.regularParameters[index]?.bind parameterFrame? := by
  have parameters : signature.parameters = declaredParameters definition := by
    rcases signature?_cases definition with ⟨unsigned, _⟩ | ⟨_, other, isOther, same, _⟩
    · rw [unsigned] at isSigned
      cases isSigned
    · rw [isOther] at isSigned
      cases isSigned
      exact same
  rw [Signature.parameterAt?, parameters, entries_declaredParameters distinct,
    ← List.head?_filterMap, List.filterMap_filterMap, List.head?_filterMap,
    ← findSome?_zipIdx parameterFrame? _ 0 index]
  congr 1
  funext placed
  unfold placedFrame? parameterFrame?
  cases placed.1.hint.bind declaredFrame? with
  | none => simp
  | some frame => simp

/-! ## Arguments that are checked -/

theorem checkedArgument?_eq_some_iff {signature : Signature} {frame : Option Frame}
    {position : Nat} {checked : CheckedArgument} :
    checkedArgument? signature frame position = some checked ↔
      frame = some checked.actual ∧
        signature.parameterAt? position = some (checked.parameter, checked.expected) := by
  unfold checkedArgument?
  constructor
  · intro isChecked
    split at isChecked
    next found =>
      cases isChecked
      exact ⟨rfl, found⟩
    · cases isChecked
  · rintro ⟨rfl, found⟩
    rw [found]

theorem mem_checkedArguments_iff {signature : Signature} {frames : List (Option Frame)}
    {checked : CheckedArgument} :
    checked ∈ checkedArguments signature frames ↔
      ∃ index, frames[index]? = some (some checked.actual) ∧
        signature.parameterAt? index = some (checked.parameter, checked.expected) := by
  simp only [checkedArguments, List.mem_filterMap, checkedArgument?_eq_some_iff]
  constructor
  · rintro ⟨⟨frame, index⟩, member, rfl, found⟩
    exact ⟨index, List.mem_zipIdx_iff_getElem?.mp member, found⟩
  · rintro ⟨index, given, found⟩
    exact ⟨(some checked.actual, index), List.mem_zipIdx_iff_getElem?.mpr given, rfl, found⟩

def Problem.parameter? : Problem → Option Text
  | .argumentLacks parameter _ => some parameter
  | .argumentDiffers parameter _ _ _ => some parameter
  | _ => none

def Reports (problems : List Problem) (parameter : Parameter) : Prop :=
  ∃ problem ∈ problems, problem.parameter? = some (parameter.name : Text)

instance (problems : List Problem) (parameter : Parameter) :
    Decidable (Reports problems parameter) :=
  inferInstanceAs (Decidable (∃ problem ∈ problems, problem.parameter? = some _))

theorem parameter?_refusal (parameter : Text) (actual : Frame) (column : Literal × ColumnType) :
    (refusal parameter actual column).parameter? = some parameter := by
  unfold refusal
  split <;> rfl

theorem reports_flatMap_iff {checks : List CheckedArgument} {parameter : Parameter} :
    Reports (checks.flatMap CheckedArgument.refusals) parameter ↔
      ∃ checked ∈ checks, checked.parameter = parameter.name ∧ checked.serves = false := by
  constructor
  · rintro ⟨problem, member, isAbout⟩
    obtain ⟨checked, isChecked, refused⟩ := List.mem_flatMap.mp member
    obtain ⟨column, _, rfl⟩ := List.mem_map.mp refused
    rw [parameter?_refusal, Option.some.injEq] at isAbout
    refine ⟨checked, isChecked, isAbout, ?_⟩
    rw [← Bool.not_eq_true, ← checked.refusals_eq_nil_iff]
    exact List.ne_nil_of_mem refused
  · rintro ⟨checked, isChecked, isAbout, fails⟩
    rw [← Bool.not_eq_true, ← checked.refusals_eq_nil_iff] at fails
    obtain ⟨problem, refused⟩ := List.exists_mem_of_ne_nil _ fails
    refine ⟨problem, List.mem_flatMap.mpr ⟨checked, isChecked, refused⟩, ?_⟩
    obtain ⟨column, _, rfl⟩ := List.mem_map.mp refused
    rw [parameter?_refusal, isAbout]

theorem length_inferAll {registry : Registry} {helper : HelperCall} {arguments : List Expr}
    {walk after : Walk} {frames : List (Option Frame)}
    (result : inferAll registry helper arguments walk = .ok frames after) :
    frames.length = arguments.length := by
  induction arguments generalizing walk frames with
  | nil =>
    rw [inferAll] at result
    cases result
    rfl
  | cons first rest inRest =>
    rw [inferAll] at result
    obtain ⟨frame, middle, _, others⟩ := Steps.bind_eq_ok_iff.mp result
    obtain ⟨found, last, isFound, isLast⟩ := Steps.bind_eq_ok_iff.mp others
    cases isLast
    simp [inRest isFound]

/-! ## Arguments that are bound -/

def declared? (parameter : Parameter) : Option Frame :=
  parameter.hint.bind declaredFrame?

def JudgesPositions (parameters : Parameters) (frames : List (Option Frame))
    (problems : List Problem) : Prop :=
  ∀ (index : Nat) parameter actual expected, parameters.positional[index]? = some parameter →
    frames[index]? = some (some actual) → declared? parameter = some expected →
    (Reports problems parameter ↔ frameServes actual expected = false)

/-- An argument with a name has a frame, and so has the parameter that it is bound to. -/
structure BindsName (registry : Registry) (helper : HelperCall) (walk : Walk)
    (parameters : Parameters) (keywords : List Keyword) (parameter : Parameter)
    (actual expected : Frame) : Prop where
  isParameter : parameter ∈ parameters.nameable
  isArgument : ∃ value after, .mk (some parameter.name) value ∈ keywords ∧
    infer registry helper value walk = .ok (some actual) after
  isDeclared : declared? parameter = some expected

def JudgesNames (registry : Registry) (helper : HelperCall) (walk : Walk)
    (parameters : Parameters) (keywords : List Keyword) (problems : List Problem) : Prop :=
  ∀ parameter actual expected,
    BindsName registry helper walk parameters keywords parameter actual expected →
    (Reports problems parameter ↔ frameServes actual expected = false)

/-- Problems tell of each parameter whether the argument without a name that stands at its
position among the regular ones serves. -/
def ChecksRegular (parameters : Parameters) (frames : List (Option Frame))
    (problems : List Problem) : Prop :=
  ∀ parameter ∈ parameters.all, ∀ expected, declared? parameter = some expected →
    (Reports problems parameter ↔
      ∃ (index : Nat) (actual : Frame), parameters.regular[index]? = some parameter ∧
        frames[index]? = some (some actual) ∧ frameServes actual expected = false)

section Accepted

variable {parameters : Parameters} {arguments : List Expr} {keywords : List Keyword}

theorem nameable_distinct (accept : parameters.Accept arguments keywords) :
    (parameters.nameable.map Parameter.name).Nodup := by
  refine accept.distinct.sublist (List.Sublist.map _ ?_)
  simp only [Parameters.nameable, Parameters.all, List.append_assoc]
  refine List.Sublist.trans ?_ (List.sublist_append_right _ _)
  refine List.Sublist.append_left ?_ _
  exact (List.sublist_append_left _ _).trans (List.sublist_append_right _ _)

theorem regular_distinct (accept : parameters.Accept arguments keywords) :
    (parameters.regular.map Parameter.name).Nodup := by
  refine (nameable_distinct accept).sublist (List.Sublist.map _ ?_)
  exact List.sublist_append_left _ _

theorem mem_all_of_getElem? {index : Nat} {parameter : Parameter}
    (isRegular : parameters.regular[index]? = some parameter) : parameter ∈ parameters.all := by
  have member := List.mem_of_getElem? isRegular
  simp [Parameters.all, member]

theorem checksRegular_refusals (accept : parameters.Accept arguments keywords)
    {definition : FunctionDefinition} (isParameters : definition.header.parameters = parameters)
    {signature : Signature} (isSigned : signature? definition = some signature)
    (frames : List (Option Frame)) :
    ChecksRegular parameters frames
      ((checkedArguments signature frames).flatMap CheckedArgument.refusals) := by
  intro parameter member expected isDeclared
  subst isParameters
  have atIndex := parameterAt?_eq isSigned (regular_distinct accept)
  have frame : parameterFrame? parameter = some ((parameter.name : Text), expected) := by
    rw [parameterFrame?, ← declared?, isDeclared]
    rfl
  rw [reports_flatMap_iff]
  constructor
  · rintro ⟨checked, isChecked, isName, fails⟩
    obtain ⟨index, given, found⟩ := mem_checkedArguments_iff.mp isChecked
    rw [atIndex, Option.bind_eq_some_iff] at found
    obtain ⟨other, isOther, isFrame⟩ := found
    have sameName : other.name = parameter.name := by
      obtain ⟨_, _, named⟩ := Option.map_eq_some_iff.mp isFrame
      rw [← Text.ofString_inj, ← isName, ← (Prod.mk.inj named).1]
    obtain rfl : other = parameter :=
      List.inj_on_of_nodup_map accept.distinct (mem_all_of_getElem? isOther) member sameName
    rw [frame, Option.some.injEq, Prod.mk.injEq] at isFrame
    refine ⟨index, checked.actual, isOther, given, ?_⟩
    rw [isFrame.2]
    exact fails
  · rintro ⟨index, actual, isRegular, given, fails⟩
    refine ⟨⟨actual, parameter.name, expected⟩, mem_checkedArguments_iff.mpr ⟨index, given, ?_⟩,
      rfl, fails⟩
    rw [atIndex]
    exact Option.bind_eq_some_iff.mpr ⟨parameter, isRegular, frame⟩

theorem length_le_of_named (accept : parameters.Accept arguments keywords)
    (allRegular : parameters.positionalOnly = []) {parameter : Parameter}
    (named : parameter.name ∈ keywordNames keywords) {index : Nat}
    (isRegular : parameters.regular[index]? = some parameter) : arguments.length ≤ index := by
  by_contra within
  have taken : (parameters.regular.take arguments.length)[index]? = some parameter := by
    rw [List.getElem?_take_of_lt (by omega)]
    exact isRegular
  refine accept.free parameter.name named (List.mem_map_of_mem ?_)
  rw [Parameters.regularTaken, allRegular, List.length_nil, Nat.sub_zero]
  exact List.mem_of_getElem? taken

theorem BindsName.mem_keywordNames {registry : Registry} {helper : HelperCall} {walk : Walk}
    {parameter : Parameter} {actual expected : Frame}
    (binds : BindsName registry helper walk parameters keywords parameter actual expected) :
    parameter.name ∈ keywordNames keywords := by
  obtain ⟨value, _, member, _⟩ := binds.isArgument
  exact List.mem_filterMap.mpr ⟨_, member, rfl⟩

theorem BindsName.mem_all {registry : Registry} {helper : HelperCall} {walk : Walk}
    {parameter : Parameter} {actual expected : Frame}
    (binds : BindsName registry helper walk parameters keywords parameter actual expected) :
    parameter ∈ parameters.all := by
  rcases List.mem_append.mp binds.isParameter with regular | keywordOnly
  · simp [Parameters.all, regular]
  · simp [Parameters.all, keywordOnly]

section Judged

variable {frames : List (Option Frame)} {problems : List Problem}

theorem ChecksRegular.judgesPositions (checks : ChecksRegular parameters frames problems)
    (accept : parameters.Accept arguments keywords) (allRegular : parameters.positionalOnly = []) :
    JudgesPositions parameters frames problems := by
  intro index parameter actual expected isPositional given isDeclared
  rw [Parameters.positional, allRegular, List.nil_append] at isPositional
  rw [checks parameter (mem_all_of_getElem? isPositional) expected isDeclared]
  constructor
  · rintro ⟨other, found, isRegular, isGiven, fails⟩
    have within : index < parameters.regular.length :=
      (List.getElem?_eq_some_iff.mp isPositional).1
    have same : index = other :=
      (List.getElem?_inj within (regular_distinct accept).of_map).mp
        (isPositional.trans isRegular.symm)
    rw [← same, given] at isGiven
    cases isGiven
    exact fails
  · intro fails
    exact ⟨index, actual, isPositional, given, fails⟩

theorem ChecksRegular.judgesNames_iff (checks : ChecksRegular parameters frames problems)
    (accept : parameters.Accept arguments keywords) (allRegular : parameters.positionalOnly = [])
    (given : frames.length = arguments.length) (registry : Registry) (helper : HelperCall)
    (walk : Walk) :
    JudgesNames registry helper walk parameters keywords problems ↔
      ∀ parameter actual expected,
        BindsName registry helper walk parameters keywords parameter actual expected →
          frameServes actual expected = true := by
  refine forall₃_congr fun parameter actual expected => forall_congr' fun binds => ?_
  have silent : ¬ Reports problems parameter := by
    intro isReported
    obtain ⟨index, found, isRegular, isGiven, _⟩ :=
      (checks parameter binds.mem_all expected binds.isDeclared).mp isReported
    have beyond := length_le_of_named accept allRegular binds.mem_keywordNames isRegular
    have within := (List.getElem?_eq_some_iff.mp isGiven).1
    omega
  rw [iff_false_left silent, Bool.not_eq_false]

end Judged

end Accepted

/-- What a call of a function with a signature has to say of an argument hangs on the argument
that stands at the position of its parameter among the regular ones. Where all positional
parameters are regular, that is the argument itself, if it has no name; of arguments with a name
nothing is said, whether they serve or not. -/
theorem argument_reported_iff (statements : List Stmt) {function : String} {info : FunctionInfo}
    {signature : Signature} (registered : (registryOf statements).get? function = some info)
    (signed : info.signature = some signature) {arguments : List Expr} {keywords : List Keyword}
    (accept : info.definition.header.parameters.Accept arguments keywords) {helper : HelperCall}
    {walk middle : Walk} {frames : List (Option Frame)}
    (inferred : inferAll (registryOf statements) helper arguments walk = .ok frames middle) :
    ∃ added,
      infer (registryOf statements) helper (.call (.name function) arguments keywords) walk =
        .ok signature.returns { middle with problems := middle.problems ++ added } ∧
      ChecksRegular info.definition.header.parameters frames added ∧
      (info.definition.header.parameters.positionalOnly = [] →
        JudgesPositions info.definition.header.parameters frames added ∧
        (JudgesNames (registryOf statements) helper middle info.definition.header.parameters
            keywords added ↔
          ∀ parameter actual expected,
            BindsName (registryOf statements) helper middle info.definition.header.parameters
              keywords parameter actual expected → frameServes actual expected = true)) := by
  obtain ⟨_, isSigned, _⟩ := sound_registryOf statements function info registered
  have checks := checksRegular_refusals accept rfl (isSigned.symm.trans signed) frames
  refine ⟨_, ?_, checks, fun allRegular => ⟨checks.judgesPositions accept allRegular, ?_⟩⟩
  · rw [infer_typedCall registered signed, inferred]
  · exact checks.judgesNames_iff accept allRegular (length_inferAll inferred) _ _ _

def wanting : Parameter where
  name := "b"
  hint := some (.subscript (.name "DF") (.literal (.text "\x7bx: Int64\x7d")))

def wanted : Frame :=
  (declared? wanting).get (by decide +kernel)

theorem declared?_wanting : declared? wanting = some wanted :=
  (Option.some_get _).symm

def asking (positionalOnly : List Parameter) : FunctionDefinition where
  header := { name := "g", line := 1, parameters := { positionalOnly, regular := [wanting] } }
  body := []

def askingScript (positionalOnly : List Parameter) : List Stmt :=
  [.function false (asking positionalOnly).header (asking positionalOnly).body]

def askingSignature : Signature :=
  (signature? (asking [])).get (by decide +kernel)

theorem registered_asking (positionalOnly : List Parameter) :
    (registryOf (askingScript positionalOnly)).get? "g" =
      some ⟨asking positionalOnly, some askingSignature⟩ := by
  have signed : signature? (asking positionalOnly) = some askingSignature := by
    have same : signature? (asking positionalOnly) = signature? (asking []) := by
      unfold signature? declaredParameters
      rfl
    rw [same]
    exact (Option.some_get _).symm
  have only : registryOf (askingScript positionalOnly) =
      Registry.register .empty (asking positionalOnly) := rfl
  rw [only, Registry.register, Table.get?_insert, signed]
  exact if_pos BEq.rfl

def fitting : Frame :=
  .ofList [(.text "x", .int64)]

def unfitting : Frame :=
  .ofList [(.text "y", .int64)]

def askingStart : Walk where
  frames := .ofList [("d", fitting), ("e", unfitting)]

structure AskingCall (positionalOnly : List Parameter) (arguments : List Expr)
    (keywords : List Keyword) (frames : List (Option Frame)) (added : List Problem) : Prop where
  accept : (asking positionalOnly).header.parameters.Accept arguments keywords
  inferred : inferAll (registryOf (askingScript positionalOnly)) (callHelper .empty 1) arguments
    askingStart = .ok frames askingStart
  adds : infer (registryOf (askingScript positionalOnly)) (callHelper .empty 1)
    (.call (.name "g") arguments keywords) askingStart =
      .ok askingSignature.returns
        { askingStart with problems := askingStart.problems ++ added }

theorem asking_reported :
    ∃ added, AskingCall [] [.name "e"] [] [some unfitting] added ∧ Reports added wanting := by
  have accept : (asking []).header.parameters.Accept [.name "e"] [] := by decide +kernel
  have inferred : inferAll (registryOf (askingScript [])) (callHelper .empty 1) [.name "e"]
    askingStart = .ok [some unfitting] askingStart := rfl
  obtain ⟨added, adds, _, judges⟩ := argument_reported_iff (askingScript []) (registered_asking [])
    rfl accept inferred
  refine ⟨added, ⟨accept, inferred, adds⟩, ?_⟩
  exact ((judges rfl).1 0 wanting unfitting wanted rfl rfl declared?_wanting).mpr
    (by decide +kernel)

theorem askingCall_refusals {positionalOnly : List Parameter} {arguments : List Expr}
    {keywords : List Keyword} {frames : List (Option Frame)}
    (accept : (asking positionalOnly).header.parameters.Accept arguments keywords)
    (inferred : inferAll (registryOf (askingScript positionalOnly)) (callHelper .empty 1) arguments
      askingStart = .ok frames askingStart) :
    AskingCall positionalOnly arguments keywords frames
      ((checkedArguments askingSignature frames).flatMap CheckedArgument.refusals) := by
  refine ⟨accept, inferred, ?_⟩
  rw [infer_typedCall (registered_asking positionalOnly) rfl, inferred]

/-- After a positional-only parameter, an argument that does not serve is passed over, and one
that serves is reported. An argument with a name is passed over. -/
theorem misbound_arguments :
    (∃ added,
      AskingCall [{ name := "a" }] [.name "d", .name "e"] [] [some fitting, some unfitting] added ∧
      ¬ JudgesPositions (asking [{ name := "a" }]).header.parameters
        [some fitting, some unfitting] added) ∧
    (∃ added,
      AskingCall [{ name := "a" }] [.name "e", .name "d"] [] [some unfitting, some fitting] added ∧
      ¬ JudgesPositions (asking [{ name := "a" }]).header.parameters
        [some unfitting, some fitting] added) ∧
    ∃ added,
      AskingCall [] [] [.mk (some "b") (.name "e")] [] added ∧
      ¬ JudgesNames (registryOf (askingScript [])) (callHelper .empty 1) askingStart
        (asking []).header.parameters [.mk (some "b") (.name "e")] added := by
  refine ⟨⟨_, askingCall_refusals (by decide +kernel) rfl, fun judges => ?_⟩,
    ⟨_, askingCall_refusals (by decide +kernel) rfl, fun judges => ?_⟩,
    ⟨_, askingCall_refusals (by decide +kernel) rfl, fun judges => ?_⟩⟩
  · have reported := (judges 1 wanting unfitting wanted rfl rfl declared?_wanting).mpr
      (by decide +kernel)
    revert reported
    decide +kernel
  · have fails := (judges 1 wanting fitting wanted rfl rfl declared?_wanting).mp
      (by decide +kernel)
    revert fails
    decide +kernel
  · have binds : BindsName (registryOf (askingScript [])) (callHelper .empty 1) askingStart
        (asking []).header.parameters [.mk (some "b") (.name "e")] wanting unfitting wanted :=
      ⟨List.mem_cons_self, ⟨.name "e", askingStart, List.mem_cons_self, rfl⟩, declared?_wanting⟩
    have reported := (judges wanting unfitting wanted binds).mpr (by decide +kernel)
    revert reported
    decide +kernel

end Analysis

end FrameCheck
