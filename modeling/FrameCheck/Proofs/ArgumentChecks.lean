import FrameCheck.Proofs.ServingOperations

/-!
Calls of functions with a signature. Arguments are told to serve by one loop, which stops at the
first column that does not, and what is wrong with them is listed by another. The two agree: a call
notes one problem for each column that an argument lacks or has with a type that does not serve,
and nothing if all arguments serve. Either way the call yields the declared frame.
-/

namespace FrameCheck.Analysis

open Syntax Typing

/-! ## Columns that are refused -/

/-- Whether an argument is refused for a column of its parameter: it lacks the column, or the type
that it has does not serve. -/
def refuses (actual : Frame) (column : Literal × ColumnType) : Bool :=
  match actual.column? column.1 with
  | some type => !serves type column.2
  | none => true

def refusal (parameter : Text) (actual : Frame) (column : Literal × ColumnType) : Problem :=
  match actual.column? column.1 with
  | some type => .argumentDiffers parameter column.1 type column.2
  | none => .argumentLacks parameter column.1

structure CheckedArgument where
  actual : Frame
  parameter : Text
  expected : Frame

namespace CheckedArgument

def serves (checked : CheckedArgument) : Bool :=
  frameServes checked.actual checked.expected

/-- One problem for each column of the parameter, in order, for which the argument is refused. -/
def refusals (checked : CheckedArgument) : List Problem :=
  (checked.expected.columns.entries.filter (refuses checked.actual)).map
    (refusal checked.parameter checked.actual)

end CheckedArgument

/-- The check of an argument at a position, if its frame is known and a parameter with a frame
stands at that position. -/
def checkedArgument? (signature : Signature) (frame : Option Frame) (position : Nat) :
    Option CheckedArgument :=
  match frame, signature.parameterAt? position with
  | some actual, some (parameter, expected) => some { actual, parameter, expected }
  | _, _ => none

def checkedArguments (signature : Signature) (frames : List (Option Frame)) :
    List CheckedArgument :=
  frames.zipIdx.filterMap fun placed => checkedArgument? signature placed.1 placed.2

theorem argumentProblems_eq (parameter : Text) (actual expected : Frame) :
    argumentProblems parameter actual expected =
      CheckedArgument.refusals ⟨actual, parameter, expected⟩ := by
  unfold argumentProblems CheckedArgument.refusals
  induction expected.columns.entries with
  | nil => rfl
  | cons column rest inRest =>
    rw [List.filterMap_cons, List.filter_cons, inRest]
    cases found : actual.column? column.1 with
    | none => simp [refuses, refusal, found]
    | some type =>
      cases fits : serves type column.2 with
      | true => simp [refuses, found, fits]
      | false => simp [refuses, refusal, found, fits]

/-- The loop that explains finds nothing exactly when the loop that decides goes through. -/
theorem CheckedArgument.refusals_eq_nil_iff (checked : CheckedArgument) :
    checked.refusals = [] ↔ checked.serves = true := by
  rw [← argumentProblems_eq, argumentProblems_eq_nil_iff]
  rfl

/-! ## Calls -/

theorem callProblems_cons (signature : Signature) (position : Nat) (frame : Option Frame)
    (rest : List (Option Frame)) :
    callProblems signature position (frame :: rest) =
      (checkedArgument? signature frame position).toList.flatMap CheckedArgument.refusals ++
        callProblems signature (position + 1) rest := by
  conv_lhs => unfold callProblems
  refine congrArg (· ++ callProblems signature (position + 1) rest) ?_
  unfold checkedArgument?
  cases frame with
  | none => rfl
  | some actual =>
    cases signature.parameterAt? position with
    | none => rfl
    | some parameter =>
      have agree := CheckedArgument.refusals_eq_nil_iff ⟨actual, parameter.1, parameter.2⟩
      have explained := argumentProblems_eq parameter.1 actual parameter.2
      simp only [Option.toList_some, List.flatMap_cons, List.flatMap_nil, List.append_nil]
      split
      next frameServing => exact (agree.mpr frameServing).symm
      next => exact explained

theorem callProblems_eq (signature : Signature) (frames : List (Option Frame)) :
    callProblems signature 0 frames =
      (checkedArguments signature frames).flatMap CheckedArgument.refusals := by
  have general : ∀ (frames : List (Option Frame)) (position : Nat),
      callProblems signature position frames =
        ((frames.zipIdx position).filterMap fun placed =>
          checkedArgument? signature placed.1 placed.2).flatMap CheckedArgument.refusals := by
    intro frames
    induction frames with
    | nil => exact fun _ => rfl
    | cons frame rest inRest =>
      intro position
      rw [callProblems_cons, inRest, List.zipIdx_cons, List.filterMap_cons]
      cases checkedArgument? signature frame position <;> simp
  exact general frames 0

theorem infer_typedCall {registry : Registry} {function : String} {info : FunctionInfo}
    {signature : Signature} (registered : registry.get? function = some info)
    (signed : info.signature = some signature) (helper : HelperCall) (arguments : List Expr)
    (keywords : List Keyword) (walk : Walk) :
    infer registry helper (.call (.name function) arguments keywords) walk =
      match inferAll registry helper arguments walk with
      | .ok frames after =>
        .ok signature.returns
          { after with
            problems := after.problems ++
              (checkedArguments signature frames).flatMap CheckedArgument.refusals }
      | .error fault after => .error fault after := by
  rw [infer, registered]
  cases found : inferAll registry helper arguments walk with
  | ok frames after =>
    simp only [Steps.bind_of_ok found, functionCall, signed, callProblems_eq]
    rfl
  | error fault after => simp only [Steps.bind_of_error found]

/-- A call of a function with a signature notes one problem for each column for which one of its
arguments is refused, in order, and yields the declared frame. So nothing is noted exactly when
all arguments that are checked serve. -/
theorem typedCall_explains {registry : Registry} {function : String} {info : FunctionInfo}
    {signature : Signature} (registered : registry.get? function = some info)
    (signed : info.signature = some signature) (helper : HelperCall) (arguments : List Expr)
    (keywords : List Keyword) (walk : Walk) :
    (infer registry helper (.call (.name function) arguments keywords) walk =
      match inferAll registry helper arguments walk with
      | .ok frames after =>
        .ok signature.returns
          { after with
            problems := after.problems ++
              (checkedArguments signature frames).flatMap CheckedArgument.refusals }
      | .error fault after => .error fault after) ∧
    ∀ frames : List (Option Frame),
      (checkedArguments signature frames).flatMap CheckedArgument.refusals = [] ↔
        ∀ checked ∈ checkedArguments signature frames,
          frameServes checked.actual checked.expected = true := by
  refine ⟨infer_typedCall registered signed helper arguments keywords walk, fun frames => ?_⟩
  rw [List.flatMap_eq_nil_iff]
  exact forall₂_congr fun checked _ => checked.refusals_eq_nil_iff

def combining : FunctionDefinition where
  header :=
    { name := "g", line := 1
      parameters :=
        { regular := [
            { name := "a"
              hint := some (.subscript (.name "DF")
                (.literal (.text "\x7bx: Int64, y: Utf8\x7d"))) },
            { name := "n" },
            { name := "b"
              hint := some (.subscript (.name "DF") (.literal (.text "\x7bz: Int64\x7d"))) }] }
      returns := some (.subscript (.name "DF") (.literal (.text "\x7bx: Int64\x7d"))) }
  body := []

def combiningSignature : Signature :=
  (signature? combining).get (by decide +kernel)

def combiningStart : Walk where
  frames := .ofList [
    ("p", .ofList [(.text "x", .int64)]),
    ("q", .ofList [(.text "z", .nullable .int64), (.text "w", .utf8)])]

theorem combining_explained :
    let registry := Registry.ofDefinitions [combining]
    let arguments : List Expr := [.name "p", .name "q", .name "q"]
    registry.get? "g" = some ⟨combining, signature? combining⟩ ∧
    signature? combining = some combiningSignature ∧
    ∃ problems,
      infer registry (callHelper registry 1) (.call (.name "g") arguments []) combiningStart =
        .ok combiningSignature.returns { combiningStart with problems } ∧
      problems.map Problem.message = [
        "Argument 'a' is missing column 'y'",
        "Argument 'b' column 'z' has type Int64? but expected Int64"] := by
  intro registry arguments
  have registered : registry.get? "g" = some ⟨combining, signature? combining⟩ := rfl
  have signed : signature? combining = some combiningSignature := (Option.some_get _).symm
  obtain ⟨explains, _⟩ := typedCall_explains registered signed (callHelper registry 1) arguments []
    combiningStart
  exact ⟨registered, signed, _, explains, by decide +kernel⟩

end FrameCheck.Analysis
