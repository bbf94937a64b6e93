import FrameCheck.Analysis.Walk
import FrameCheck.Proofs.Table

/-!
How the frame of an expression is found: one equation for each kind of expression that has one, and
induction over expressions along these equations. All other expressions are frameless.
-/

namespace FrameCheck.Analysis

open Syntax Typing

/-- An operation that is tried only where there is a frame to work on. -/
def Walker.onFrame (step : Walker (Option Frame)) (next : Frame → Walker (Option Frame)) :
    Walker (Option Frame) := do
  match ← step with
  | some frame => next frame
  | none => return none

/-- Whether an expression has no frame whatever its parts are: it is neither a variable nor a call
of a function that is known or of a method, or an `agg` without a `group_by`. -/
def isFrameless (registry : Registry) : Expr → Bool
  | .name _ => false
  | .call (.name function) _ _ => !registry.contains function
  | .call (.attribute (.call (.attribute _ "group_by") _ _) "agg") _ _ => false
  | .call (.attribute _ "agg") _ _ => true
  | .call (.attribute _ _) _ _ => false
  | _ => true

/-- Whether a method yields no frame, although its receiver is looked at. -/
def yieldsNothing (method : String) (arguments : List Expr) : Bool :=
  method != "select" && method != "with_columns" && method != "agg" &&
    (method != "join" || arguments.isEmpty)

/-! ## Equations -/

section Equations

variable {registry : Registry} (helper : HelperCall)

theorem infer_name (identifier : String) (walk : Walk) :
    infer registry helper (.name identifier) walk = .ok (walk.frames.get? identifier) walk := by
  rw [infer]
  rfl

theorem infer_known {function : String} {info : FunctionInfo}
    (registered : registry.get? function = some info) (arguments : List Expr)
    (keywords : List Keyword) :
    infer registry helper (.call (.name function) arguments keywords) =
      inferAll registry helper arguments >>= functionCall helper info := by
  rw [infer, registered]

theorem infer_aggregation (grouped : Expr) (keys items : List Expr)
    (keyKeywords keywords : List Keyword) :
    infer registry helper
        (.call (.attribute (.call (.attribute grouped "group_by") keys keyKeywords) "agg") items
          keywords) =
      Walker.onFrame (infer registry helper grouped) fun frame =>
        aggregateCall frame keys items := by
  rw [infer]
  rfl

theorem infer_join (receiver right : Expr) (others : List Expr) (keywords : List Keyword) :
    infer registry helper (.call (.attribute receiver "join") (right :: others) keywords) =
      Walker.onFrame (infer registry helper receiver) fun left =>
        Walker.onFrame (infer registry helper right) fun right => joinCall left right keywords := by
  rw [infer]
  rfl

theorem infer_select (receiver : Expr) (arguments : List Expr) (keywords : List Keyword) :
    infer registry helper (.call (.attribute receiver "select") arguments keywords) =
      Walker.onFrame (infer registry helper receiver) fun frame => selectCall frame arguments := by
  rw [infer]
  · rfl
  all_goals simp

theorem infer_withColumns (receiver : Expr) (arguments : List Expr) (keywords : List Keyword) :
    infer registry helper (.call (.attribute receiver "with_columns") arguments keywords) =
      Walker.onFrame (infer registry helper receiver) fun frame =>
        withColumnsCall frame arguments := by
  rw [infer]
  · rfl
  all_goals simp

theorem infer_otherMethod {method : String} {arguments : List Expr}
    (isOther : yieldsNothing method arguments = true) (receiver : Expr)
    (keywords : List Keyword) :
    infer registry helper (.call (.attribute receiver method) arguments keywords) =
      Walker.onFrame (infer registry helper receiver) fun _ => pure none := by
  simp only [yieldsNothing, Bool.and_eq_true, Bool.or_eq_true, bne_iff_ne, ne_eq,
    List.isEmpty_iff] at isOther
  obtain ⟨⟨⟨notSelect, notWith⟩, notAgg⟩, notJoin⟩ := isOther
  rw [infer]
  · simp only [notSelect, notWith, if_false]
    rfl
  · exact fun _ _ _ _ => notAgg
  · exact notAgg
  · rintro right others rfl isJoin
    rcases notJoin with different | noArguments
    · exact different isJoin
    · cases noArguments

theorem infer_of_isFrameless {expression : Expr}
    (frameless : isFrameless registry expression = true) :
    infer registry helper expression = pure none := by
  unfold infer
  split <;> simp_all [isFrameless, Table.contains_eq]

end Equations

theorem ne_agg_of_yieldsNothing {method : String} {arguments : List Expr}
    (isOther : yieldsNothing method arguments = true) : method ≠ "agg" := by
  rintro rfl
  simp [yieldsNothing] at isOther

theorem isFrameless_congr {first second : Registry}
    (same : ∀ function, first.contains function = second.contains function) (expression : Expr) :
    isFrameless first expression = isFrameless second expression := by
  unfold isFrameless
  split <;> simp [same]

/-! ## Induction -/

/-- Induction over expressions and lists of them, one case for each equation. -/
theorem inferInduction (registry : Registry) {motive : Expr → Prop} {motives : List Expr → Prop}
    (name : ∀ identifier, motive (.name identifier))
    (known : ∀ (function : String) (info : FunctionInfo) arguments keywords,
      registry.get? function = some info → motives arguments →
      motive (.call (.name function) arguments keywords))
    (aggregation : ∀ grouped keys keyKeywords items keywords, motive grouped →
      motive (.call (.attribute (.call (.attribute grouped "group_by") keys keyKeywords) "agg")
        items keywords))
    (join : ∀ receiver right others keywords, motive receiver → motive right →
      motive (.call (.attribute receiver "join") (right :: others) keywords))
    (select : ∀ receiver arguments keywords, motive receiver →
      motive (.call (.attribute receiver "select") arguments keywords))
    (withColumns : ∀ receiver arguments keywords, motive receiver →
      motive (.call (.attribute receiver "with_columns") arguments keywords))
    (otherMethod : ∀ receiver method arguments keywords, yieldsNothing method arguments = true →
      motive receiver → motive (.call (.attribute receiver method) arguments keywords))
    (frameless : ∀ expression, isFrameless registry expression = true → motive expression)
    (nil : motives [])
    (cons : ∀ first rest, motive first → motives rest → motives (first :: rest)) :
    (∀ expression, motive expression) ∧ ∀ expressions, motives expressions := by
  -- The cases are the equations of the walk: a name (1), calls by name (2, 3), aggregations
  -- (4, 5), joins (6), other methods (7), anything else (8), and lists of expressions (9, 10).
  apply infer.mutual_induct registry
  case case1 => exact name
  case case2 =>
    exact fun function arguments keywords info => known function info arguments keywords
  case case3 =>
    intro function arguments keywords unknown
    apply frameless
    simp [isFrameless, Table.contains_eq, unknown]
  case case4 => exact aggregation
  case case5 =>
    intro object arguments keywords notGrouped
    apply frameless
    unfold isFrameless
    split <;> simp_all
  case case6 => exact join
  case case7 =>
    intro receiver method arguments keywords _ notAgg notJoin inReceiver
    by_cases isSelect : method = "select"
    · exact isSelect ▸ select receiver arguments keywords inReceiver
    by_cases isWith : method = "with_columns"
    · exact isWith ▸ withColumns receiver arguments keywords inReceiver
    refine otherMethod receiver method arguments keywords ?_ inReceiver
    cases arguments with
    | nil => simp_all [yieldsNothing]
    | cons right others => simp_all [yieldsNothing]
  case case8 =>
    intro expression notName notCall _ _ _ notMethod
    apply frameless
    unfold isFrameless
    split
    · exact (notName _ rfl).elim
    · exact (notCall _ _ _ rfl).elim
    · exact (notMethod _ _ _ _ rfl).elim
    · rfl
    · exact (notMethod _ _ _ _ rfl).elim
    · rfl
  case case9 => exact nil
  case case10 => exact cons

end FrameCheck.Analysis
