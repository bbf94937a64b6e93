import FrameCheck.Proofs.Assignments
import FrameCheck.Proofs.Binding
import FrameCheck.Proofs.Correspondence

/-!
Chains of method calls. A chain comes to the frame of its start, followed by what its methods do
with it one after the other; only `group_by` and the `agg` after it are one step. So the frame in
the middle of a chain may be kept in a new variable.
-/

namespace FrameCheck.Analysis

open Syntax Typing

/-! ## Chains -/

structure Link where
  method : String
  arguments : List Expr := []
  keywords : List Keyword := []

def Link.on (link : Link) (receiver : Expr) : Expr :=
  .call (.attribute receiver link.method) link.arguments link.keywords

def chain (start : Expr) (links : List Link) : Expr :=
  links.foldl (fun receiver link => link.on receiver) start

def isGrouping : Expr → Bool
  | .call (.attribute _ method) _ _ => method == "group_by"
  | _ => false

/-- Whether `agg` comes directly after a `group_by` only, given whether one comes before the
first method. -/
def aggregatesGroups (grouped : Bool) : List Link → Bool
  | [] => true
  | link :: rest =>
    (link.method != "agg" || grouped) && aggregatesGroups (link.method == "group_by") rest

theorem chain_append (start : Expr) (before after : List Link) :
    chain start (before ++ after) = chain (chain start before) after :=
  List.foldl_append

theorem aggregatesGroups_of_append {start : Expr} {before after : List Link}
    (aggregates : aggregatesGroups (isGrouping start) (before ++ after) = true) :
    aggregatesGroups (isGrouping (chain start before)) after = true := by
  induction before generalizing start with
  | nil => exact aggregates
  | cons link rest inRest =>
    rw [List.cons_append, aggregatesGroups, Bool.and_eq_true] at aggregates
    exact @inRest (link.on start) aggregates.2

theorem aggregatesGroups_of_apart {grouped : Bool} {links : List Link}
    (aggregates : aggregatesGroups grouped links = true)
    (apart : ¬ (grouped = true ∧ ∃ link ∈ links.head?, link.method = "agg")) :
    aggregatesGroups false links = true := by
  cases links with
  | nil => rfl
  | cons link rest =>
    simp only [aggregatesGroups, Bool.and_eq_true, Bool.or_eq_true, bne_iff_ne] at aggregates ⊢
    refine ⟨.inl fun isAgg => ?_, aggregates.2⟩
    exact apart ⟨aggregates.1.resolve_left (not_not_intro isAgg), link, rfl, isAgg⟩

theorem every_of_chain {property : Expr → Prop} {start : Expr} {links : List Link}
    (every : (chain start links).Every property) :
    start.Every property ∧
      ∀ link ∈ links, ∀ argument ∈ link.arguments, argument.Every property := by
  induction links generalizing start with
  | nil => exact ⟨every, by simp⟩
  | cons link rest inRest =>
    obtain ⟨inFirst, inLater⟩ := @inRest (link.on start) every
    refine ⟨inFirst.function.object, fun other member => ?_⟩
    rcases List.mem_cons.mp member with rfl | later
    · exact fun argument isArgument => inFirst.argument isArgument
    · exact inLater other later

/-! ## What methods do -/

section Methods

variable (registry : Registry) (helper : HelperCall)

def joinStep (frame : Frame) (arguments : List Expr) (keywords : List Keyword) :
    Walker (Option Frame) :=
  match arguments with
  | right :: _ =>
    Walker.onFrame (infer registry helper right) fun right => joinCall frame right keywords
  | [] => return none

def Link.step (link : Link) : Option Frame → Walker (Option Frame)
  | none => return none
  | some frame =>
    if link.method = "join" then joinStep registry helper frame link.arguments link.keywords
    else if link.method = "select" then selectCall frame link.arguments
    else if link.method = "with_columns" then withColumnsCall frame link.arguments
    else return none

def Link.aggregateStep (grouping aggregation : Link) : Option Frame → Walker (Option Frame)
  | none => return none
  | some frame => aggregateCall frame grouping.arguments aggregation.arguments

def follow : List Link → Option Frame → Walker (Option Frame)
  | [], frame => return frame
  | [link], frame => link.step registry helper frame
  | link :: next :: rest, frame =>
    if next.method = "agg" then link.aggregateStep next frame >>= follow rest
    else link.step registry helper frame >>= follow (next :: rest)

variable {registry helper}

theorem infer_link {link : Link} (notAgg : link.method ≠ "agg") (receiver : Expr) :
    infer registry helper (link.on receiver) =
      infer registry helper receiver >>= link.step registry helper := by
  obtain ⟨method, arguments, keywords⟩ := link
  -- only a `join` that has an argument looks at a second frame
  by_cases joins : method = "join" ∧ arguments ≠ []
  · obtain ⟨rfl, notEmpty⟩ := joins
    obtain ⟨right, others, rfl⟩ := List.exists_cons_of_ne_nil notEmpty
    rw [Link.on, infer]
    refine bind_congr fun frame => ?_
    cases frame with
    | none => rfl
    | some frame =>
      have joined : Link.step registry helper ⟨"join", right :: others, keywords⟩ (some frame) =
          joinStep registry helper frame (right :: others) keywords := by
        rw [Link.step, if_pos rfl]
      exact Eq.trans rfl joined.symm
  · have notGrouped : ∀ grouped keys keyKeywords, receiver =
        .call (.attribute grouped "group_by") keys keyKeywords → method = "agg" → False :=
      fun _ _ _ _ => notAgg
    have notJoin : ∀ first rest, arguments = first :: rest → method = "join" → False := by
      intro first rest isCons isJoin
      exact joins ⟨isJoin, by simp [isCons]⟩
    rw [Link.on, infer]
    · refine bind_congr fun frame => ?_
      cases frame with
      | none => rfl
      | some frame =>
        rw [Link.step]
        by_cases isJoin : method = "join"
        · cases arguments with
          | nil => simp [isJoin, joinStep]
          | cons first rest => exact (notJoin first rest rfl isJoin).elim
        · rw [if_neg isJoin]
    all_goals assumption

theorem infer_grouping {grouping aggregation : Link} (groups : grouping.method = "group_by")
    (aggregates : aggregation.method = "agg") (receiver : Expr) :
    infer registry helper (aggregation.on (grouping.on receiver)) =
      infer registry helper receiver >>= grouping.aggregateStep aggregation := by
  rw [Link.on, Link.on, groups, aggregates, infer_aggregation]
  refine bind_congr fun frame => ?_
  cases frame with
  | none => rfl
  | some frame => rfl

theorem follow_of_agg {link next : Link} (isAgg : next.method = "agg") (rest : List Link) :
    follow registry helper (link :: next :: rest) =
      fun frame => link.aggregateStep next frame >>= follow registry helper rest := by
  funext frame
  rw [follow, if_pos isAgg]

theorem follow_of_not_agg {link next : Link} (notAgg : next.method ≠ "agg") (rest : List Link) :
    follow registry helper (link :: next :: rest) =
      fun frame => link.step registry helper frame >>= follow registry helper (next :: rest) := by
  funext frame
  rw [follow, if_neg notAgg]

theorem infer_chain : {links : List Link} → aggregatesGroups false links = true →
    (start : Expr) → infer registry helper (chain start links) =
      infer registry helper start >>= follow registry helper links
  | [], _, start => (bind_pure (infer registry helper start)).symm
  | [link], aggregates, start => by
    simp only [aggregatesGroups, Bool.or_false, Bool.and_true, bne_iff_ne] at aggregates
    exact infer_link aggregates start
  | link :: next :: rest, aggregates, start => by
    simp only [aggregatesGroups, Bool.or_false, Bool.and_eq_true, bne_iff_ne,
      Bool.or_eq_true, beq_iff_eq] at aggregates
    obtain ⟨notAgg, isGrouped, later⟩ := aggregates
    -- a grouping and its aggregation are passed in one step
    by_cases isAgg : next.method = "agg"
    · have groups : link.method = "group_by" := isGrouped.resolve_left (not_not_intro isAgg)
      have inRest : aggregatesGroups false rest = true := by simpa [isAgg] using later
      calc infer registry helper (chain start (link :: next :: rest))
          = infer registry helper (next.on (link.on start)) >>= follow registry helper rest :=
            infer_chain inRest _
        _ = infer registry helper start >>= follow registry helper (link :: next :: rest) := by
            rw [infer_grouping groups isAgg, follow_of_agg isAgg, bind_assoc]
    · have inRest : aggregatesGroups false (next :: rest) = true := by
        simp [aggregatesGroups, isAgg, later]
      calc infer registry helper (chain start (link :: next :: rest))
          = infer registry helper (link.on start) >>= follow registry helper (next :: rest) :=
            infer_chain inRest _
        _ = infer registry helper start >>= follow registry helper (link :: next :: rest) := by
            rw [infer_link notAgg, follow_of_not_agg isAgg, bind_assoc]

end Methods

/-! ## Walks that agree but for a variable -/

structure Walk.AgreeBut (name : String) (left right : Walk) : Prop where
  frames : ∀ other : Text, other ≠ name → left.frames.get? other = right.frames.get? other
  returned : left.returned = right.returned
  problems : left.problems = right.problems
  memo : left.memo = right.memo

theorem Walk.agreeBut_assigned (walk : Walk) (name : String) (frame : Option Frame) :
    (walk.assigned name frame).AgreeBut name walk where
  frames _ differ := Walk.get?_assigned differ.symm frame
  returned := by cases frame <;> rfl
  problems := by cases frame <;> rfl
  memo := by cases frame <;> rfl

/-- An expression without a variable comes to the same where walks agree but for it. -/
def Correspondence.without (name : String) : Correspondence id (· ≠ name) where
  related := Walk.AgreeBut name
  frames agree other differ := agree.frames other (by simpa [Text.ofString_inj] using differ)
  memo agree := agree.memo
  note agree problems :=
    ⟨agree.frames, agree.returned, by rw [agree.problems], agree.memo⟩
  remember agree memo := ⟨agree.frames, agree.returned, agree.problems, rfl⟩

section Follows

variable {registry : Registry} {depth : Nat} {name : String}

theorem infer_without {expression : Expr} (unused : expression.Every (· ≠ .name name))
    {left right : Walk} (agree : left.AgreeBut name right) :
    Matches NoFault (Walk.AgreeBut name)
      (infer registry (callHelper registry depth) expression left)
      (infer registry (callHelper registry depth) expression right) := by
  refine infer_corresponds (.without name) (callHelper_agrees (.inl rfl)) ?_ agree
  rintro _ isLooked rfl
  exact unused _ ((mem_parts_of_frameVariables registry _).1 expression isLooked) rfl

theorem step_without {link : Link}
    (unused : ∀ argument ∈ link.arguments, argument.Every (· ≠ .name name))
    (frame : Option Frame) {left right : Walk} (agree : left.AgreeBut name right) :
    Matches NoFault (Walk.AgreeBut name)
      (link.step registry (callHelper registry depth) frame left)
      (link.step registry (callHelper registry depth) frame right) := by
  cases frame with
  | none => exact .ok none agree
  | some frame =>
    unfold Link.step
    split
    · -- the right operand is looked at in the same walks
      unfold joinStep
      cases isArguments : link.arguments with
      | nil => exact .ok none agree
      | cons argument others =>
        have operand := unused argument (by simp [isArguments])
        refine (infer_without operand agree).onFrame fun rightFrame _ _ after => ?_
        exact attempt_matches (.without name) after _
    · split
      · exact selectCall_matches (.without name) agree frame link.arguments
      · split
        · exact withColumnsCall_matches (.without name) agree frame link.arguments
        · exact .ok none agree

theorem aggregateStep_without (grouping aggregation : Link) (frame : Option Frame)
    {left right : Walk} (agree : left.AgreeBut name right) :
    Matches NoFault (Walk.AgreeBut name) (grouping.aggregateStep aggregation frame left)
      (grouping.aggregateStep aggregation frame right) := by
  cases frame with
  | none => exact .ok none agree
  | some frame => exact attempt_matches (.without name) agree _

theorem follow_without : (links : List Link) →
    (∀ link ∈ links, ∀ argument ∈ link.arguments, argument.Every (· ≠ .name name)) →
    (frame : Option Frame) → {left right : Walk} → left.AgreeBut name right →
    Matches NoFault (Walk.AgreeBut name)
      (follow registry (callHelper registry depth) links frame left)
      (follow registry (callHelper registry depth) links frame right)
  | [], _, frame, _, _, agree => .ok frame agree
  | [link], unused, frame, _, _, agree => step_without (unused link (by simp)) frame agree
  | link :: next :: rest, unused, frame, _, _, agree => by
    by_cases isAgg : next.method = "agg"
    · rw [follow_of_agg isAgg]
      refine (aggregateStep_without link next frame agree).bind fun frame _ _ after => ?_
      exact follow_without rest (fun other member => unused other (by simp [member])) frame after
    · rw [follow_of_not_agg isAgg]
      refine (step_without (unused link (by simp)) frame agree).bind fun frame _ _ after => ?_
      exact follow_without (next :: rest)
        (fun other member => unused other (List.mem_cons_of_mem _ member)) frame after

theorem returning_matches {first second : Expr} {left right : Walk}
    (values : Matches NoFault (Walk.AgreeBut name) (inferExpression registry first left)
      (inferExpression registry second right)) :
    Matches NoFault (Walk.AgreeBut name)
      (walkStatements registry [.returning (some first)] left)
      (walkStatements registry [.returning (some second)] right) := by
  rw [walkStatements, walkStatements, walkBlock_singleton, walkBlock_singleton, walkStatement,
    walkStatement]
  refine values.bind fun frame _ _ agree => ?_
  exact .ok PUnit.unit ⟨agree.frames, rfl, agree.problems, agree.memo⟩

end Follows

/-! ## Splitting chains -/

/-- A chain may be split at any method other than an `agg`: keeping the frame of its first part
in a new variable and going on from there returns the same frame, notes the same problems in the
same order and remembers the same results, and breaks off with the same fault if it does. -/
theorem chain_splits {registry : Registry} {start : Expr} {before after : List Link}
    {name : String} {walk : Walk}
    (aggregates : aggregatesGroups (isGrouping start) (before ++ after) = true)
    (apart : ¬ (isGrouping (chain start before) = true ∧
      ∃ link ∈ after.head?, link.method = "agg"))
    (isNew : walk.frames.get? name = none)
    (unused : (chain start (before ++ after)).Every (· ≠ .name name)) :
    Matches NoFault (Walk.AgreeBut name)
      (walkStatements registry
        [.assign [.name name] (chain start before),
          .returning (some (chain (.name name) after))] walk)
      (walkStatements registry [.returning (some (chain start (before ++ after)))] walk) := by
  have later : aggregatesGroups false after = true :=
    aggregatesGroups_of_apart (aggregatesGroups_of_append aggregates) apart
  rw [chain_append] at unused ⊢
  have whole : ∀ start, inferExpression registry (chain start after) =
      inferExpression registry start >>= follow registry _ after := infer_chain later
  cases found : inferExpression registry (chain start before) walk with
  | error fault middle =>
    have failed : inferExpression registry (chain (chain start before) after) walk =
        .error fault middle := by
      rw [whole, Steps.bind_of_error found]
    have returning : walkStatements registry
        [.returning (some (chain (chain start before) after))] walk = .error fault middle := by
      rw [walkStatements, walkBlock_singleton, walkStatement]
      exact Steps.bind_of_error failed
    have assigning : walkStatement registry (callHelper registry (callLimit registry))
        (.assign [.name name] (chain start before)) walk = .error fault middle := by
      rw [walkStatement]
      exact Steps.bind_of_error found
    rw [returning, walkStatements, walkBlock, Steps.bind_of_error assigning]
    exact .error fault ⟨fun _ _ => rfl, rfl, rfl, rfl⟩
  | ok frame middle =>
    have assigned : walkStatement registry (callHelper registry (callLimit registry))
        (.assign [.name name] (chain start before)) walk =
          .ok ⟨⟩ (middle.assigned name frame) := by
      rw [walkStatement]
      exact (Steps.bind_of_ok found).trans (assign_eq_ok name frame middle)
    have kept : inferExpression registry (.name name) (middle.assigned name frame) =
        .ok frame (middle.assigned name frame) := by
      rw [inferExpression, infer]
      show EStateM.Result.ok ((middle.assigned name frame).frames.get? name) _ = _
      rw [Walk.get?_assigned_self, (infer_extends found).frames, isNew, Option.or_none]
    rw [walkStatements, walkBlock, Steps.bind_of_ok assigned]
    apply returning_matches
    rw [whole, whole, Steps.bind_of_ok kept, Steps.bind_of_ok found]
    exact follow_without after (every_of_chain unused).2 frame (middle.agreeBut_assigned name frame)

def namedColumn (name : Text) : Expr :=
  .call (.attribute (.name "pl") "col") [.literal (.text name)] []

def sharingKey : Walk where
  frames := .ofList
    [("d", .ofList [(.text "k", .int64), (.text "v", .float64)]),
      ("e", .ofList [(.text "k", .int64), (.text "w", .utf8)])]

def joining : List Link :=
  [{ method := "join", arguments := [.name "e"],
     keywords := [.mk (some "on") (.literal (.text "k"))] }]

def summing : List Link :=
  [{ method := "group_by", arguments := [.literal (.text "k")] },
    { method := "agg", arguments := [.call (.attribute (namedColumn "v") "sum") [] []] },
    { method := "select", arguments := [namedColumn "k", namedColumn "w"] }]

theorem summing_splits :
    aggregatesGroups (isGrouping (.name "d")) (joining ++ summing) = true ∧
    isGrouping (chain (.name "d") joining) = false ∧
    sharingKey.frames.get? (Text.ofString "t") = none ∧
    (match walkStatements .empty
        [.returning (some (chain (.name "d") (joining ++ summing)))] sharingKey with
      | .ok _ after => after.returned.isSome && after.problems.length == 1
      | .error _ _ => false) = true ∧
    Matches NoFault (Walk.AgreeBut "t")
      (walkStatements .empty
        [.assign [.name "t"] (chain (.name "d") joining),
          .returning (some (chain (.name "t") summing))] sharingKey)
      (walkStatements .empty
        [.returning (some (chain (.name "d") (joining ++ summing)))] sharingKey) := by
  have isNew : sharingKey.frames.get? (Text.ofString "t") = none := by decide +kernel
  have unused : (chain (.name "d") (joining ++ summing)).Every (· ≠ .name "t") := by
    simp [Expr.Every, joining, summing, chain, Link.on, namedColumn, Expr.parts, allParts,
      keywordsParts, Keyword.parts]
  refine ⟨by decide, by decide, isNew, by decide +kernel, ?_⟩
  exact chain_splits (by decide) (by decide) isNew unused

end FrameCheck.Analysis
