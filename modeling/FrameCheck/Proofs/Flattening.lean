import FrameCheck.Analysis.Walk

/-!
Blocks as flat lists. The statements of a block, at any depth, are brought into one row: each
one, then those of the blocks inside it. Assignments and returns are the only ones that count
there. Walking through a block is walking through them from first to last, and whatever else
stands in the block can be blanked out.
-/

namespace FrameCheck.Syntax

/-! ## Rows of statements -/

def Stmt.isStep : Stmt → Bool
  | .assign _ _ | .annotated _ _ _ | .returning _ => true
  | _ => false

def Clause.body : Clause → List Stmt
  | .mk _ body => body

def Stmt.blocks : Stmt → List (List Stmt)
  | .plain _ _ | .returning _ | .assign _ _ | .annotated _ _ _ => []
  | .function _ _ body => [body]
  | .classDefinition _ _ _ _ body => [body]
  | .withBlock _ _ body => [body]
  | .conditional _ body alternative => [body, alternative]
  | .whileLoop _ body alternative => [body, alternative]
  | .forLoop _ _ _ body alternative => [body, alternative]
  | .tryBlock body handlers alternative finalizer =>
    body :: (handlers.map Clause.body ++ [alternative, finalizer])
  | .matchBlock _ cases => cases.map Clause.body

mutual

def Stmt.row : Stmt → List Stmt
  | .plain kind parts => [.plain kind parts]
  | .returning value => [.returning value]
  | .assign targets value => [.assign targets value]
  | .annotated target hint value => [.annotated target hint value]
  | .function isAsync header body => .function isAsync header body :: blockRow body
  | .classDefinition name bases keywords decorators body =>
    .classDefinition name bases keywords decorators body :: blockRow body
  | .withBlock isAsync items body => .withBlock isAsync items body :: blockRow body
  | .conditional test body alternative =>
    .conditional test body alternative :: (blockRow body ++ blockRow alternative)
  | .whileLoop test body alternative =>
    .whileLoop test body alternative :: (blockRow body ++ blockRow alternative)
  | .forLoop isAsync target iterable body alternative =>
    .forLoop isAsync target iterable body alternative :: (blockRow body ++ blockRow alternative)
  | .tryBlock body handlers alternative finalizer =>
    .tryBlock body handlers alternative finalizer ::
      (blockRow body ++ (clausesRow handlers ++ (blockRow alternative ++ blockRow finalizer)))
  | .matchBlock subject cases => .matchBlock subject cases :: clausesRow cases

def blockRow : List Stmt → List Stmt
  | [] => []
  | first :: rest => first.row ++ blockRow rest

def Clause.row : Clause → List Stmt
  | .mk _ body => blockRow body

def clausesRow : List Clause → List Stmt
  | [] => []
  | first :: rest => first.row ++ clausesRow rest

end

theorem clausesRow_eq (clauses : List Clause) :
    clausesRow clauses = (clauses.map Clause.body).flatMap blockRow := by
  induction clauses with
  | nil => rfl
  | cons first rest inRest =>
    obtain ⟨heads, body⟩ := first
    rw [clausesRow, inRest, Clause.row, List.map_cons, List.flatMap_cons, Clause.body]

mutual

theorem property_of_blocks {property : List Stmt → Prop} (empty : property [])
    (cons : ∀ first rest, (∀ block ∈ first.blocks, property block) → property rest →
      property (first :: rest)) : (statement : Stmt) → ∀ block ∈ statement.blocks, property block
  | .plain _ _ => by simp [Stmt.blocks]
  | .returning _ => by simp [Stmt.blocks]
  | .assign _ _ => by simp [Stmt.blocks]
  | .annotated _ _ _ => by simp [Stmt.blocks]
  | .function _ _ body => by simpa [Stmt.blocks] using blockInduction empty cons body
  | .classDefinition _ _ _ _ body => by simpa [Stmt.blocks] using blockInduction empty cons body
  | .withBlock _ _ body => by simpa [Stmt.blocks] using blockInduction empty cons body
  | .conditional _ body alternative => by
    simpa [Stmt.blocks] using
      ⟨blockInduction empty cons body, blockInduction empty cons alternative⟩
  | .whileLoop _ body alternative => by
    simpa [Stmt.blocks] using
      ⟨blockInduction empty cons body, blockInduction empty cons alternative⟩
  | .forLoop _ _ _ body alternative => by
    simpa [Stmt.blocks] using
      ⟨blockInduction empty cons body, blockInduction empty cons alternative⟩
  | .tryBlock body handlers alternative finalizer => by
    have inHandlers := property_of_clauses empty cons handlers
    intro block member
    simp only [Stmt.blocks, List.mem_cons, List.mem_append, List.not_mem_nil, or_false] at member
    rcases member with isBody | inHandler | isAlternative | isFinalizer
    · exact isBody ▸ blockInduction empty cons body
    · exact inHandlers block inHandler
    · exact isAlternative ▸ blockInduction empty cons alternative
    · exact isFinalizer ▸ blockInduction empty cons finalizer
  | .matchBlock _ cases => property_of_clauses empty cons cases

/-- Induction over blocks: from the blocks of the first statement and the rest of a block to the
block. -/
theorem blockInduction {property : List Stmt → Prop} (empty : property [])
    (cons : ∀ first rest, (∀ block ∈ first.blocks, property block) → property rest →
      property (first :: rest)) : (block : List Stmt) → property block
  | [] => empty
  | first :: rest =>
    cons first rest (property_of_blocks empty cons first) (blockInduction empty cons rest)

theorem property_of_clause {property : List Stmt → Prop} (empty : property [])
    (cons : ∀ first rest, (∀ block ∈ first.blocks, property block) → property rest →
      property (first :: rest)) : (clause : Clause) → property clause.body
  | .mk _ body => blockInduction empty cons body

theorem property_of_clauses {property : List Stmt → Prop} (empty : property [])
    (cons : ∀ first rest, (∀ block ∈ first.blocks, property block) → property rest →
      property (first :: rest)) :
    (clauses : List Clause) → ∀ block ∈ clauses.map Clause.body, property block
  | [] => by simp
  | first :: rest => by
    rw [List.map_cons, List.forall_mem_cons]
    exact ⟨property_of_clause empty cons first, property_of_clauses empty cons rest⟩

end

theorem Stmt.row_eq (statement : Stmt) :
    statement.row = statement :: statement.blocks.flatMap blockRow := by
  cases statement <;> simp [Stmt.row, Stmt.blocks, clausesRow_eq]

theorem blockRow_append (first second : List Stmt) :
    blockRow (first ++ second) = blockRow first ++ blockRow second := by
  induction first with
  | nil => rfl
  | cons statement rest inRest => simp [blockRow, inRest]

def steps (block : List Stmt) : List Stmt :=
  (blockRow block).filter Stmt.isStep

theorem steps_append (first second : List Stmt) :
    steps (first ++ second) = steps first ++ steps second := by
  simp [steps, blockRow_append]

theorem steps_cons (first : Stmt) (rest : List Stmt) :
    steps (first :: rest) = steps [first] ++ steps rest :=
  steps_append [first] rest

theorem steps_of_blocks {statement : Stmt} (notStep : statement.isStep = false) :
    steps [statement] = statement.blocks.flatMap steps := by
  unfold steps
  rw [blockRow, blockRow, List.append_nil, Stmt.row_eq,
    List.filter_cons_of_neg (by simp [notStep]), List.filter_flatMap]

theorem steps_of_isStep {statement : Stmt} (isStep : statement.isStep = true) :
    steps [statement] = [statement] := by
  cases statement with
  | assign targets value => rfl
  | annotated target hint value => rfl
  | returning value => rfl
  | _ => cases isStep

/-! ## Blanks -/

mutual

/-- A statement with blanks where no assignment or return stands: for the expressions in the heads
of blocks and definitions, and for the statements of other kinds. -/
def Stmt.blanked : Stmt → Stmt
  | .plain _ _ => .plain .pass []
  | .returning value => .returning value
  | .assign targets value => .assign targets value
  | .annotated target hint value => .annotated target hint value
  | .function _ _ body => .function false { name := "", line := 0 } (blankedBlock body)
  | .classDefinition _ _ _ _ body => .classDefinition "" [] [] [] (blankedBlock body)
  | .withBlock _ _ body => .withBlock false [] (blankedBlock body)
  | .conditional _ body alternative =>
    .conditional (.tuple []) (blankedBlock body) (blankedBlock alternative)
  | .whileLoop _ body alternative =>
    .whileLoop (.tuple []) (blankedBlock body) (blankedBlock alternative)
  | .forLoop _ _ _ body alternative =>
    .forLoop false (.tuple []) (.tuple []) (blankedBlock body) (blankedBlock alternative)
  | .tryBlock body handlers alternative finalizer =>
    .tryBlock (blankedBlock body) (blankedClauses handlers) (blankedBlock alternative)
      (blankedBlock finalizer)
  | .matchBlock _ cases => .matchBlock (.tuple []) (blankedClauses cases)

def blankedBlock : List Stmt → List Stmt
  | [] => []
  | first :: rest => first.blanked :: blankedBlock rest

def Clause.blanked : Clause → Clause
  | .mk _ body => .mk [] (blankedBlock body)

def blankedClauses : List Clause → List Clause
  | [] => []
  | first :: rest => first.blanked :: blankedClauses rest

end

theorem blankedBlock_eq_map (block : List Stmt) : blankedBlock block = block.map Stmt.blanked := by
  induction block with
  | nil => rfl
  | cons first rest inRest => rw [blankedBlock, inRest, List.map_cons]

theorem body_blankedClauses (clauses : List Clause) :
    (blankedClauses clauses).map Clause.body = (clauses.map Clause.body).map blankedBlock := by
  induction clauses with
  | nil => rfl
  | cons first rest inRest =>
    obtain ⟨heads, body⟩ := first
    rw [blankedClauses, List.map_cons, inRest]
    rfl

theorem Stmt.isStep_blanked (statement : Stmt) : statement.blanked.isStep = statement.isStep := by
  cases statement <;> rfl

theorem Stmt.blanked_of_isStep {statement : Stmt} (isStep : statement.isStep = true) :
    statement.blanked = statement := by
  cases statement with
  | assign targets value => rfl
  | annotated target hint value => rfl
  | returning value => rfl
  | _ => cases isStep

theorem Stmt.blocks_blanked (statement : Stmt) :
    statement.blanked.blocks = statement.blocks.map blankedBlock := by
  cases statement <;> simp [Stmt.blanked, Stmt.blocks, body_blankedClauses]

theorem steps_blankedBlock (block : List Stmt) : steps (blankedBlock block) = steps block := by
  induction block using blockInduction with
  | empty => rfl
  | cons first rest inBlocks inRest =>
    rw [blankedBlock, steps_cons, steps_cons first, inRest]
    congr 1
    cases isStep : first.isStep with
    | true => rw [Stmt.blanked_of_isStep isStep]
    | false =>
      rw [steps_of_blocks isStep, steps_of_blocks (first.isStep_blanked.trans isStep),
        Stmt.blocks_blanked, List.flatMap_map, List.flatMap_def, List.flatMap_def]
      exact congrArg List.flatten (List.map_congr_left inBlocks)

end FrameCheck.Syntax

namespace FrameCheck.Analysis

open Syntax

section Walks

variable (registry : Registry) (helper : HelperCall)

theorem walkBlock_singleton (statement : Stmt) :
    walkBlock registry helper [statement] = walkStatement registry helper statement := by
  simp [walkBlock]

theorem walkClauses_eq_forM (clauses : List Clause) :
    walkClauses registry helper clauses =
      forM (clauses.map Clause.body) (walkBlock registry helper) := by
  induction clauses with
  | nil => rfl
  | cons first rest inRest =>
    obtain ⟨heads, body⟩ := first
    rw [walkClauses, walkClause, inRest]
    rfl

theorem walkStatement_eq_forM_blocks {statement : Stmt} (notStep : statement.isStep = false) :
    walkStatement registry helper statement =
      forM statement.blocks (walkBlock registry helper) := by
  cases statement with
  | plain kind parts => simp [walkStatement, Stmt.blocks]
  | returning value => cases notStep
  | assign targets value => cases notStep
  | annotated target hint value => cases notStep
  | _ => simp [walkStatement, Stmt.blocks, walkClauses_eq_forM]

theorem forM_walkBlock_eq {blocks : List (List Stmt)}
    (same : ∀ block ∈ blocks, walkBlock registry helper block =
      forM (steps block) (walkStatement registry helper)) :
    forM blocks (walkBlock registry helper) =
      forM (blocks.flatMap steps) (walkStatement registry helper) := by
  induction blocks with
  | nil => rfl
  | cons first rest inRest =>
    rw [List.flatMap_cons, List.forM_append, List.forM_cons, same first List.mem_cons_self,
      inRest fun block member => same block (List.mem_cons_of_mem _ member)]

theorem walkBlock_eq_forM_steps (block : List Stmt) :
    walkBlock registry helper block = forM (steps block) (walkStatement registry helper) := by
  induction block using blockInduction with
  | empty => rfl
  | cons first rest inBlocks inRest =>
    have firstSame : walkStatement registry helper first =
        forM (steps [first]) (walkStatement registry helper) := by
      cases isStep : first.isStep with
      | true => simp [steps_of_isStep isStep]
      | false =>
        rw [walkStatement_eq_forM_blocks registry helper isStep, steps_of_blocks isStep,
          forM_walkBlock_eq registry helper inBlocks]
    rw [walkBlock, steps_cons, List.forM_append, ← firstSame, ← inRest]

end Walks

/-- A walk through statements is a walk through their assignments and returns alone, in the order
of a row, each visited by itself. It comes to the same variables, returned frame, problems and
remembered results, or to the same fault. All other statements, and the expressions in the heads
of blocks and definitions, can be blanked out. -/
theorem walkStatements_eq_forM_steps (registry : Registry) (statements : List Stmt)
    (start : Walk) :
    walkStatements registry statements start =
      forM ((blockRow statements).filter Stmt.isStep)
        (fun step => walkStatements registry [step]) start ∧
    walkStatements registry (statements.map Stmt.blanked) start =
      walkStatements registry statements start := by
  refine ⟨?_, ?_⟩
  · simp only [walkStatements, walkBlock_singleton]
    rw [walkBlock_eq_forM_steps]
    rfl
  · unfold walkStatements
    rw [walkBlock_eq_forM_steps, ← blankedBlock_eq_map, steps_blankedBlock,
      ← walkBlock_eq_forM_steps]

end FrameCheck.Analysis
