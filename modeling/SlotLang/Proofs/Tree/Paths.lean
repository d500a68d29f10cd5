import SlotLang.Tree.Stmt

/-!
# Paths through a block

A path through a block may take any case of a branch, and any number of rounds of a loop,
whatever the conditions say.  It stops at the first `return`; otherwise it goes on to the
end of the block.  The analysis of returns is exact for these paths: it holds of a block
if and only if no path reaches the end.
-/

namespace SlotLang

/-! ## Paths -/

/-- How a path through a piece of code ends. -/
inductive Ending where
  /-- At the end of the code, where it goes on with what follows. -/
  | reachedEnd
  /-- At a `return`. -/
  | returned
deriving DecidableEq, Repr

namespace Stmt

/-- Whether a statement is a `return`. -/
def isReturn : Stmt → Bool
  | returnValue _ _ => true
  | _ => false

/-- Whether a statement is a single step after which every path goes on.  This includes
the definitions of functions and classes, whose bodies do not run there. -/
def isPlain : Stmt → Bool
  | branch _ _ _ _ => false
  | loop _ _ _ => false
  | returnValue _ _ => false
  | _ => true

end Stmt

mutual

/-- `Path stmt steps ending`: a path through the statement takes these single steps and
ends in this way. -/
inductive Stmt.Path : Stmt → List Stmt → Ending → Prop where
  | step {stmt : Stmt} (plain : stmt.isPlain = true) : Stmt.Path stmt [stmt] .reachedEnd
  | returnValue {span : Span} {value : Expr} :
      Stmt.Path (.returnValue span value) [.returnValue span value] .returned
  | branchBody {span : Span} {condition : Expr} {body : List Stmt} {rest : Alternatives}
      {steps : List Stmt} {ending : Ending} (bodyPath : Stmt.BlockPath body steps ending) :
      Stmt.Path (.branch span condition body rest) steps ending
  | branchRest {span : Span} {condition : Expr} {body : List Stmt} {rest : Alternatives}
      {steps : List Stmt} {ending : Ending} (restPath : Alternatives.Path rest steps ending) :
      Stmt.Path (.branch span condition body rest) steps ending
  | loopDone {span : Span} {condition : Expr} {body : List Stmt} :
      Stmt.Path (.loop span condition body) [] .reachedEnd
  | loopReturn {span : Span} {condition : Expr} {body steps : List Stmt}
      (bodyPath : Stmt.BlockPath body steps .returned) :
      Stmt.Path (.loop span condition body) steps .returned
  | loopAgain {span : Span} {condition : Expr} {body steps more : List Stmt}
      {ending : Ending} (bodyPath : Stmt.BlockPath body steps .reachedEnd)
      (loopPath : Stmt.Path (.loop span condition body) more ending) :
      Stmt.Path (.loop span condition body) (steps ++ more) ending

/-- A path through the further cases of a branch, of which it takes one. -/
inductive Alternatives.Path : Alternatives → List Stmt → Ending → Prop where
  | elifBody {condition : Expr} {body : List Stmt} {rest : Alternatives}
      {steps : List Stmt} {ending : Ending} (bodyPath : Stmt.BlockPath body steps ending) :
      Alternatives.Path (.elif condition body rest) steps ending
  | elifRest {condition : Expr} {body : List Stmt} {rest : Alternatives}
      {steps : List Stmt} {ending : Ending} (restPath : Alternatives.Path rest steps ending) :
      Alternatives.Path (.elif condition body rest) steps ending
  | otherwise {body steps : List Stmt} {ending : Ending}
      (bodyPath : Stmt.BlockPath body steps ending) :
      Alternatives.Path (.otherwise body) steps ending

/-- A path through a block, statement by statement. -/
inductive Stmt.BlockPath : List Stmt → List Stmt → Ending → Prop where
  | nil : Stmt.BlockPath [] [] .reachedEnd
  | stop {stmt : Stmt} {later steps : List Stmt}
      (stmtPath : Stmt.Path stmt steps .returned) :
      Stmt.BlockPath (stmt :: later) steps .returned
  | cons {stmt : Stmt} {later steps more : List Stmt} {ending : Ending}
      (stmtPath : Stmt.Path stmt steps .reachedEnd)
      (laterPath : Stmt.BlockPath later more ending) :
      Stmt.BlockPath (stmt :: later) (steps ++ more) ending

end

/-! ## Paths stop at returns only -/

theorem Stmt.isReturn_of_isPlain {stmt : Stmt} (plain : stmt.isPlain = true) :
    stmt.isReturn = false := by
  cases stmt with
  | returnValue => cases plain
  | _ => rfl

/-- A path that goes on after some steps has returned exactly if it does so later. -/
theorem Ending.returned_iff_of_append {steps more : List Stmt} {ending : Ending}
    (first : Ending.reachedEnd = .returned ↔ ∃ step ∈ steps, step.isReturn = true)
    (later : ending = .returned ↔ ∃ step ∈ more, step.isReturn = true) :
    ending = .returned ↔ ∃ step ∈ steps ++ more, step.isReturn = true := by
  rw [later]
  simp only [List.mem_append, or_and_right, exists_or, ← first, reduceCtorEq, false_or]

mutual

/-- A path through a statement ends in a `return` exactly if one of its steps is one. -/
theorem Stmt.Path.returned_iff {stmt : Stmt} {steps : List Stmt} {ending : Ending} :
    stmt.Path steps ending →
      (ending = .returned ↔ ∃ step ∈ steps, step.isReturn = true)
  | .step plain => by simp [Stmt.isReturn_of_isPlain plain]
  | .returnValue => by simp [Stmt.isReturn]
  | .branchBody bodyPath => bodyPath.returned_iff
  | .branchRest restPath => restPath.returned_iff
  | .loopDone => by simp
  | .loopReturn bodyPath => bodyPath.returned_iff
  | .loopAgain bodyPath loopPath =>
      Ending.returned_iff_of_append bodyPath.returned_iff loopPath.returned_iff

theorem Alternatives.Path.returned_iff {rest : Alternatives} {steps : List Stmt}
    {ending : Ending} :
    rest.Path steps ending → (ending = .returned ↔ ∃ step ∈ steps, step.isReturn = true)
  | .elifBody bodyPath => bodyPath.returned_iff
  | .elifRest restPath => restPath.returned_iff
  | .otherwise bodyPath => bodyPath.returned_iff

theorem Stmt.BlockPath.returned_iff {body steps : List Stmt} {ending : Ending} :
    Stmt.BlockPath body steps ending →
      (ending = .returned ↔ ∃ step ∈ steps, step.isReturn = true)
  | .nil => by simp
  | .stop stmtPath => stmtPath.returned_iff
  | .cons stmtPath laterPath =>
      Ending.returned_iff_of_append stmtPath.returned_iff laterPath.returned_iff

end

/-! ## The analysis is exact -/

mutual

/-- The analysis denies that a statement returns exactly if some path goes on after it. -/
theorem Stmt.returns_eq_false_iff (stmt : Stmt) :
    stmt.returns = false ↔ ∃ steps, stmt.Path steps .reachedEnd := by
  cases stmt with
  | branch span condition body rest =>
      rw [Stmt.returns, Bool.and_eq_false_iff, Stmt.blockReturns_eq_false_iff body,
        Alternatives.returns_eq_false_iff rest]
      constructor
      · rintro (⟨steps, bodyPath⟩ | ⟨steps, restPath⟩)
        · exact ⟨steps, .branchBody bodyPath⟩
        · exact ⟨steps, .branchRest restPath⟩
      · rintro ⟨steps, path⟩
        cases path with
        | step plain => cases plain
        | branchBody bodyPath => exact .inl ⟨steps, bodyPath⟩
        | branchRest restPath => exact .inr ⟨steps, restPath⟩
  | loop span condition body =>
      -- A loop may run no round at all, so the analysis need not look at its body.
      exact ⟨fun _ => ⟨[], .loopDone⟩, fun _ => rfl⟩
  | returnValue span value =>
      constructor
      · intro denied
        cases denied
      · rintro ⟨steps, ⟨plain⟩⟩
        cases plain
  | _ => exact ⟨fun _ => ⟨_, .step rfl⟩, fun _ => rfl⟩
termination_by structural stmt

theorem Alternatives.returns_eq_false_iff (rest : Alternatives) :
    rest.returns = false ↔ ∃ steps, rest.Path steps .reachedEnd := by
  cases rest with
  | elif condition body rest =>
      rw [Alternatives.returns, Bool.and_eq_false_iff, Stmt.blockReturns_eq_false_iff body,
        Alternatives.returns_eq_false_iff rest]
      constructor
      · rintro (⟨steps, bodyPath⟩ | ⟨steps, restPath⟩)
        · exact ⟨steps, .elifBody bodyPath⟩
        · exact ⟨steps, .elifRest restPath⟩
      · rintro ⟨steps, path⟩
        cases path with
        | elifBody bodyPath => exact .inl ⟨steps, bodyPath⟩
        | elifRest restPath => exact .inr ⟨steps, restPath⟩
  | otherwise body =>
      rw [Alternatives.returns, Stmt.blockReturns_eq_false_iff body]
      constructor
      · rintro ⟨steps, bodyPath⟩
        exact ⟨steps, .otherwise bodyPath⟩
      · rintro ⟨steps, path⟩
        cases path with
        | otherwise bodyPath => exact ⟨steps, bodyPath⟩
termination_by structural rest

theorem Stmt.blockReturns_eq_false_iff (body : List Stmt) :
    Stmt.blockReturns body = false ↔ ∃ steps, Stmt.BlockPath body steps .reachedEnd := by
  cases body with
  | nil => exact ⟨fun _ => ⟨[], .nil⟩, fun _ => rfl⟩
  | cons stmt later =>
      rw [Stmt.blockReturns, Bool.or_eq_false_iff, Stmt.returns_eq_false_iff stmt,
        Stmt.blockReturns_eq_false_iff later]
      constructor
      · rintro ⟨⟨steps, stmtPath⟩, more, laterPath⟩
        exact ⟨steps ++ more, .cons stmtPath laterPath⟩
      · rintro ⟨steps, path⟩
        cases path with
        | cons stmtPath laterPath => exact ⟨⟨_, stmtPath⟩, _, laterPath⟩
termination_by structural body

end

mutual

/-- A statement of which the analysis holds has a path, which returns. -/
theorem Stmt.exists_path_returned (stmt : Stmt) (returning : stmt.returns = true) :
    ∃ steps, stmt.Path steps .returned := by
  cases stmt with
  | branch span condition body rest =>
      rw [Stmt.returns, Bool.and_eq_true] at returning
      rcases Stmt.exists_blockPath_returned body returning.1 with ⟨steps, bodyPath⟩
      exact ⟨steps, .branchBody bodyPath⟩
  | returnValue span value => exact ⟨_, .returnValue⟩
  | _ => cases returning
termination_by structural stmt

theorem Stmt.exists_blockPath_returned (body : List Stmt)
    (returning : Stmt.blockReturns body = true) :
    ∃ steps, Stmt.BlockPath body steps .returned := by
  cases body with
  | nil => cases returning
  | cons stmt later =>
      cases stmtReturning : stmt.returns with
      | true =>
          rcases Stmt.exists_path_returned stmt stmtReturning with ⟨steps, stmtPath⟩
          exact ⟨steps, .stop stmtPath⟩
      | false =>
          rw [Stmt.blockReturns, stmtReturning, Bool.false_or] at returning
          rcases (Stmt.returns_eq_false_iff stmt).mp stmtReturning with ⟨steps, stmtPath⟩
          rcases Stmt.exists_blockPath_returned later returning with ⟨more, laterPath⟩
          exact ⟨steps ++ more, .cons stmtPath laterPath⟩
termination_by structural body

end

/-- Every block has a path. -/
theorem Stmt.exists_blockPath (body : List Stmt) :
    ∃ steps ending, Stmt.BlockPath body steps ending := by
  cases returning : Stmt.blockReturns body with
  | true =>
      rcases Stmt.exists_blockPath_returned body returning with ⟨steps, path⟩
      exact ⟨steps, .returned, path⟩
  | false =>
      rcases (Stmt.blockReturns_eq_false_iff body).mp returning with ⟨steps, path⟩
      exact ⟨steps, .reachedEnd, path⟩

/-- The analysis of returns is exact.  It holds of a block if and only if no path through
the block reaches the end without a `return` among its steps.  And there is always a path
for it to speak about. -/
theorem Stmt.blockReturns_iff_no_path_reaches_end (body : List Stmt) :
    (Stmt.blockReturns body = true ↔
      ¬ ∃ steps, Stmt.BlockPath body steps .reachedEnd ∧
        ∀ step ∈ steps, step.isReturn = false) ∧
    ∃ steps ending, Stmt.BlockPath body steps ending := by
  have silent : ∀ steps, Stmt.BlockPath body steps .reachedEnd →
      ∀ step ∈ steps, step.isReturn = false := by
    intro steps path step member
    cases returning : step.isReturn with
    | false => rfl
    | true => cases path.returned_iff.mpr ⟨step, member, returning⟩
  constructor
  · rw [← Bool.not_eq_false, Stmt.blockReturns_eq_false_iff]
    apply not_congr
    constructor
    · rintro ⟨steps, path⟩
      exact ⟨steps, path, silent steps path⟩
    · rintro ⟨steps, path, -⟩
      exact ⟨steps, path⟩
  · exact Stmt.exists_blockPath body

end SlotLang
