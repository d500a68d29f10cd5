import SlotLang.Compiler
import SlotLang.Proofs.Lower.Lowered

/-!
# Emission

A compiler that lowers a tree emits the lowered code of the tree behind the code that it
has, up to the point where it gives up if it does, and changes nothing else.  The proof
goes through all forms of expressions and statements, with the places at which each of
them may end early.
-/

namespace SlotLang

/-! ## Work in sequence -/

namespace Compiler

/-- Work goes on with the compiler that the work before it left, unless that ended
early. -/
theorem run_bind {α β : Type} (compiler : Compiler) (work : Emitter α)
    (next : α → Emitter β) :
    compiler.run (work >>= next) =
      match compiler.run work with
      | (after, .ok value) => after.run (next value)
      | (after, .error diagnostic) => (after, .error diagnostic) := by
  simp only [run, ExceptT.run_bind, StateT.run_bind]
  rcases work.run.run compiler with ⟨_ | _, after⟩ <;> rfl

/-- Take over what is emitted for a tree. -/
def accept (compiler : Compiler) (lowered : Lowered) :
    Compiler × Except Diagnostic Unit :=
  ({ compiler with code := compiler.code ++ lowered.code }, lowered.outcome)

end Compiler

namespace Emitter

/-- With the given names, the work does nothing to a compiler but emit the given code, and
it ends early if the code does. -/
def Emits (scratch : String) (names : List String) (work : Emitter Unit)
    (lowered : Lowered) : Prop :=
  ∀ compiler : Compiler, compiler.scratch = scratch → compiler.slotNames = names →
    compiler.run work = compiler.accept lowered

namespace Emits

variable {scratch : String} {names : List String}

theorem nothing : Emits scratch names (pure ()) .nothing := by
  intro compiler _ _
  change (compiler, _) = _
  rw [Compiler.accept, Lowered.nothing, List.append_nil]

theorem instr (instr : Instr) : Emits scratch names (Emitter.emit instr) (.emit instr) := by
  intro compiler _ _
  rfl

theorem refuse (operation : String) (position : Position) :
    Emits scratch names (Emitter.refuse operation position)
      (.fail (.unsupported operation) position) := by
  intro compiler _ _
  change (compiler, _) = _
  rw [Compiler.accept, Lowered.fail, List.append_nil]

/-- The second part works on what the first has emitted, and is left out if the first
ended early. -/
theorem andThen {work next : Emitter Unit} {first second : Lowered}
    (early : Emits scratch names work first) (late : Emits scratch names next second) :
    Emits scratch names (work >>= fun _ => next) (first ++ second) := by
  intro compiler sameScratch sameNames
  rw [Compiler.run_bind, early compiler sameScratch sameNames]
  cases outcome : first.outcome with
  | error diagnostic =>
      rw [Lowered.append_of_error outcome]
      simp only [Compiler.accept, outcome]
  | ok =>
      rw [Lowered.append_of_ok outcome]
      have continued := late (compiler.accept first).1 sameScratch sameNames
      simp only [Compiler.accept, outcome, List.append_assoc] at continued ⊢
      exact continued

theorem onSlot (make : String → Instr) (name : String) (position : Position) :
    Emits scratch names (Emitter.onSlot make name position)
      (.onSlot names make name position) := by
  intro compiler _ sameNames
  subst sameNames
  change compiler.run (MonadExcept.ofExcept (slotOf compiler.slotNames name position) >>=
    fun slot => Emitter.emit (make slot)) = _
  rw [Lowered.onSlot]
  cases slotOf compiler.slotNames name position with
  | ok slot => rfl
  | error diagnostic =>
      change (compiler, _) = _
      rw [Compiler.accept, List.append_nil]

/-- The name of the scratch slot is read when its turn comes. -/
theorem onScratch (make : String → Instr) (position : Position) :
    Emits scratch names
      (get >>= fun compiler => Emitter.onSlot make compiler.scratch position)
      (.onSlot names make scratch position) := by
  intro compiler sameScratch sameNames
  rw [← sameScratch]
  exact onSlot make compiler.scratch position compiler rfl sameNames

end Emits

end Emitter

/-! ## Trees -/

section

open Emitter

variable {scratch : String} {names : List String}

mutual

theorem Expr.emits_emit (expr : Expr) :
    Emits scratch names expr.emit (expr.lower names) := by
  cases expr with
  | literal => exact .instr _
  | name => exact .onSlot _ _ _
  | unary mark op operand =>
      cases op with
      | neg => exact .andThen (.instr _) (.andThen operand.emits_emit (.instr _))
      | not => exact .refuse _ _
  | binary mark op left right =>
      rw [Expr.emit, Expr.lower]
      cases op.instr? with
      | none => exact .refuse _ _
      | some instr =>
          exact .andThen left.emits_emit (.andThen right.emits_emit (.instr _))
  | call mark callee arguments =>
      rw [Expr.emit, Expr.lower]
      cases Builtin.find? callee with
      | none => exact .refuse _ _
      | some builtin => exact .andThen (Expr.emits_emitAll arguments) (.instr _)
  | field => exact .refuse _ _
  | method => exact .refuse _ _
termination_by structural expr

theorem Expr.emits_emitAll (exprs : List Expr) :
    Emits scratch names (Expr.emitAll exprs) (Expr.lowerAll names exprs) := by
  cases exprs with
  | nil => exact .nothing
  | cons expr later => exact .andThen expr.emits_emit (Expr.emits_emitAll later)
termination_by structural exprs

end

theorem Stmt.emits_emit (stmt : Stmt) :
    Emits scratch names stmt.emit (stmt.lower scratch names) := by
  cases stmt with
  | varDecl declaration => exact .andThen declaration.value.emits_emit (.onSlot _ _ _)
  | assign span target value =>
      rw [Stmt.emit, Stmt.lower]
      cases target.name? with
      | none => exact .refuse _ _
      | some name => exact .andThen value.emits_emit (.onSlot _ _ _)
  | evaluate span value => exact .andThen value.emits_emit (.onScratch _ _)
  | pass => exact .nothing
  | _ => exact .refuse _ _

theorem Stmt.emits_emitAll (body : List Stmt) :
    Emits scratch names (Stmt.emitAll body) (Stmt.lowerAll scratch names body) := by
  induction body with
  | nil => exact .nothing
  | cons stmt later inductionHypothesis =>
      exact .andThen stmt.emits_emit inductionHypothesis

end

namespace Compiler

/-- A compiler that lowers an expression takes over the lowered code. -/
theorem lowerExpr_eq (compiler : Compiler) (expr : Expr) :
    compiler.lowerExpr expr = compiler.accept (expr.lower compiler.slotNames) :=
  expr.emits_emit compiler rfl rfl

/-- A compiler that lowers a statement takes over the lowered code. -/
theorem lowerStmt_eq (compiler : Compiler) (stmt : Stmt) :
    compiler.lowerStmt stmt =
      compiler.accept (stmt.lower compiler.scratch compiler.slotNames) :=
  stmt.emits_emit compiler rfl rfl

end Compiler

end SlotLang
