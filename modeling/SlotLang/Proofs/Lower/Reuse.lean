import SlotLang.Proofs.Lower.Allocation

/-!
# Compilers in use

Before a program is compiled, a compiler may lower expressions and statements of any kind
and emit single instructions.  Whatever it is asked to do, and even if it gives up halfway,
it only appends to the code, and its slots stay as they were.  So a used compiler differs
from a fresh one in its code alone, and compiles a program as the fresh one does, behind
that code.
-/

namespace SlotLang.Compiler

/-! ## Tasks -/

/-- A compiler may have got more code, and is the same otherwise. -/
structure OnlyAppends (compiler later : Compiler) : Prop where
  code : compiler.code <+: later.code
  slots : later.slots = compiler.slots
  slotNames : later.slotNames = compiler.slotNames
  scratch : later.scratch = compiler.scratch

namespace OnlyAppends

theorem refl (compiler : Compiler) : OnlyAppends compiler compiler :=
  ⟨List.prefix_refl _, rfl, rfl, rfl⟩

theorem trans {first second third : Compiler} (early : OnlyAppends first second)
    (late : OnlyAppends second third) : OnlyAppends first third where
  code := early.code.trans late.code
  slots := late.slots.trans early.slots
  slotNames := late.slotNames.trans early.slotNames
  scratch := late.scratch.trans early.scratch

end OnlyAppends

/-- What a compiler may be asked to do besides compiling a program. -/
inductive Task where
  | emit (instr : Instr)
  | lowerExpr (expr : Expr)
  | lowerStmt (stmt : Stmt)

/-- The compiler after a task, and whether it could do all of it. -/
def perform (compiler : Compiler) : Task → Compiler × Except Diagnostic Unit
  | .emit instr => (compiler.emit instr, .ok ())
  | .lowerExpr expr => compiler.lowerExpr expr
  | .lowerStmt stmt => compiler.lowerStmt stmt

/-- The compiler after several tasks, each of which is taken up whatever became of those
before it. -/
def performAll (compiler : Compiler) (tasks : List Task) : Compiler :=
  tasks.foldl (fun compiler task => (compiler.perform task).1) compiler

/-- What is emitted for a tree is taken over behind the code that was there, also if it
is not all of it. -/
theorem onlyAppends_accept (compiler : Compiler) (lowered : Lowered) :
    compiler.OnlyAppends (compiler.accept lowered).1 :=
  ⟨List.prefix_append _ _, rfl, rfl, rfl⟩

theorem onlyAppends_perform (compiler : Compiler) (task : Task) :
    compiler.OnlyAppends (compiler.perform task).1 := by
  cases task with
  | emit instr => exact ⟨List.prefix_append _ _, rfl, rfl, rfl⟩
  | lowerExpr expr =>
      rw [perform, lowerExpr_eq]
      exact compiler.onlyAppends_accept _
  | lowerStmt stmt =>
      rw [perform, lowerStmt_eq]
      exact compiler.onlyAppends_accept _

theorem onlyAppends_performAll (compiler : Compiler) (tasks : List Task) :
    compiler.OnlyAppends (compiler.performAll tasks) := by
  induction tasks generalizing compiler with
  | nil => exact .refl compiler
  | cons task later inductionHypothesis =>
      exact (compiler.onlyAppends_perform task).trans (inductionHypothesis _)

/-- Nothing remains of the tasks of a compiler but code. -/
theorem performAll_eq (compiler : Compiler) (tasks : List Task) :
    compiler.performAll tasks =
      { compiler with code := (compiler.performAll tasks).code } := by
  have appended := compiler.onlyAppends_performAll tasks
  generalize compiler.performAll tasks = used at appended ⊢
  rcases used with ⟨scratch, slots, slotNames, code⟩
  cases appended.scratch
  cases appended.slots
  cases appended.slotNames
  rfl

/-! ## Programs -/

/-- The compiler with more code in front of its own. -/
def behind (front : List Instr) (compiler : Compiler) : Compiler :=
  { compiler with code := front ++ compiler.code }

theorem behind_allocate (front : List Instr) (compiler : Compiler) (name : String) :
    (compiler.behind front).allocate name = (compiler.allocate name).behind front := by
  by_cases slotted : name ∈ compiler.slotNames <;> simp [allocate, behind, slotted]

theorem behind_foldl_allocate (front : List Instr) (compiler : Compiler)
    (names : List String) :
    names.foldl allocate (compiler.behind front) =
      (names.foldl allocate compiler).behind front := by
  induction names generalizing compiler with
  | nil => rfl
  | cons name later inductionHypothesis =>
      rw [List.foldl_cons, behind_allocate, inductionHypothesis, List.foldl_cons]

/-- Which slots are given out does not depend on the code emitted before. -/
theorem behind_allocateSlots (front : List Instr) (compiler : Compiler)
    (body : List Stmt) :
    (compiler.behind front).allocateSlots body =
      (compiler.allocateSlots body).behind front := by
  rw [allocateSlots_eq, allocateSlots_eq, behind_foldl_allocate]
  cases Stmt.anyUsesScratch body with
  | false => rfl
  | true => exact behind_allocate ..

theorem behind_declareSlots (front : List Instr) (compiler : Compiler)
    (body : List Stmt) :
    (compiler.behind front).declareSlots body =
      (compiler.declareSlots body).behind front := by
  rw [declareSlots_eq, declareSlots_eq, behind_allocateSlots]
  simp only [behind, List.append_assoc]

/-- The slots of a program and its code are settled by the slots that were there before,
and the code that was there before stays in front. -/
theorem behind_compile (front : List Instr) (compiler : Compiler) (program : Program) :
    (compiler.behind front).compile program =
      (compiler.compile program).map (front ++ ·) := by
  rw [compile_eq, compile_eq, behind_declareSlots]
  generalize compiler.declareSlots program = declared
  simp only [behind]
  cases (Stmt.lowerAll declared.scratch declared.slotNames program).outcome with
  | error diagnostic => rfl
  | ok => simp only [Except.map, List.append_assoc]

/-- Lowering a statement or an expression only appends code, whatever its outcome.  After
any tasks, with any outcomes, a compiler compiles a program if a fresh one does, to the
same code behind its own; and otherwise it is refused for the same fault. -/
theorem used_compiles_like_fresh :
    (∀ (compiler : Compiler) (stmt : Stmt),
      compiler.OnlyAppends (compiler.lowerStmt stmt).1) ∧
    (∀ (compiler : Compiler) (expr : Expr),
      compiler.OnlyAppends (compiler.lowerExpr expr).1) ∧
    ∀ (scratch : String) (tasks : List Task) (program : Program),
      (({ scratch := scratch } : Compiler).performAll tasks).compile program =
        (({ scratch := scratch } : Compiler).compile program).map
          ((({ scratch := scratch } : Compiler).performAll tasks).code ++ ·) := by
  constructor
  · intro compiler stmt
    exact compiler.onlyAppends_perform (.lowerStmt stmt)
  constructor
  · intro compiler expr
    exact compiler.onlyAppends_perform (.lowerExpr expr)
  · intro scratch tasks program
    have used : ({ scratch := scratch } : Compiler).performAll tasks =
        ({ scratch := scratch } : Compiler).behind
          (({ scratch := scratch } : Compiler).performAll tasks).code := by
      rw [behind, List.append_nil]
      exact performAll_eq _ _
    rw [← behind_compile, ← used]

/-- A sum is given up at its second operand, and the code of the first one stays in front
of the program that is compiled next. -/
example :
    let mark : Mark := { span := .null }
    let literal : Expr := .literal mark (.number 1)
    let used := ({} : Compiler).performAll
      [.lowerExpr (.binary mark .add literal (.name mark "missing"))]
    used.code = [.pushConstant 1] ∧
      used.compile [.evaluate .null literal] =
        .ok [.pushConstant 1, .localDeclare "$last", .pushConstant 1, .storeLocal "$last"] :=
  ⟨rfl, rfl⟩

end SlotLang.Compiler
