import SlotLang.Check.Program
import SlotLang.Lower.Slots
import SlotLang.Lower.Stmt

/-!
# Compiling programs

The code of a program declares all its slots and then runs its statements.  A
compiler collects instructions in front of those of the program, and may be used
to lower single statements and expressions.
-/

namespace SlotLang

namespace Compiler

/-- Lower one expression. -/
def lowerExpr (compiler : Compiler) (expr : Expr) :
    Compiler × Except Diagnostic Unit :=
  compiler.run expr.emit

/-- Lower one statement. -/
def lowerStmt (compiler : Compiler) (stmt : Stmt) :
    Compiler × Except Diagnostic Unit :=
  compiler.run stmt.emit

/-- Give out the slots of a block, the scratch slot last if it is needed. -/
def allocateSlots (compiler : Compiler) (body : List Stmt) : Compiler :=
  let walk := Stmt.collectSlotsAll { compiler := compiler } body
  if walk.needsScratch then walk.compiler.allocate walk.compiler.scratch
  else walk.compiler

/-- Give out the slots of a block, and emit declarations of all slots. -/
def declareSlots (compiler : Compiler) (body : List Stmt) : Compiler :=
  let allocated := compiler.allocateSlots body
  allocated.slots.foldl (fun compiler slot => compiler.emit (.localDeclare slot)) allocated

/-- The code of a whole program, after what was emitted before.  There is none
unless every statement lowers. -/
def compile (compiler : Compiler) (program : Program) :
    Except Diagnostic (List Instr) :=
  let (after, outcome) := (compiler.declareSlots program).run (Stmt.emitAll program)
  outcome.map fun _ => after.code

/-- What is reported while a program is compiled. -/
def events (compiler : Compiler) (program : Program) : List Event :=
  [.generating program.length, .allocated (compiler.declareSlots program).slots] ++
    match compiler.compile program with
    | .ok code => [.generated code.length]
    | .error _ => []

end Compiler

/-- Check a program and compile it. -/
def Program.compile (scratch : String) (program : Program) :
    Except Failure (List Instr) :=
  program.typed.bind fun typed =>
    (({ scratch := scratch } : Compiler).compile typed).mapError .rejected

/-- What is reported while a program is checked and compiled. -/
def Program.compileEvents (scratch : String) (program : Program) : List Event :=
  program.check.events ++
    match program.typed with
    | .ok typed => ({ scratch := scratch } : Compiler).events typed
    | .error _ => []

end SlotLang
