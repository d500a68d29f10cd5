import SlotLang.Check.Stmt

/-!
# Checking programs

A program is checked as one block in a single outermost scope.
-/

namespace SlotLang.Program

/-- Check a program, and report what happens on the way. -/
def check (program : Program) : Checked Program :=
  let opened := ({} : Checker).enter
  let checked := opened.followedBy program fun checker => checker.checkBlock program
  { checked with
    events :=
      .checking program.length :: checked.events ++
        match checked.outcome with
        | .ok () => [.checked]
        | .error _ => [] }

/-- The program with every type slot filled, if nothing is wrong with it. -/
def typed (program : Program) : Except Failure Program :=
  let checked := program.check
  checked.outcome.map fun _ => checked.tree

end SlotLang.Program
