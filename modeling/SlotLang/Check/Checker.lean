import SlotLang.Check.Annotated
import SlotLang.Event
import SlotLang.Scopes

/-!
# The state of a check

Beside the active scopes, a checker keeps the return types of the functions whose
bodies are being checked.  Work on a tree from a given state ends in a checked
tree, which records the tree as it is then, the state, how the work ended, and
what was reported on the way.
-/

namespace SlotLang

/-- The active scopes, and the return types of the enclosing functions, the
innermost one first. -/
structure Checker where
  scopes : Scopes := []
  returnTypes : List Ty := []

/-- A tree after some work on it, the state that the work ended in, its outcome,
and the events on the way. -/
structure Checked (α : Type) where
  tree : α
  checker : Checker
  outcome : Except Failure Unit
  events : List Event

namespace Checked

variable {α β : Type}

/-- A tree that needed no work. -/
def done (checker : Checker) (tree : α) : Checked α :=
  { tree := tree, checker := checker, outcome := .ok (), events := [] }

/-- The outcome of a check that leaves the state alone. -/
def ofAnnotated (checker : Checker) (annotated : Annotated α Unit) : Checked α :=
  { tree := annotated.tree
    checker := checker
    outcome := annotated.result.mapError .rejected
    events := [] }

/-- Rebuild the tree around its checked parts. -/
def map (rebuild : α → β) (checked : Checked α) : Checked β :=
  { tree := rebuild checked.tree
    checker := checked.checker
    outcome := checked.outcome
    events := checked.events }

/-- Work on a second tree once the work on the first one has succeeded. -/
def andThen (first : Checked α) (untouched : β) (next : Checker → Checked β) :
    Checked (α × β) :=
  match first.outcome with
  | .error failure =>
      { tree := (first.tree, untouched)
        checker := first.checker
        outcome := .error failure
        events := first.events }
  | .ok () =>
      let second := next first.checker
      { tree := (first.tree, second.tree)
        checker := second.checker
        outcome := second.outcome
        events := first.events ++ second.events }

/-- After a success the work goes on from the state that it left. -/
theorem andThen_of_ok {first : Checked α} (succeeded : first.outcome = .ok ())
    (untouched : β) (next : Checker → Checked β) :
    first.andThen untouched next =
      { tree := (first.tree, (next first.checker).tree)
        checker := (next first.checker).checker
        outcome := (next first.checker).outcome
        events := first.events ++ (next first.checker).events } := by
  simp only [andThen, succeeded]

/-- After a failure the state and the second tree stay as they are. -/
theorem andThen_of_error {first : Checked α} {failure : Failure}
    (failed : first.outcome = .error failure) (untouched : β)
    (next : Checker → Checked β) :
    first.andThen untouched next =
      { tree := (first.tree, untouched)
        checker := first.checker
        outcome := .error failure
        events := first.events } := by
  simp only [andThen, failed]

/-- Work on a tree once the state has been prepared for it. -/
def followedBy (first : Checked Unit) (untouched : β) (next : Checker → Checked β) :
    Checked β :=
  (first.andThen untouched next).map Prod.snd

end Checked

namespace Checker

/-- The type that a `return` must have here; outside of functions it is null. -/
def expectedReturn (checker : Checker) : Ty :=
  checker.returnTypes.head?.getD .none

/-- Open a scope. -/
def enter (checker : Checker) : Checked Unit :=
  { tree := ()
    checker := { checker with scopes := checker.scopes.enter }
    outcome := .ok ()
    events := [.enteredScope checker.scopes.depth] }

/-- Close the innermost scope. -/
def leave (checker : Checker) : Checked Unit :=
  match checker.scopes.leave with
  | .error misuse =>
      { tree := (), checker := checker, outcome := .error (.misused misuse), events := [] }
  | .ok outer =>
      { tree := ()
        checker := { checker with scopes := outer }
        outcome := .ok ()
        events := [.leftScope outer.depth] }

/-- Bind a name in the innermost scope. -/
def define (name : String) (symbol : Symbol) (position : Position)
    (checker : Checker) : Checked Unit :=
  match checker.scopes.define name symbol position with
  | .error failure =>
      { tree := (), checker := checker, outcome := .error failure, events := [] }
  | .ok scopes =>
      { tree := ()
        checker := { checker with scopes := scopes }
        outcome := .ok ()
        events := [.defined symbol name (checker.scopes.depth - 1)] }

/-- Work in a scope of its own, which is closed again however the work ends. -/
def withScope {α : Type} (checker : Checker) (work : Checker → Checked α) :
    Checked α :=
  let opened := checker.enter
  let inside := work opened.checker
  let closed := inside.checker.leave
  { tree := inside.tree
    checker := closed.checker
    outcome := closed.outcome.bind fun _ => inside.outcome
    events := opened.events ++ inside.events ++ closed.events }

/-- Work on the body of a function with the given return type. -/
def expecting {α : Type} (returnType : Ty) (checker : Checker)
    (work : Checker → Checked α) : Checked α :=
  let inside := work { checker with returnTypes := returnType :: checker.returnTypes }
  { inside with
    checker :=
      { inside.checker with returnTypes := inside.checker.returnTypes.tail } }

end Checker

end SlotLang
