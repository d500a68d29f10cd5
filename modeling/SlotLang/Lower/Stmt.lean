import SlotLang.Lower.Expr
import SlotLang.Tree.Stmt

/-!
# Lowering statements

A statement that sets a variable stores its value in the variable's slot.  The
value of an expression that stands by itself goes to the scratch slot.  Control
flow and definitions have no instructions.
-/

namespace SlotLang.Stmt

/-- Emit the code of a statement. -/
def emit : Stmt → Emitter Unit
  | varDecl declaration => do
      declaration.value.emit
      Emitter.onSlot .storeLocal declaration.name declaration.span.start
  | assign span target value =>
      match target.name? with
      | none => Emitter.refuse ("assignment to " ++ target.describe) span.start
      | some name => do
          value.emit
          Emitter.onSlot .storeLocal name target.start
  | evaluate span value => do
      value.emit
      let compiler ← get
      Emitter.onSlot .storeLocal compiler.scratch span.start
  | pass _ => pure ()
  | functionDef definition =>
      Emitter.refuse ("function definition `" ++ definition.name ++ "`")
        definition.span.start
  | classDef definition =>
      Emitter.refuse ("class definition `" ++ definition.name ++ "`")
        definition.span.start
  | branch span _ _ _ => Emitter.refuse "if statement" span.start
  | loop span _ _ => Emitter.refuse "while loop" span.start
  | returnValue span _ => Emitter.refuse "return statement" span.start

/-- Emit the code of the statements of a block in order. -/
def emitAll : List Stmt → Emitter Unit
  | [] => pure ()
  | stmt :: later => do
      stmt.emit
      emitAll later

end SlotLang.Stmt
