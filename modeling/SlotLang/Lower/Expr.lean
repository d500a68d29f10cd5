import SlotLang.Builtin
import SlotLang.Lower.Emitter
import SlotLang.Tree.Expr

/-!
# Lowering expressions

The code of an expression leaves the value of the expression on the stack and the
rest of the stack as it was.  Only integer arithmetic, variables and calls of
built-ins have instructions.
-/

namespace SlotLang

/-- The instruction of an operator, if it has one. -/
def BinaryOp.instr? : BinaryOp → Option Instr
  | add => some .add
  | sub => some .sub
  | mul => some .mul
  | _ => none

mutual

/-- Emit the code of an expression.  A construct without instructions is refused
before anything is emitted for its parts. -/
def Expr.emit : Expr → Emitter Unit
  | .literal _ value => Emitter.emit (.pushConstant value.word)
  | .name mark named => Emitter.onSlot .loadLocal named mark.start
  | .unary _ .neg operand => do
      Emitter.emit (.pushConstant 0)
      operand.emit
      Emitter.emit .sub
  | .unary mark .not operand =>
      Emitter.refuse (Expr.unary mark .not operand).describe mark.start
  | .binary mark op left right =>
      match op.instr? with
      | none => Emitter.refuse (Expr.binary mark op left right).describe mark.start
      | some instr => do
          left.emit
          right.emit
          Emitter.emit instr
  | .call mark callee arguments =>
      match Builtin.find? callee with
      | none => Emitter.refuse (Expr.call mark callee arguments).describe mark.start
      | some _ => do
          Expr.emitAll arguments
          Emitter.emit (.call callee)
  | .field mark object member =>
      Emitter.refuse (Expr.field mark object member).describe mark.start
  | .method mark object member arguments =>
      Emitter.refuse (Expr.method mark object member arguments).describe mark.start

/-- Emit the code of several expressions, one after the other. -/
def Expr.emitAll : List Expr → Emitter Unit
  | [] => pure ()
  | expr :: later => do
      expr.emit
      Expr.emitAll later

end

end SlotLang
