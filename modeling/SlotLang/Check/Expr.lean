import SlotLang.Check.Annotated
import SlotLang.Check.Rule

/-!
# Checking expressions

An expression is checked from the leaves upwards and from left to right.  Every
node that passes gets its type; the first fault ends the check.
-/

namespace SlotLang

mutual

/-- Check an expression in some scopes: fill its type slots and give its type. -/
def Expr.check (scopes : Scopes) : Expr → Annotated Expr Ty
  | .literal mark value =>
      (Annotated.plain () (.ok value.type)).settle mark fun mark _ =>
        .literal mark value
  | .name mark named =>
      (Annotated.plain () (scopes.variableType named mark.start)).settle mark
        fun mark _ => .name mark named
  | .unary mark op operand =>
      ((operand.check scopes).require (op.resultType operand.start)).settle mark
        fun mark operand => .unary mark op operand
  | .binary mark op left right =>
      ((left.check scopes).andThen right fun leftType =>
        (right.check scopes).require
          (op.resultType left.start right.start leftType)).settle mark
        fun mark operands => .binary mark op operands.1 operands.2
  | .call mark callee arguments =>
      (Annotated.after (scopes.callRule callee arguments.length mark.start) arguments
        fun rule =>
          (Expr.checkAll scopes rule.demands arguments).require
            fun _ => .ok rule.returnType).settle mark
        fun mark arguments => .call mark callee arguments
  | .field mark object member =>
      ((object.check scopes).require (scopes.fieldType member mark.start)).settle mark
        fun mark object => .field mark object member
  | .method mark object member arguments =>
      (((object.check scopes).require
        (scopes.methodRule member arguments.length mark.start)).andThen arguments
          fun rule =>
            (Expr.checkAll scopes rule.demands arguments).require
              fun _ => .ok rule.returnType).settle mark
        fun mark parts => .method mark parts.1 member parts.2

/-- Check the arguments of a call, each against what is asked of it. -/
def Expr.checkAll (scopes : Scopes) :
    List (Option Ty) → List Expr → Annotated (List Expr) Unit
  | _, [] => .plain [] (.ok ())
  | [], arguments => .plain arguments (.ok ())
  | demand :: demands, argument :: later =>
      (((argument.check scopes).require (expectDemand demand argument.start)).andThen
        later fun _ => Expr.checkAll scopes demands later).map
        fun parts => parts.1 :: parts.2

end

/-- A condition must be a truth value. -/
def Expr.checkCondition (scopes : Scopes) (condition : Expr) : Annotated Expr Unit :=
  (condition.check scopes).require fun actual =>
    expectType .bool actual condition.start

/-- The value of an assignment is checked before its target, which must be a name
or a field of the same type. -/
def Expr.checkAssignment (scopes : Scopes) (target value : Expr) :
    Annotated (Expr × Expr) Unit :=
  Annotated.after
    (if target.isAssignable then .ok ()
      else
        .error
          { cause := .badName target.describe .notAssignable, position := target.start })
    (target, value)
    fun _ =>
      ((value.check scopes).andThen target fun valueType =>
        (target.check scopes).require fun targetType =>
          expectType targetType valueType value.start).map
        fun parts => (parts.2, parts.1)

/-- The value of a `return` must have the type that the function around it
declares. -/
def Expr.checkReturn (scopes : Scopes) (expected : Ty) (value : Expr) :
    Annotated Expr Unit :=
  (value.check scopes).require fun actual => expectType expected actual value.start

end SlotLang
