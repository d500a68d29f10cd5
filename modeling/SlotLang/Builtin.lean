import SlotLang.Tree.Ty

/-!
# Built-in functions

Built-ins are supplied by the host of the machine.  They are bound in no scope: a
call looks for a built-in of its name before it looks into the scopes.
-/

namespace SlotLang

/-- A function supplied by the host, with the number of its arguments, which may
have any type. -/
structure Builtin where
  name : String
  arity : Nat
  returnType : Ty
deriving DecidableEq, Repr

namespace Builtin

/-- The function that shows a value. -/
def print : Builtin :=
  { name := "print", arity := 1, returnType := .none }

/-- All built-ins. -/
def all : List Builtin :=
  [print]

/-- The built-in of a name. -/
def find? (name : String) : Option Builtin :=
  all.find? fun builtin => builtin.name = name

end Builtin

end SlotLang
