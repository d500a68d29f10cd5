import SlotLang.Check.Expr
import SlotLang.Tree.Stmt

/-!
# Checking variable declarations

The type of a variable must exist, and its first value must be a literal that the
type accepts.  Fields of a class are declared in the same way.
-/

namespace SlotLang

/-- The first value of a variable must be a literal. -/
def Expr.expectLiteral (value : Expr) : Except Diagnostic Unit :=
  if value.isLiteral then .ok ()
  else
    .error
      { cause := .typeMismatch "literal" value.describe, position := value.start }

namespace VarDecl

/-- The first value of a variable must be accepted by its type. -/
def expectAccepted (declaration : VarDecl) (actual : Ty) : Except Diagnostic Unit :=
  if declaration.type.acceptsInitialiser actual then .ok ()
  else
    .error
      { cause := .typeMismatch declaration.type.text actual.text
        position := declaration.value.start }

/-- Check the declaration of a variable. -/
def check (scopes : Scopes) (declaration : VarDecl) : Annotated VarDecl Unit :=
  (Annotated.after
    ((scopes.resolve declaration.span.start declaration.type).bind
      fun _ => declaration.value.expectLiteral)
    declaration.value
    fun _ =>
      (declaration.value.check scopes).require declaration.expectAccepted).map
    fun value => { declaration with value := value }

/-- Check several declarations in order. -/
def checkAll (scopes : Scopes) : List VarDecl → Annotated (List VarDecl) Unit
  | [] => .plain [] (.ok ())
  | declaration :: later =>
      ((declaration.check scopes).andThen later fun _ => checkAll scopes later).map
        fun parts => parts.1 :: parts.2

end VarDecl

end SlotLang
