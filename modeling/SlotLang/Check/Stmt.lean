import SlotLang.Check.Declaration
import SlotLang.Check.VarDecl

/-!
# Checking statements

The bodies of branches and loops are blocks of the scope around them, so what
they declare stays visible afterwards.  The body of a function is checked in a
scope of its own.
-/

namespace SlotLang

/-! ## Headers of functions -/

/-- Every one of several types must exist. -/
def Scopes.resolveAll (scopes : Scopes) (position : Position) :
    List Ty → Except Diagnostic Unit
  | [] => .ok ()
  | type :: later =>
      (scopes.resolve position type).bind fun _ => scopes.resolveAll position later

namespace FunctionDef

/-- The position at which a function starts. -/
def start (definition : FunctionDef) : Position :=
  definition.span.start

/-- A function that has a result must return on every way through its body. -/
def expectReturns (definition : FunctionDef) : Except Diagnostic Unit :=
  if definition.returnType = .none || Stmt.blockReturns definition.body then .ok ()
  else
    .error
      { cause := .missingReturn definition.name, position := definition.start }

/-- What is asked of a function before its body is looked at: its types exist,
and it returns on every way. -/
def expectHeader (scopes : Scopes) (definition : FunctionDef) :
    Except Diagnostic Unit :=
  (scopes.resolveAll definition.start
    (definition.params.map Param.type ++ [definition.returnType])).bind
      fun _ => definition.expectReturns

end FunctionDef

/-- Work on the body of a function: in a scope of its own, with the parameters
bound, as a block. -/
def Checker.inFunction (checker : Checker) (definition : FunctionDef)
    (work : Checker → Checked (List Stmt)) : Checked FunctionDef :=
  match definition.expectHeader checker.scopes with
  | .error diagnostic =>
      { tree := definition
        checker := checker
        outcome := .error (.rejected diagnostic)
        events := [] }
  | .ok () =>
      (checker.expecting definition.returnType fun checker =>
        checker.withScope fun checker =>
          (checker.declareParams definition.start definition.params).followedBy
            definition.body fun checker => checker.inBlock definition.body work).map
        fun body => { definition with body := body }

/-! ## Statements -/

mutual

/-- Check a statement.  The names it declares are bound already. -/
def Stmt.check (checker : Checker) : Stmt → Checked Stmt
  | .varDecl declaration =>
      (Checked.ofAnnotated checker (declaration.check checker.scopes)).map .varDecl
  | .functionDef definition => (definition.check checker).map .functionDef
  | .classDef definition => (definition.check checker).map .classDef
  | .assign span target value =>
      (Checked.ofAnnotated checker
        (Expr.checkAssignment checker.scopes target value)).map
        fun parts => .assign span parts.1 parts.2
  | .branch span condition body rest =>
      (((Checked.ofAnnotated checker (condition.checkCondition checker.scopes)).andThen
        body fun checker => checker.inBlock body
          fun checker => Stmt.checkAll checker body).andThen
        rest fun checker => rest.check checker).map
        fun parts => .branch span parts.1.1 parts.1.2 parts.2
  | .loop span condition body =>
      ((Checked.ofAnnotated checker (condition.checkCondition checker.scopes)).andThen
        body fun checker => checker.inBlock body
          fun checker => Stmt.checkAll checker body).map
        fun parts => .loop span parts.1 parts.2
  | .pass span => .done checker (.pass span)
  | .returnValue span value =>
      (Checked.ofAnnotated checker
        (value.checkReturn checker.scopes checker.expectedReturn)).map
        (.returnValue span)
  | .evaluate span value =>
      (Checked.ofAnnotated checker
        ((value.check checker.scopes).require fun _ => .ok ())).map
        (.evaluate span)

/-- Check a function or a method. -/
def FunctionDef.check (checker : Checker) : FunctionDef → Checked FunctionDef
  | ⟨span, name, params, returnType, body⟩ =>
      checker.inFunction ⟨span, name, params, returnType, body⟩
        fun checker => Stmt.checkAll checker body

/-- Check a class: its fields, then its methods. -/
def ClassDef.check (checker : Checker) : ClassDef → Checked ClassDef
  | ⟨span, name, fields, methods⟩ =>
      ((Checked.ofAnnotated checker (VarDecl.checkAll checker.scopes fields)).andThen
        methods fun checker => FunctionDef.checkAll checker methods).map
        fun parts => ⟨span, name, parts.1, parts.2⟩

/-- Check several functions in order. -/
def FunctionDef.checkAll (checker : Checker) :
    List FunctionDef → Checked (List FunctionDef)
  | [] => .done checker []
  | definition :: later =>
      ((definition.check checker).andThen later
        fun checker => FunctionDef.checkAll checker later).map
        fun parts => parts.1 :: parts.2

/-- Check the further cases of a branch. -/
def Alternatives.check (checker : Checker) : Alternatives → Checked Alternatives
  | .elif condition body rest =>
      (((Checked.ofAnnotated checker (condition.checkCondition checker.scopes)).andThen
        body fun checker => checker.inBlock body
          fun checker => Stmt.checkAll checker body).andThen
        rest fun checker => rest.check checker).map
        fun parts => .elif parts.1.1 parts.1.2 parts.2
  | .otherwise body =>
      (checker.inBlock body fun checker => Stmt.checkAll checker body).map .otherwise

/-- Check the statements of a block in order. -/
def Stmt.checkAll (checker : Checker) : List Stmt → Checked (List Stmt)
  | [] => .done checker []
  | stmt :: later =>
      ((stmt.check checker).andThen later
        fun checker => Stmt.checkAll checker later).map
        fun parts => parts.1 :: parts.2

end

/-- Check a block in the innermost active scope. -/
def Checker.checkBlock (checker : Checker) (body : List Stmt) : Checked (List Stmt) :=
  checker.inBlock body fun checker => Stmt.checkAll checker body

end SlotLang
