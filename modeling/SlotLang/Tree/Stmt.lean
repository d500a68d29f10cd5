import SlotLang.Tree.Expr

/-!
# Statements and blocks

A block is a list of statements.  Variable, function and class definitions are
the declarations of the block they stand in; all other statements execute.
-/

namespace SlotLang

/-- The declaration of a variable, or of a field of a class, with the value it
starts with. -/
structure VarDecl where
  span : Span
  name : String
  type : Ty
  value : Expr
deriving Repr

/-- A parameter of a function. -/
structure Param where
  name : String
  type : Ty
deriving DecidableEq, Repr

mutual

/-- Statements. -/
inductive Stmt where
  | varDecl (declaration : VarDecl)
  | functionDef (definition : FunctionDef)
  | classDef (definition : ClassDef)
  | assign (span : Span) (target value : Expr)
  | branch (span : Span) (condition : Expr) (body : List Stmt) (rest : Alternatives)
  | loop (span : Span) (condition : Expr) (body : List Stmt)
  | pass (span : Span)
  | returnValue (span : Span) (value : Expr)
  | evaluate (span : Span) (value : Expr)

/-- A function, or a method of a class.  The first parameter of a method is its
receiver. -/
structure FunctionDef where
  span : Span
  name : String
  params : List Param
  returnType : Ty
  body : List Stmt

/-- A class with its fields and methods. -/
structure ClassDef where
  span : Span
  name : String
  fields : List VarDecl
  methods : List FunctionDef

/-- What follows the first body of a branch: further conditions with their
bodies, and at the end the body for the case that none of them holds, which is
empty if the branch has no such case. -/
inductive Alternatives where
  | elif (condition : Expr) (body : List Stmt) (rest : Alternatives)
  | otherwise (body : List Stmt)

end

/-- A program is its outermost block. -/
abbrev Program := List Stmt

namespace Stmt

/-- The span of a statement. -/
def span : Stmt → Span
  | varDecl declaration => declaration.span
  | functionDef definition => definition.span
  | classDef definition => definition.span
  | assign span _ _ => span
  | branch span _ _ _ => span
  | loop span _ _ => span
  | pass span => span
  | returnValue span _ => span
  | evaluate span _ => span

/-- The position at which a statement starts. -/
def start (stmt : Stmt) : Position :=
  stmt.span.start

/-- The name that a statement declares, if it is a declaration. -/
def declaredName? : Stmt → Option String
  | varDecl declaration => some declaration.name
  | functionDef definition => some definition.name
  | classDef definition => some definition.name
  | _ => none

/-- Whether a statement is a declaration. -/
def isDeclaration (stmt : Stmt) : Bool :=
  stmt.declaredName?.isSome

end Stmt

/-! ## Traversal -/

mutual

/-- The expressions of a statement with all their parts, in source order. -/
def Stmt.preorder : Stmt → List Expr
  | .varDecl declaration => declaration.value.preorder
  | .functionDef definition => definition.preorder
  | .classDef definition => definition.preorder
  | .assign _ target value => target.preorder ++ value.preorder
  | .branch _ condition body rest =>
      condition.preorder ++ (Stmt.preorderAll body ++ rest.preorder)
  | .loop _ condition body => condition.preorder ++ Stmt.preorderAll body
  | .pass _ => []
  | .returnValue _ value => value.preorder
  | .evaluate _ value => value.preorder

/-- The expressions of a function's body. -/
def FunctionDef.preorder : FunctionDef → List Expr
  | ⟨_, _, _, _, body⟩ => Stmt.preorderAll body

/-- The expressions of a class: those of its fields, then those of its methods. -/
def ClassDef.preorder : ClassDef → List Expr
  | ⟨_, _, fields, methods⟩ =>
      fields.flatMap (fun field => field.value.preorder) ++
        FunctionDef.preorderAll methods

/-- The expressions of several functions, one after the other. -/
def FunctionDef.preorderAll : List FunctionDef → List Expr
  | [] => []
  | definition :: later => definition.preorder ++ FunctionDef.preorderAll later

/-- The expressions of the further cases of a branch. -/
def Alternatives.preorder : Alternatives → List Expr
  | .elif condition body rest =>
      condition.preorder ++ (Stmt.preorderAll body ++ rest.preorder)
  | .otherwise body => Stmt.preorderAll body

/-- The expressions of a block. -/
def Stmt.preorderAll : List Stmt → List Expr
  | [] => []
  | stmt :: later => stmt.preorder ++ Stmt.preorderAll later

end

/-! ## Paths through a block -/

mutual

/-- Whether every way through a statement ends in a `return`: it is one, or it is
a branch of which every case returns.  A loop may run no round and so never
counts. -/
def Stmt.returns : Stmt → Bool
  | .returnValue _ _ => true
  | .branch _ _ body rest => Stmt.blockReturns body && rest.returns
  | _ => false

/-- Whether every further case of a branch returns. -/
def Alternatives.returns : Alternatives → Bool
  | .elif _ body rest => Stmt.blockReturns body && rest.returns
  | .otherwise body => Stmt.blockReturns body

/-- Whether every way through a block ends in a `return`, which is so when one of
its statements returns. -/
def Stmt.blockReturns : List Stmt → Bool
  | [] => false
  | stmt :: later => stmt.returns || Stmt.blockReturns later

end

end SlotLang
