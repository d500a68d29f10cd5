import SlotLang.Check.Checker
import SlotLang.Tree.Stmt

/-!
# Declarations of a block

All declarations of a block stand before its other statements.  They are bound
before any statement is checked, so that a statement may use what is declared
later in its block.
-/

namespace SlotLang

/-! ## Order -/

/-- The first declaration that follows another kind of statement. -/
def lateDeclaration? (body : List Stmt) : Option Stmt :=
  (body.dropWhile Stmt.isDeclaration).find? Stmt.isDeclaration

/-- The declarations of a block must stand at its front. -/
def expectDeclarationsFirst (body : List Stmt) : Except Diagnostic Unit :=
  match lateDeclaration? body with
  | none => .ok ()
  | some stmt =>
      .error
        { cause := .lateDeclaration (stmt.declaredName?.getD "")
          position := stmt.start }

/-! ## Members of a class -/

namespace Members

/-- Whether a member has the given name; fields and methods share their names. -/
def contains (members : Members) (name : String) : Bool :=
  (members.field? name).isSome || (members.method? name).isSome

/-- Add entries of one kind to the members of a class, one after the other.  Their names
must be new. -/
def addAll {α : Type} (name : α → String) (position : α → Position)
    (extend : Members → List α → Members) (members : Members) :
    List α → Except Diagnostic Members
  | [] => .ok members
  | entry :: later =>
      if members.contains (name entry) then
        .error
          { cause := .duplicateDefinition (name entry), position := position entry }
      else
        addAll name position extend (extend members [entry]) later

/-- The members with more fields behind the others. -/
def withFields (members : Members) (fields : List VarDecl) : Members :=
  { members with
    fields := members.fields ++ fields.map fun field => (field.name, field.type) }

/-- The members with more methods behind the others. -/
def withMethods (members : Members) (methods : List FunctionDef) : Members :=
  { members with
    methods := members.methods ++
      methods.map fun method => (method.name, method.signature) }

/-- Add the fields of a class. -/
def addFields : Members → List VarDecl → Except Diagnostic Members :=
  addAll VarDecl.name (fun field => field.span.start) withFields

/-- Add the methods of a class. -/
def addMethods : Members → List FunctionDef → Except Diagnostic Members :=
  addAll FunctionDef.name (fun method => method.span.start) withMethods

end Members

/-- The members that a class declares, the fields before the methods. -/
def ClassDef.members (definition : ClassDef) : Except Diagnostic Members :=
  (Members.addFields {} definition.fields).bind fun members =>
    members.addMethods definition.methods

/-! ## Binding -/

namespace Checker

/-- Bind the name that a statement declares, if it is a declaration. -/
def declare (checker : Checker) : Stmt → Checked Unit
  | .varDecl declaration =>
      checker.define declaration.name (.ofVariable declaration.type)
        declaration.span.start
  | .functionDef definition =>
      checker.define definition.name (.ofFunction definition.signature)
        definition.span.start
  | .classDef definition =>
      match definition.members with
      | .error diagnostic =>
          { tree := ()
            checker := checker
            outcome := .error (.rejected diagnostic)
            events := [] }
      | .ok members =>
          checker.define definition.name (.ofClass members) definition.span.start
  | _ => .done checker ()

/-- Bind the names that the statements of a block declare. -/
def declareAll (checker : Checker) : List Stmt → Checked Unit
  | [] => .done checker ()
  | stmt :: later =>
      (checker.declare stmt).followedBy () fun checker => checker.declareAll later

/-- Bind the parameters of a function. -/
def declareParams (position : Position) (checker : Checker) :
    List Param → Checked Unit
  | [] => .done checker ()
  | param :: later =>
      (checker.define param.name (.ofVariable param.type) position).followedBy ()
        fun checker => checker.declareParams position later

/-- Start a block: its declarations must come first, and are then bound. -/
def openBlock (checker : Checker) (body : List Stmt) : Checked Unit :=
  match expectDeclarationsFirst body with
  | .error diagnostic =>
      { tree := ()
        checker := checker
        outcome := .error (.rejected diagnostic)
        events := [] }
  | .ok () => checker.declareAll body

/-- Work on the statements of a block once the block has been started. -/
def inBlock (checker : Checker) (body : List Stmt)
    (work : Checker → Checked (List Stmt)) : Checked (List Stmt) :=
  (checker.openBlock body).followedBy body work

end Checker

end SlotLang
