import SlotLang.Tree.Stmt

/-!
# Symbols

A name in scope stands for a variable, a function or a class.
-/

namespace SlotLang

/-- The types of the parameters of a function and of its result.  The parameters
of a method start with its receiver. -/
structure Signature where
  params : List Ty
  returnType : Ty
deriving DecidableEq, Repr

/-- The fields and methods of a class, by name, in the order of declaration. -/
structure Members where
  fields : List (String × Ty) := []
  methods : List (String × Signature) := []
deriving DecidableEq, Repr

/-- The type of a field. -/
def Members.field? (members : Members) (name : String) : Option Ty :=
  members.fields.lookup name

/-- The signature of a method. -/
def Members.method? (members : Members) (name : String) : Option Signature :=
  members.methods.lookup name

/-- What a name stands for. -/
inductive Symbol where
  | ofVariable (type : Ty)
  | ofFunction (signature : Signature)
  | ofClass (members : Members)
deriving DecidableEq, Repr

/-- The kind of a symbol in one word. -/
def Symbol.kind : Symbol → String
  | ofVariable _ => "variable"
  | ofFunction _ => "function"
  | ofClass _ => "class"

/-- The signature that a definition declares. -/
def FunctionDef.signature (definition : FunctionDef) : Signature :=
  { params := definition.params.map Param.type
    returnType := definition.returnType }

end SlotLang
