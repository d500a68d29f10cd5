import SlotLang.Diagnostic
import SlotLang.Symbol
import SlotLang.Table

/-!
# Nested scopes

Variables, functions and classes share one stack of frames.  A name is looked up
from the innermost frame outwards, and is defined in the innermost frame, where
it must be new.  Leaving a scope, or defining a name, asks for a scope to be
active; to do so without one is a misuse by the caller and not a fault of the
program that is being checked.
-/

namespace SlotLang

/-- A use of the scopes that the caller must rule out. -/
inductive Misuse where
  | leaveWithoutScope
  | defineWithoutScope (name : String)
deriving DecidableEq, Repr

/-- A misuse in words. -/
def Misuse.message : Misuse → String
  | leaveWithoutScope => "Cannot exit a scope when no scope is active"
  | defineWithoutScope name => "Cannot define `" ++ name ++ "` when no scope is active"

/-- Why an operation on scopes did not succeed: the program was refused, or the
scopes were misused. -/
inductive Failure where
  | rejected (diagnostic : Diagnostic)
  | misused (misuse : Misuse)
deriving DecidableEq, Repr

/-- The names bound in one scope. -/
abbrev Frame := Table Symbol

/-- The frames of the active scopes, the innermost one first. -/
abbrev Scopes := List Frame

namespace Scopes

/-- The number of active scopes. -/
def depth (scopes : Scopes) : Nat :=
  scopes.length

/-- Open a scope in which nothing is bound yet. -/
def enter (scopes : Scopes) : Scopes :=
  ∅ :: scopes

/-- Close the innermost scope. -/
def leave : Scopes → Except Misuse Scopes
  | [] => .error .leaveWithoutScope
  | _ :: outer => .ok outer

/-- Bind a name in the innermost scope, where it must not be bound yet. -/
def define (name : String) (symbol : Symbol) (position : Position) :
    Scopes → Except Failure Scopes
  | [] => .error (.misused (.defineWithoutScope name))
  | frame :: outer =>
      if frame.contains name then
        .error (.rejected { cause := .duplicateDefinition name, position := position })
      else
        .ok (frame.insert name symbol :: outer)

/-- The innermost binding of a name. -/
def lookup? (scopes : Scopes) (name : String) : Option Symbol :=
  scopes.findSome? fun frame => frame.get? name

/-- The binding of a name in the innermost scope alone. -/
def innermost? (scopes : Scopes) (name : String) : Option Symbol :=
  scopes.head?.bind fun frame => frame.get? name

/-- Leaving undoes entering. -/
@[simp]
theorem leave_enter (scopes : Scopes) : scopes.enter.leave = .ok scopes :=
  rfl

/-- A fresh scope hides nothing. -/
@[simp]
theorem lookup?_enter (scopes : Scopes) (name : String) :
    scopes.enter.lookup? name = scopes.lookup? name :=
  rfl

/-! ## What a name denotes -/

/-- The type of the variable that a name denotes. -/
def variableType (scopes : Scopes) (name : String) (position : Position) :
    Except Diagnostic Ty :=
  match scopes.lookup? name with
  | some (.ofVariable type) => .ok type
  | some _ => .error { cause := .badName name .notVariable, position := position }
  | none => .error { cause := .badName name .notDefined, position := position }

/-- The signature of the function that a name denotes. -/
def functionSignature (scopes : Scopes) (name : String) (position : Position) :
    Except Diagnostic Signature :=
  match scopes.lookup? name with
  | some (.ofFunction signature) => .ok signature
  | some _ => .error { cause := .badName name .notFunction, position := position }
  | none => .error { cause := .badName name .notDefined, position := position }

/-- The members of the class that a name denotes. -/
def classMembers (scopes : Scopes) (name : String) (position : Position) :
    Except Diagnostic Members :=
  match scopes.lookup? name with
  | some (.ofClass members) => .ok members
  | some _ => .error { cause := .badName name .notClass, position := position }
  | none => .error { cause := .badName name .notDefined, position := position }

/-- A type written in a program must exist: a class type needs its class. -/
def resolve (scopes : Scopes) (position : Position) : Ty → Except Diagnostic Unit
  | .object className => (scopes.classMembers className position).map fun _ => ()
  | _ => .ok ()

/-- The class behind the type of an object, of which the named member is wanted:
its name and its members. -/
def membersOf (scopes : Scopes) (type : Ty) (member : String) (position : Position) :
    Except Diagnostic (String × Members) :=
  match type with
  | .object className =>
      (scopes.classMembers className position).map fun members => (className, members)
  | _ =>
      .error
        { cause := .badName (type.text ++ "." ++ member) .notClass, position := position }

end Scopes

end SlotLang
