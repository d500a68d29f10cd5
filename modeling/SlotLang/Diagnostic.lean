import SlotLang.Position
import SlotLang.Text.Quoted

/-!
# Diagnostics

A diagnostic is a cause together with the position it concerns.  The cause alone
decides the label, the message and the tip that go with it; all wording is
collected here.
-/

namespace SlotLang

/-- What is wrong with a name. -/
inductive NameFault where
  | notDefined
  | notVariable
  | notFunction
  | notClass
  | noSuchField (className : String)
  | noSuchMethod (className : String)
  | notAssignable
deriving DecidableEq, Repr

/-- The fault in words that follow the name. -/
def NameFault.text : NameFault → String
  | notDefined => "is not defined"
  | notVariable => "is not a variable"
  | notFunction => "is not a function"
  | notClass => "is not a class"
  | noSuchField className => "is not a field of class `" ++ className ++ "`"
  | noSuchMethod className => "is not a method of class `" ++ className ++ "`"
  | notAssignable => "cannot be assigned to"

/-- The reasons for which a program, a listing or a run is refused. -/
inductive Cause where
  /-- A name does not denote what its place asks for. -/
  | badName (name : String) (fault : NameFault)
  /-- A value of one type stands where another is expected. -/
  | typeMismatch (expected received : String)
  /-- A name is bound twice in one scope or one class. -/
  | duplicateDefinition (name : String)
  /-- A function with a result may end without a `return`. -/
  | missingReturn (function : String)
  /-- A declaration follows an executing statement of its block. -/
  | lateDeclaration (name : String)
  /-- A call has the wrong number of arguments. -/
  | arityMismatch (callee : String) (expected received : Nat)
  /-- A construct has no counterpart among the instructions. -/
  | unsupported (operation : String)
  /-- A name has no slot. -/
  | unboundLocal (name : String)
  /-- A line of a listing is no instruction. -/
  | malformedInstruction (line : String)
  /-- An instruction finds too few operands. -/
  | stackUnderflow (instruction : String)
  /-- A call names no linked function. -/
  | unknownFunction (name : String)
  /-- An instruction uses a local that was not declared. -/
  | undeclaredLocal (name : String)
deriving DecidableEq, Repr

namespace Cause

/-- The name of the kind of a cause. -/
def label : Cause → String
  | badName _ _ => "NameError"
  | typeMismatch _ _ => "TypeMismatch"
  | duplicateDefinition _ => "DuplicateDefinition"
  | missingReturn _ => "MissingReturn"
  | lateDeclaration _ => "DefinitionOrderError"
  | arityMismatch _ _ _ => "ArityMismatch"
  | unsupported _ => "UnsupportedOperation"
  | unboundLocal _ => "UnboundLocal"
  | malformedInstruction _ => "MalformedInstruction"
  | stackUnderflow _ => "StackUnderflow"
  | unknownFunction _ => "UnknownFunction"
  | undeclaredLocal _ => "UndeclaredLocal"

/-- A cause in one sentence. -/
def message : Cause → String
  | badName name fault => "name error: " ++ Text.quoted name ++ " " ++ fault.text
  | typeMismatch expected received =>
      "types do not match: expected " ++ Text.quoted expected ++ ", received " ++
        Text.quoted received
  | duplicateDefinition name => Text.quoted name ++ " already defined in this scope"
  | missingReturn function =>
      "function " ++ Text.quoted function ++ " is missing a return on some path"
  | lateDeclaration name =>
      "declaration of " ++ Text.quoted name ++ " follows a non-declaration statement"
  | arityMismatch callee expected received =>
      Text.quoted callee ++ " expects " ++ expected.repr ++ " arguments, received " ++
        received.repr
  | unsupported operation => "unsupported operation: " ++ operation
  | unboundLocal name => "no local slot allocated for " ++ Text.quoted name
  | malformedInstruction line => "malformed instruction: " ++ Text.quoted line
  | stackUnderflow instruction => "operand stack underflow at " ++ instruction
  | unknownFunction name => "unknown host function " ++ Text.quoted name
  | undeclaredLocal name => "local " ++ Text.quoted name ++ " was never declared"

/-- A hint for the reader.  Faults that no program of the language can bring
about by itself have none. -/
def tip? : Cause → Option String
  | badName name fault => some ("`" ++ name ++ "` " ++ fault.text)
  | typeMismatch expected received =>
      some ("Expected type `" ++ expected ++ "`, received `" ++ received ++ "`")
  | duplicateDefinition name =>
      some ("`" ++ name ++ "` is already defined in this scope")
  | missingReturn function =>
      some ("Not every path through `" ++ function ++ "` ends in a return statement")
  | lateDeclaration name =>
      some ("Declaration of `" ++ name ++
        "` must come before any statement in its block")
  | arityMismatch callee expected received =>
      some ("`" ++ callee ++ "` expects " ++ expected.repr ++ " arguments, received " ++
        received.repr)
  | unsupported operation =>
      some ("`" ++ operation ++
        "` type checks but cannot be lowered to stack instructions yet")
  | unboundLocal _ => none
  | malformedInstruction line => some ("Could not read instruction `" ++ line ++ "`")
  | stackUnderflow _ => none
  | unknownFunction name => some ("No host function `" ++ name ++ "` is linked")
  | undeclaredLocal name =>
      some ("Local `" ++ name ++ "` is used before its `local-declare`")

end Cause

/-- A cause and the position it concerns. -/
structure Diagnostic where
  cause : Cause
  position : Position
deriving DecidableEq, Repr

end SlotLang
