/-!
# Types of the language

There are three primitive types and one nominal type for each class name.  The
null value `none` has a type of its own and may start off a variable of any
class type.
-/

namespace SlotLang

/-- The types of values. -/
inductive Ty where
  | int
  | bool
  | none
  /-- The instances of the class with the given name. -/
  | object (className : String)
deriving DecidableEq, Repr

namespace Ty

/-- A type as the language writes it.  A class shows its name alone, so a class
may read like a primitive type. -/
def text : Ty → String
  | int => "int"
  | bool => "bool"
  | none => "none"
  | object className => className

/-- The name of the class whose instances a type describes. -/
def className? : Ty → Option String
  | object className => some className
  | _ => Option.none

/-- Whether a type describes the instances of a class. -/
def isObject (type : Ty) : Bool :=
  type.className?.isSome

/-- Whether a variable declared with one type may start with a value of another:
the types agree, or a class variable starts as null. -/
def acceptsInitialiser (declared value : Ty) : Bool :=
  declared = value || (declared.isObject && value = none)

end Ty

end SlotLang
