import SlotLang.Builtin
import SlotLang.Scopes

/-!
# Typing rules of single constructs

Each rule takes the types of the parts of a construct and gives the type of the
whole, or the diagnostic that refuses it.
-/

namespace SlotLang

/-- A value must have exactly the expected type. -/
def expectType (expected actual : Ty) (position : Position) :
    Except Diagnostic Unit :=
  if expected = actual then .ok ()
  else
    .error { cause := .typeMismatch expected.text actual.text, position := position }

/-- A call must have exactly the expected number of arguments. -/
def expectArity (callee : String) (expected received : Nat) (position : Position) :
    Except Diagnostic Unit :=
  if expected = received then .ok ()
  else
    .error { cause := .arityMismatch callee expected received, position := position }

/-! ## Operators -/

/-- The type of the operand of an operator, which is also that of its result. -/
def UnaryOp.type : UnaryOp → Ty
  | not => .bool
  | neg => .int

/-- The type of a unary operation. -/
def UnaryOp.resultType (op : UnaryOp) (position : Position) (operand : Ty) :
    Except Diagnostic Ty :=
  (expectType op.type operand position).map fun _ => op.type

/-- What binary operators have in common. -/
inductive OpFamily where
  /-- From two integers to an integer. -/
  | arithmetic
  /-- From two integers to a truth value. -/
  | ordering
  /-- From two values of one type to a truth value. -/
  | comparison
deriving DecidableEq, Repr

/-- The family of an operator. -/
def BinaryOp.family : BinaryOp → OpFamily
  | add => .arithmetic
  | sub => .arithmetic
  | mul => .arithmetic
  | div => .arithmetic
  | mod => .arithmetic
  | atMost => .ordering
  | atLeast => .ordering
  | less => .ordering
  | greater => .ordering
  | equal => .comparison
  | unequal => .comparison
  | same => .comparison

/-- Both operands must be integers. -/
def expectInts (leftStart rightStart : Position) (left right : Ty) :
    Except Diagnostic Unit :=
  (expectType .int left leftStart).bind fun _ => expectType .int right rightStart

/-- The type of a binary operation. -/
def BinaryOp.resultType (op : BinaryOp) (leftStart rightStart : Position)
    (left right : Ty) : Except Diagnostic Ty :=
  match op.family with
  | .arithmetic => (expectInts leftStart rightStart left right).map fun _ => .int
  | .ordering => (expectInts leftStart rightStart left right).map fun _ => .bool
  | .comparison => (expectType left right rightStart).map fun _ => .bool

/-! ## Calls and members -/

/-- What a call asks of each argument, where nothing is asked of the type of an
argument of a built-in, and the type of its result. -/
structure CallRule where
  demands : List (Option Ty)
  returnType : Ty
deriving DecidableEq, Repr

/-- An argument must have the type that is asked of it, if any is. -/
def expectDemand (demand : Option Ty) (position : Position) (actual : Ty) :
    Except Diagnostic Unit :=
  match demand with
  | none => .ok ()
  | some expected => expectType expected actual position

namespace Scopes

/-- The rule for a call with so many arguments.  Built-ins come before anything
that the scopes bind to the same name. -/
def callRule (scopes : Scopes) (callee : String) (count : Nat)
    (position : Position) : Except Diagnostic CallRule :=
  match Builtin.find? callee with
  | some builtin =>
      (expectArity callee builtin.arity count position).map fun _ =>
        { demands := List.replicate builtin.arity none
          returnType := builtin.returnType }
  | none =>
      (scopes.functionSignature callee position).bind fun signature =>
        (expectArity callee signature.params.length count position).map fun _ =>
          { demands := signature.params.map some
            returnType := signature.returnType }

/-- The type of a field of an object. -/
def fieldType (scopes : Scopes) (member : String) (position : Position)
    (object : Ty) : Except Diagnostic Ty :=
  (scopes.membersOf object member position).bind fun (className, members) =>
    match members.field? member with
    | some type => .ok type
    | none =>
        .error
          { cause := .badName member (.noSuchField className), position := position }

/-- The rule for a call of a method with so many arguments.  The receiver counts
as an argument, but nothing is asked of its type beyond having the method. -/
def methodRule (scopes : Scopes) (member : String) (count : Nat)
    (position : Position) (object : Ty) : Except Diagnostic CallRule :=
  (scopes.membersOf object member position).bind fun (className, members) =>
    match members.method? member with
    | none =>
        .error
          { cause := .badName member (.noSuchMethod className), position := position }
    | some signature =>
        (expectArity (className ++ "." ++ member) signature.params.length (count + 1)
          position).map fun _ =>
            { demands := (signature.params.drop 1).map some
              returnType := signature.returnType }

end Scopes

end SlotLang
