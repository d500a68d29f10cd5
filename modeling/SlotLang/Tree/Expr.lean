import SlotLang.Position
import SlotLang.Tree.Ty

/-!
# Expressions

Every node of an expression carries a mark: the span of source it came from, and
a slot for its type.  The slot is empty in a fresh tree and is filled by the
checker.
-/

namespace SlotLang

/-! ## Literals and operators -/

/-- The values that can be written out. -/
inductive Literal where
  | number (value : Int32)
  | boolean (value : Bool)
  | none
deriving DecidableEq, Repr

namespace Literal

/-- The type of a literal. -/
def type : Literal → Ty
  | number _ => .int
  | boolean _ => .bool
  | none => .none

/-- The machine word that stands for a literal: truth is one, falsehood and null
are zero. -/
def word : Literal → Int32
  | number value => value
  | boolean true => 1
  | boolean false => 0
  | none => 0

end Literal

/-- Operators with one operand. -/
inductive UnaryOp where
  | not
  | neg
deriving DecidableEq, Repr

/-- An operator as the language writes it. -/
def UnaryOp.symbol : UnaryOp → String
  | not => "not"
  | neg => "-"

/-- Operators with two operands. -/
inductive BinaryOp where
  | add
  | sub
  | mul
  | div
  | mod
  | equal
  | unequal
  | atMost
  | atLeast
  | less
  | greater
  | same
deriving DecidableEq, Repr

/-- An operator as the language writes it. -/
def BinaryOp.symbol : BinaryOp → String
  | add => "+"
  | sub => "-"
  | mul => "*"
  | div => "/"
  | mod => "%"
  | equal => "=="
  | unequal => "!="
  | atMost => "<="
  | atLeast => ">="
  | less => "<"
  | greater => ">"
  | same => "is"

/-! ## Nodes -/

/-- What every node of an expression carries beside its content: where it stands
in the source, and its type once it is known. -/
structure Mark where
  span : Span
  type? : Option Ty := none
deriving DecidableEq, Repr

/-- The position at which a marked node starts. -/
def Mark.start (mark : Mark) : Position :=
  mark.span.start

/-- Expressions. -/
inductive Expr where
  | literal (mark : Mark) (value : Literal)
  | name (mark : Mark) (name : String)
  | unary (mark : Mark) (op : UnaryOp) (operand : Expr)
  | binary (mark : Mark) (op : BinaryOp) (left right : Expr)
  | call (mark : Mark) (callee : String) (arguments : List Expr)
  | field (mark : Mark) (object : Expr) (member : String)
  | method (mark : Mark) (object : Expr) (member : String) (arguments : List Expr)
deriving Repr

namespace Expr

/-- The mark of the topmost node. -/
def mark : Expr → Mark
  | literal mark _ => mark
  | name mark _ => mark
  | unary mark _ _ => mark
  | binary mark _ _ _ => mark
  | call mark _ _ => mark
  | field mark _ _ => mark
  | method mark _ _ _ => mark

/-- The same expression with another mark on its topmost node. -/
def withMark (mark : Mark) : Expr → Expr
  | literal _ value => literal mark value
  | name _ named => name mark named
  | unary _ op operand => unary mark op operand
  | binary _ op left right => binary mark op left right
  | call _ callee arguments => call mark callee arguments
  | field _ object member => field mark object member
  | method _ object member arguments => method mark object member arguments

/-- The position at which an expression starts. -/
def start (expr : Expr) : Position :=
  expr.mark.start

/-- The type of an expression, once it has been checked. -/
def type? (expr : Expr) : Option Ty :=
  expr.mark.type?

/-- A short name of the topmost construct, for diagnostics. -/
def describe : Expr → String
  | literal _ _ => "literal"
  | name _ named => "name `" ++ named ++ "`"
  | unary _ op _ => "unary `" ++ op.symbol ++ "`"
  | binary _ op _ _ => "binary `" ++ op.symbol ++ "`"
  | call _ callee _ => "call to `" ++ callee ++ "`"
  | field _ _ member => "field access `." ++ member ++ "`"
  | method _ _ member _ => "method call `." ++ member ++ "()`"

/-- Whether the topmost construct is a literal. -/
def isLiteral : Expr → Bool
  | literal _ _ => true
  | _ => false

/-- Whether an expression may stand on the left of an assignment: it is a name or
a field. -/
def isAssignable : Expr → Bool
  | name _ _ => true
  | field _ _ _ => true
  | _ => false

/-- The name that an expression consists of, if it is nothing but a name. -/
def name? : Expr → Option String
  | name _ named => some named
  | _ => none

end Expr

/-! ## Traversal -/

mutual

/-- An expression and all its parts, each before its own parts, from left to
right. -/
def Expr.preorder : Expr → List Expr
  | .literal mark value => [.literal mark value]
  | .name mark named => [.name mark named]
  | .unary mark op operand => .unary mark op operand :: operand.preorder
  | .binary mark op left right =>
      .binary mark op left right :: (left.preorder ++ right.preorder)
  | .call mark callee arguments =>
      .call mark callee arguments :: Expr.preorderAll arguments
  | .field mark object member => .field mark object member :: object.preorder
  | .method mark object member arguments =>
      .method mark object member arguments ::
        (object.preorder ++ Expr.preorderAll arguments)

/-- The parts of several expressions, one expression after the other. -/
def Expr.preorderAll : List Expr → List Expr
  | [] => []
  | expr :: later => expr.preorder ++ Expr.preorderAll later

end

end SlotLang
