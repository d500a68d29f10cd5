import Mathlib.Data.List.Forall2
import SlotLang.Builtin
import SlotLang.Scopes
import SlotLang.Proofs.Tree.Erasure

/-!
# The typing judgement for expressions

A declarative account of which type an expression has in some scopes.  There is
one rule for each construct; the rules do not say in which order the parts of an
expression are looked at, and do not mention type slots.
-/

namespace SlotLang

/-- `expr.HasType scopes type`: the expression has the type in the scopes. -/
inductive Expr.HasType (scopes : Scopes) : Expr → Ty → Prop where
  | number {mark : Mark} {value : Int32} :
      HasType scopes (.literal mark (.number value)) .int
  | boolean {mark : Mark} {value : Bool} :
      HasType scopes (.literal mark (.boolean value)) .bool
  | null {mark : Mark} :
      HasType scopes (.literal mark .none) .none
  /-- A name has the type of its innermost binding, which must be a variable. -/
  | name {mark : Mark} {named : String} {type : Ty}
      (bound : scopes.lookup? named = some (.ofVariable type)) :
      HasType scopes (.name mark named) type
  | not {mark : Mark} {operand : Expr}
      (operandTyped : HasType scopes operand .bool) :
      HasType scopes (.unary mark .not operand) .bool
  | neg {mark : Mark} {operand : Expr}
      (operandTyped : HasType scopes operand .int) :
      HasType scopes (.unary mark .neg operand) .int
  | arithmetic {mark : Mark} {op : BinaryOp} {left right : Expr}
      (listed : op ∈ [BinaryOp.add, .sub, .mul, .div, .mod])
      (leftTyped : HasType scopes left .int) (rightTyped : HasType scopes right .int) :
      HasType scopes (.binary mark op left right) .int
  | ordering {mark : Mark} {op : BinaryOp} {left right : Expr}
      (listed : op ∈ [BinaryOp.less, .atMost, .greater, .atLeast])
      (leftTyped : HasType scopes left .int) (rightTyped : HasType scopes right .int) :
      HasType scopes (.binary mark op left right) .bool
  | comparison {mark : Mark} {op : BinaryOp} {left right : Expr} {type : Ty}
      (listed : op ∈ [BinaryOp.equal, .unequal, .same])
      (leftTyped : HasType scopes left type) (rightTyped : HasType scopes right type) :
      HasType scopes (.binary mark op left right) .bool
  /-- A built-in asks for the number of its arguments and not for their types. -/
  | builtin {mark : Mark} {callee : String} {builtin : Builtin} {arguments : List Expr}
      {types : List Ty}
      (listed : Builtin.find? callee = some builtin)
      (arity : types.length = builtin.arity)
      (argumentsTyped : List.Forall₂ (HasType scopes) arguments types) :
      HasType scopes (.call mark callee arguments) builtin.returnType
  | call {mark : Mark} {callee : String} {params : List Ty} {returnType : Ty}
      {arguments : List Expr}
      (unlisted : Builtin.find? callee = none)
      (bound : scopes.lookup? callee = some (.ofFunction ⟨params, returnType⟩))
      (argumentsTyped : List.Forall₂ (HasType scopes) arguments params) :
      HasType scopes (.call mark callee arguments) returnType
  /-- The members of an object are those of the class that its type names. -/
  | field {mark : Mark} {object : Expr} {className member : String} {members : Members}
      {type : Ty}
      (objectTyped : HasType scopes object (.object className))
      (bound : scopes.lookup? className = some (.ofClass members))
      (declared : members.field? member = some type) :
      HasType scopes (.field mark object member) type
  /-- The first parameter of a method is its receiver, of which nothing is asked. -/
  | method {mark : Mark} {object : Expr} {className member : String} {members : Members}
      {receiver : Ty} {params : List Ty} {returnType : Ty} {arguments : List Expr}
      (objectTyped : HasType scopes object (.object className))
      (bound : scopes.lookup? className = some (.ofClass members))
      (declared : members.method? member = some ⟨receiver :: params, returnType⟩)
      (argumentsTyped : List.Forall₂ (HasType scopes) arguments params) :
      HasType scopes (.method mark object member arguments) returnType

namespace Expr.HasType

variable {scopes : Scopes} {mark : Mark} {type : Ty}

theorem operands {op : BinaryOp} {left right : Expr}
    (typed : (Expr.binary mark op left right).HasType scopes type) :
    ∃ leftType rightType, left.HasType scopes leftType ∧ right.HasType scopes rightType := by
  cases typed with
  | arithmetic _ leftTyped rightTyped => exact ⟨_, _, leftTyped, rightTyped⟩
  | ordering _ leftTyped rightTyped => exact ⟨_, _, leftTyped, rightTyped⟩
  | comparison _ leftTyped rightTyped => exact ⟨_, _, leftTyped, rightTyped⟩

theorem arguments {callee : String} {arguments : List Expr}
    (typed : (Expr.call mark callee arguments).HasType scopes type) :
    ∃ types, List.Forall₂ (Expr.HasType scopes) arguments types := by
  cases typed with
  | builtin _ _ argumentsTyped => exact ⟨_, argumentsTyped⟩
  | call _ _ argumentsTyped => exact ⟨_, argumentsTyped⟩

end Expr.HasType

/-! ## Type slots play no part -/

mutual

theorem Expr.hasType_erase_iff {scopes : Scopes} (expr : Expr) {type : Ty} :
    expr.erase.HasType scopes type ↔ expr.HasType scopes type := by
  cases expr with
  | literal =>
      constructor
      all_goals
        intro typed
        cases typed with
        | number => exact .number
        | boolean => exact .boolean
        | null => exact .null
  | name =>
      constructor
      all_goals
        intro typed
        cases typed with
        | name bound => exact .name bound
  | unary _ op operand =>
      have operandTyped := @Expr.hasType_erase_iff scopes operand
      constructor
      · intro typed
        cases typed with
        | not typed => exact .not (operandTyped.mp typed)
        | neg typed => exact .neg (operandTyped.mp typed)
      · intro typed
        cases typed with
        | not typed => exact .not (operandTyped.mpr typed)
        | neg typed => exact .neg (operandTyped.mpr typed)
  | binary _ op left right =>
      have leftTyped := @Expr.hasType_erase_iff scopes left
      have rightTyped := @Expr.hasType_erase_iff scopes right
      constructor
      · intro typed
        cases typed with
        | arithmetic listed first second =>
            exact .arithmetic listed (leftTyped.mp first) (rightTyped.mp second)
        | ordering listed first second =>
            exact .ordering listed (leftTyped.mp first) (rightTyped.mp second)
        | comparison listed first second =>
            exact .comparison listed (leftTyped.mp first) (rightTyped.mp second)
      · intro typed
        cases typed with
        | arithmetic listed first second =>
            exact .arithmetic listed (leftTyped.mpr first) (rightTyped.mpr second)
        | ordering listed first second =>
            exact .ordering listed (leftTyped.mpr first) (rightTyped.mpr second)
        | comparison listed first second =>
            exact .comparison listed (leftTyped.mpr first) (rightTyped.mpr second)
  | call _ callee arguments =>
      have argumentsTyped := @Expr.haveTypes_eraseAll_iff scopes arguments
      constructor
      · intro typed
        cases typed with
        | builtin listed arity typed =>
            exact .builtin listed arity (argumentsTyped.mp typed)
        | call unlisted bound typed => exact .call unlisted bound (argumentsTyped.mp typed)
      · intro typed
        cases typed with
        | builtin listed arity typed =>
            exact .builtin listed arity (argumentsTyped.mpr typed)
        | call unlisted bound typed => exact .call unlisted bound (argumentsTyped.mpr typed)
  | field _ object member =>
      have objectTyped := @Expr.hasType_erase_iff scopes object
      constructor
      · intro typed
        cases typed with
        | field typed bound declared => exact .field (objectTyped.mp typed) bound declared
      · intro typed
        cases typed with
        | field typed bound declared => exact .field (objectTyped.mpr typed) bound declared
  | method _ object member arguments =>
      have objectTyped := @Expr.hasType_erase_iff scopes object
      have argumentsTyped := @Expr.haveTypes_eraseAll_iff scopes arguments
      constructor
      · intro typed
        cases typed with
        | method typed bound declared others =>
            exact .method (objectTyped.mp typed) bound declared (argumentsTyped.mp others)
      · intro typed
        cases typed with
        | method typed bound declared others =>
            exact .method (objectTyped.mpr typed) bound declared (argumentsTyped.mpr others)
termination_by structural expr

theorem Expr.haveTypes_eraseAll_iff {scopes : Scopes} (exprs : List Expr)
    {types : List Ty} :
    List.Forall₂ (Expr.HasType scopes) (Expr.eraseAll exprs) types ↔
      List.Forall₂ (Expr.HasType scopes) exprs types := by
  cases exprs with
  | nil => rw [Expr.eraseAll]
  | cons expr later =>
      have exprTyped := @Expr.hasType_erase_iff scopes expr
      have laterTyped := @Expr.haveTypes_eraseAll_iff scopes later
      rw [Expr.eraseAll]
      constructor
      · rintro (_ | ⟨typed, others⟩)
        exact .cons (exprTyped.mp typed) (laterTyped.mp others)
      · rintro (_ | ⟨typed, others⟩)
        exact .cons (exprTyped.mpr typed) (laterTyped.mpr others)
termination_by structural exprs

end

/-- Expressions that differ only in their type slots have the same types. -/
theorem Expr.HasType.of_erase_eq {scopes : Scopes} {expr other : Expr} {type : Ty}
    (typed : expr.HasType scopes type) (same : other.erase = expr.erase) :
    other.HasType scopes type := by
  rw [← Expr.hasType_erase_iff, same, Expr.hasType_erase_iff]
  exact typed

end SlotLang
