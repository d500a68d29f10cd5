import SlotLang.Lower.Stmt

/-!
# Lowered code

The code of a tree, and whether it is complete, without the compiler that emits it.  They
depend on the names that have a slot and on the scratch slot alone, and the code of a
sequence is put together from the codes of its parts.
-/

namespace SlotLang

/-- The instructions emitted for a tree, and whether they are all of them. -/
structure Lowered where
  code : List Instr
  outcome : Except Diagnostic Unit

namespace Lowered

/-- Nothing to emit. -/
def nothing : Lowered :=
  { code := [], outcome := .ok () }

/-- Emit one instruction. -/
def emit (instr : Instr) : Lowered :=
  { code := [instr], outcome := .ok () }

/-- Give up. -/
def fail (cause : Cause) (position : Position) : Lowered :=
  { code := [], outcome := .error { cause := cause, position := position } }

/-- Emit the code of one tree after that of another, unless the first gave up. -/
def append (first second : Lowered) : Lowered :=
  match first.outcome with
  | .error diagnostic => { code := first.code, outcome := .error diagnostic }
  | .ok () => { code := first.code ++ second.code, outcome := second.outcome }

instance : Append Lowered :=
  ⟨append⟩

/-- What follows a success is emitted after it. -/
theorem append_of_ok {first : Lowered} (succeeded : first.outcome = .ok ())
    (second : Lowered) :
    first ++ second =
      { code := first.code ++ second.code, outcome := second.outcome } := by
  change append first second = _
  simp only [append, succeeded]

/-- Nothing is emitted after a failure. -/
theorem append_of_error {first : Lowered} {diagnostic : Diagnostic}
    (failed : first.outcome = .error diagnostic) (second : Lowered) :
    first ++ second = first := by
  change append first second = _
  obtain ⟨code, outcome⟩ := first
  change outcome = .error diagnostic at failed
  subst failed
  rfl

/-- Emit an instruction about the slot of a name. -/
def onSlot (slots : List String) (make : String → Instr) (name : String)
    (position : Position) : Lowered :=
  match slotOf slots name position with
  | .ok slot => emit (make slot)
  | .error diagnostic => { code := [], outcome := .error diagnostic }

end Lowered

mutual

/-- Lower an expression whose variables live in the given slots.  A construct
without instructions is refused before any of its parts is lowered. -/
def Expr.lower (slots : List String) : Expr → Lowered
  | .literal _ value => .emit (.pushConstant value.word)
  | .name mark named => .onSlot slots .loadLocal named mark.start
  | .unary _ .neg operand =>
      .emit (.pushConstant 0) ++ (operand.lower slots ++ .emit .sub)
  | .unary mark .not operand =>
      .fail (.unsupported (Expr.unary mark .not operand).describe) mark.start
  | .binary mark op left right =>
      match op.instr? with
      | none => .fail (.unsupported (Expr.binary mark op left right).describe) mark.start
      | some instr => left.lower slots ++ (right.lower slots ++ .emit instr)
  | .call mark callee arguments =>
      match Builtin.find? callee with
      | none =>
          .fail (.unsupported (Expr.call mark callee arguments).describe) mark.start
      | some _ => Expr.lowerAll slots arguments ++ .emit (.call callee)
  | .field mark object member =>
      .fail (.unsupported (Expr.field mark object member).describe) mark.start
  | .method mark object member arguments =>
      .fail (.unsupported (Expr.method mark object member arguments).describe) mark.start

/-- Lower several expressions, one after the other. -/
def Expr.lowerAll (slots : List String) : List Expr → Lowered
  | [] => .nothing
  | expr :: later => expr.lower slots ++ Expr.lowerAll slots later

end

namespace Stmt

/-- Lower a statement whose variables live in the given slots. -/
def lower (scratch : String) (slots : List String) : Stmt → Lowered
  | varDecl declaration =>
      declaration.value.lower slots ++
        .onSlot slots .storeLocal declaration.name declaration.span.start
  | assign span target value =>
      match target.name? with
      | none => .fail (.unsupported ("assignment to " ++ target.describe)) span.start
      | some name =>
          value.lower slots ++ .onSlot slots .storeLocal name target.start
  | evaluate span value =>
      value.lower slots ++ .onSlot slots .storeLocal scratch span.start
  | pass _ => .nothing
  | functionDef definition =>
      .fail (.unsupported ("function definition `" ++ definition.name ++ "`"))
        definition.span.start
  | classDef definition =>
      .fail (.unsupported ("class definition `" ++ definition.name ++ "`"))
        definition.span.start
  | branch span _ _ _ => .fail (.unsupported "if statement") span.start
  | loop span _ _ => .fail (.unsupported "while loop") span.start
  | returnValue span _ => .fail (.unsupported "return statement") span.start

/-- Lower the statements of a block in order. -/
def lowerAll (scratch : String) (slots : List String) : List Stmt → Lowered
  | [] => .nothing
  | stmt :: later => stmt.lower scratch slots ++ lowerAll scratch slots later

end Stmt

end SlotLang
