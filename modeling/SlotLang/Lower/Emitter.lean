import SlotLang.Diagnostic
import SlotLang.Instr

/-!
# Emitting code

A compiler emits instructions one after the other.  Its work ends early when it meets
something that it cannot lower.  What was emitted before stays emitted.
-/

namespace SlotLang

/-- The name of the scratch slot, the slots in the order in which they were given out, the
names that have a slot, and the code emitted so far. -/
structure Compiler where
  scratch : String := "$last"
  slots : List String := []
  slotNames : List String := []
  code : List Instr := []
deriving DecidableEq, Repr

/-- Emit one instruction. -/
def Compiler.emit (compiler : Compiler) (instr : Instr) : Compiler :=
  { compiler with code := compiler.code ++ [instr] }

/-- Work of a compiler, which may end early. -/
abbrev Emitter := ExceptT Diagnostic (StateM Compiler)

/-- The compiler after some work, and whether the work came to its end. -/
def Compiler.run {α : Type} (compiler : Compiler) (work : Emitter α) :
    Compiler × Except Diagnostic α :=
  let (outcome, after) := work.run.run compiler
  (after, outcome)

/-- The slot of a name, if it has one. -/
def slotOf (names : List String) (name : String) (position : Position) :
    Except Diagnostic String :=
  if name ∈ names then .ok name
  else .error { cause := .unboundLocal name, position := position }

namespace Emitter

/-- Emit one instruction. -/
def emit (instr : Instr) : Emitter Unit :=
  modify fun compiler => compiler.emit instr

/-- Give up at something that has no instructions. -/
def refuse (operation : String) (position : Position) : Emitter Unit :=
  throw { cause := .unsupported operation, position := position }

/-- Emit an instruction about the slot of a name. -/
def onSlot (make : String → Instr) (name : String) (position : Position) :
    Emitter Unit := do
  let compiler ← get
  let slot ← MonadExcept.ofExcept (slotOf compiler.slotNames name position)
  emit (make slot)

end Emitter

end SlotLang
