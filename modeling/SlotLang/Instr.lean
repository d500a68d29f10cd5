/-!
# Instructions

The instructions of a stack machine with named locals, and the form in which a
listing writes them.
-/

namespace SlotLang

/-- Instructions. -/
inductive Instr where
  /-- Make a local and set it to zero. -/
  | localDeclare (name : String)
  /-- Push a word. -/
  | pushConstant (value : Int32)
  /-- Push the value of a local. -/
  | loadLocal (name : String)
  /-- Pop a word into a local. -/
  | storeLocal (name : String)
  /-- Replace the two topmost words by their sum. -/
  | add
  /-- Replace the two topmost words by their difference. -/
  | sub
  /-- Replace the two topmost words by their product. -/
  | mul
  /-- Replace the arguments of a host function by its result. -/
  | call (name : String)
deriving DecidableEq, Repr

namespace Instr

/-- A keyword followed by its operand. -/
def withOperand (keyword operand : String) : String :=
  keyword ++ "(" ++ operand ++ ")"

/-- An instruction as a listing writes it. -/
def text : Instr → String
  | localDeclare name => withOperand "local-declare" name
  | pushConstant value => withOperand "push-constant" value.toInt.repr
  | loadLocal name => withOperand "load-local" name
  | storeLocal name => withOperand "store-local" name
  | add => "add"
  | sub => "sub"
  | mul => "mul"
  | call name => withOperand "call" name

/-- The local that an instruction makes. -/
def declaredLocal? : Instr → Option String
  | localDeclare name => some name
  | _ => none

end Instr

/-- The locals that some code makes, in order and with repetitions. -/
def declaredLocals (code : List Instr) : List String :=
  code.filterMap Instr.declaredLocal?

end SlotLang
