import SlotLang.Builtin
import SlotLang.Diagnostic
import SlotLang.Event
import SlotLang.Table

/-!
# The machine

The machine has named locals, a stack of 32-bit words, and functions that its
host has linked by name.  Arithmetic wraps around.  A run stops at the first
instruction that cannot be executed and leaves the machine as it is then.
-/

namespace SlotLang

/-! ## Host functions -/

/-- The functions that a host can link.  A function of the host's own may read
and change the state `σ` of the host. -/
inductive HostFn (σ : Type) where
  /-- Keep the argument in the history of the machine, and yield zero. -/
  | capture
  /-- Write the argument to the output of the machine, and yield zero. -/
  | write
  /-- Call a function of the host's own. -/
  | foreign (run : List Int32 → σ → Int32 × σ)

/-- A linked function and the number of its arguments. -/
structure Link (σ : Type) where
  arity : Nat
  function : HostFn σ

/-- The state of a machine. -/
structure Machine (σ : Type) where
  /-- The values of the locals. -/
  locals : Table Int32 := ∅
  /-- The operands, the topmost one first. -/
  stack : List Int32 := []
  /-- The linked functions. -/
  links : Table (Link σ) := ∅
  /-- The values kept by capturing functions, the oldest one first. -/
  printed : List Int32 := []
  /-- The values written to the output, the oldest one first. -/
  written : List Int32 := []
  /-- The state of the host. -/
  host : σ

namespace Machine

variable {σ : Type}

/-- Link a function under a name, in place of any earlier one. -/
def link (machine : Machine σ) (name : String) (arity : Nat) (function : HostFn σ) :
    Machine σ :=
  { machine with
    links := machine.links.insert name { arity := arity, function := function } }

/-- A machine whose `print` writes to the output. -/
def writing (host : σ) : Machine σ :=
  ({ host := host } : Machine σ).link Builtin.print.name Builtin.print.arity .write

/-- A machine whose `print` keeps what is printed. -/
def capturing (host : σ) : Machine σ :=
  ({ host := host } : Machine σ).link Builtin.print.name Builtin.print.arity .capture

/-- The operands, the topmost one last. -/
def operands (machine : Machine σ) : List Int32 :=
  machine.stack.reverse

/-- The text of the output: a line for each value. -/
def output (machine : Machine σ) : String :=
  String.join (machine.written.map fun value => value.toInt.repr ++ "\n")

/-! ## Single instructions -/

/-- Call a host function: the machine afterwards, and the result. -/
def invoke (machine : Machine σ) (arguments : List Int32) :
    HostFn σ → Machine σ × Int32
  | .capture => ({ machine with printed := machine.printed ++ arguments.take 1 }, 0)
  | .write => ({ machine with written := machine.written ++ arguments.take 1 }, 0)
  | .foreign run =>
      let answer := run arguments machine.host
      ({ machine with host := answer.2 }, answer.1)

/-- Push a word. -/
def push (machine : Machine σ) (value : Int32) : Machine σ :=
  { machine with stack := value :: machine.stack }

/-- Replace the two topmost operands by the result of an operation.  The right
operand is popped first, and is gone if there is no left one. -/
def arithmetic (machine : Machine σ) (instr : Instr)
    (operation : Int32 → Int32 → Int32) : Machine σ × Except Cause Unit :=
  match machine.stack with
  | right :: left :: rest =>
      ({ machine with stack := operation left right :: rest }, .ok ())
  | _ => ({ machine with stack := [] }, .error (.stackUnderflow instr.text))

/-- Execute an instruction. -/
def step (machine : Machine σ) (instr : Instr) : Machine σ × Except Cause Unit :=
  match instr with
  | .localDeclare name =>
      ({ machine with locals := machine.locals.insert name 0 }, .ok ())
  | .pushConstant value => (machine.push value, .ok ())
  | .loadLocal name =>
      match machine.locals.get? name with
      | some value => (machine.push value, .ok ())
      | none => (machine, .error (.undeclaredLocal name))
  | .storeLocal name =>
      match machine.locals.get? name with
      | none => (machine, .error (.undeclaredLocal name))
      | some _ =>
          match machine.stack with
          | value :: rest =>
              ({ machine with stack := rest, locals := machine.locals.insert name value },
                .ok ())
          | [] => (machine, .error (.stackUnderflow instr.text))
  | .add => machine.arithmetic instr (· + ·)
  | .sub => machine.arithmetic instr (· - ·)
  | .mul => machine.arithmetic instr (· * ·)
  | .call name =>
      match machine.links.get? name with
      | none => (machine, .error (.unknownFunction name))
      | some linked =>
          if machine.stack.length < linked.arity then
            (machine, .error (.stackUnderflow instr.text))
          else
            let arguments := (machine.stack.take linked.arity).reverse
            let popped := { machine with stack := machine.stack.drop linked.arity }
            let answer := popped.invoke arguments linked.function
            (answer.1.push answer.2, .ok ())

/-! ## Runs -/

/-- Execute instructions of which the first has the given index, up to the first
that cannot be executed.  A fault is reported with the index of its
instruction. -/
def runFrom (index : Nat) (machine : Machine σ) :
    List Instr → Machine σ × Except Diagnostic Unit
  | [] => (machine, .ok ())
  | instr :: later =>
      match machine.step instr with
      | (next, .ok ()) => runFrom (index + 1) next later
      | (stopped, .error cause) =>
          (stopped, .error { cause := cause, position := .inListing index })

/-- Run some code. -/
def run (machine : Machine σ) (code : List Instr) :
    Machine σ × Except Diagnostic Unit :=
  machine.runFrom 0 code

/-- The instructions that a run attempts, the faulty one included. -/
def attempts (index : Nat) (machine : Machine σ) : List Instr → List Event
  | [] => []
  | instr :: later =>
      .executing index instr ::
        match machine.step instr with
        | (next, .ok ()) => attempts (index + 1) next later
        | (_, .error _) => []

/-- What is reported during a run. -/
def events (machine : Machine σ) (code : List Instr) : List Event :=
  .running code.length :: machine.attempts 0 code

end Machine

end SlotLang
