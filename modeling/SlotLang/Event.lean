import SlotLang.Instr
import SlotLang.Symbol
import SlotLang.Text.Align
import SlotLang.Text.Quoted

/-!
# Events

What the checker, the code generator and the machine report about their work.
-/

namespace SlotLang

/-- How much attention an event asks for. -/
inductive Level where
  | debug
  | trace
deriving DecidableEq, Repr

/-- A level in one word. -/
def Level.text : Level → String
  | debug => "DEBUG"
  | trace => "TRACE"

/-- A step of the work on a program. -/
inductive Event where
  /-- The check of a program with so many statements begins. -/
  | checking (count : Nat)
  /-- The check of a program has succeeded. -/
  | checked
  /-- A scope was opened on top of so many others. -/
  | enteredScope (depth : Nat)
  /-- A scope was closed, and so many are left. -/
  | leftScope (depth : Nat)
  /-- A name was bound in the scope at the given depth. -/
  | defined (symbol : Symbol) (name : String) (depth : Nat)
  /-- Code generation for so many statements begins. -/
  | generating (count : Nat)
  /-- The slots of a program were chosen. -/
  | allocated (slots : List String)
  /-- Code generation has succeeded. -/
  | generated (count : Nat)
  /-- The run of so many instructions begins. -/
  | running (count : Nat)
  /-- The instruction with the given index is about to be executed. -/
  | executing (index : Nat) (instr : Instr)
deriving DecidableEq, Repr

namespace Event

/-- The level of an event: single steps are traced, the rest is for debugging. -/
def level : Event → Level
  | enteredScope _ => .trace
  | leftScope _ => .trace
  | defined _ _ _ => .trace
  | executing _ _ => .trace
  | _ => .debug

/-- An event in words. -/
def text : Event → String
  | checking count => "type checking " ++ count.repr ++ " top-level statements"
  | checked => "type checking finished"
  | enteredScope depth => "entered scope " ++ depth.repr
  | leftScope depth => "exited scope " ++ depth.repr
  | defined symbol name depth =>
      "defined " ++ symbol.kind ++ " `" ++ name ++ "` at depth " ++ depth.repr
  | generating count => "generating code for " ++ count.repr ++ " top-level statements"
  | allocated slots =>
      "allocated " ++ slots.length.repr ++ " local slots: " ++ Text.quotedList slots
  | generated count => "generated " ++ count.repr ++ " instructions"
  | running count => "running " ++ count.repr ++ " instructions"
  | executing index instr =>
      Text.alignRight ' ' 4 index.repr ++ ": " ++ instr.text

/-- An event as a line of a log. -/
def line (event : Event) : String :=
  event.level.text ++ " " ++ event.text

end Event

end SlotLang
