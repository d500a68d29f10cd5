import SlotLang.Instr
import SlotLang.Text.Blank

/-!
# Reading an instruction

A line is an instruction only as a whole: a keyword by itself, or a keyword with
its operand between parentheses, and no blank anywhere.  An operand is a name
without parentheses, or a decimal number within the range of a word.
-/

namespace SlotLang.Instr

/-! ## Operands -/

/-- Whether a text can be the name of a local or of a function. -/
def isName (chars : List Char) : Bool :=
  !chars.isEmpty &&
    chars.all fun char => !(char = '(' || char = ')' || Text.isBlank char)

/-- The number that a sequence of decimal digits denotes; leading zeros count for
nothing. -/
def natural? (chars : List Char) : Option Nat :=
  if !chars.isEmpty && chars.all Char.isDigit then
    some (Nat.ofDigitChars 10 chars 0)
  else
    none

/-- The number that decimal digits with an optional minus sign denote. -/
def integer? : List Char → Option Int
  | '-' :: digits => (natural? digits).map fun magnitude => -(magnitude : Int)
  | digits => (natural? digits).map fun magnitude => (magnitude : Int)

/-- The word that a decimal number denotes, if it lies in the range of words. -/
def word? (chars : List Char) : Option Int32 :=
  (integer? chars).bind fun value =>
    if Int32.minValue.toInt ≤ value ∧ value ≤ Int32.maxValue.toInt then
      some (Int32.ofInt value)
    else
      none

/-! ## Lines -/

/-- The operand of a line that starts with a keyword and has its operand between
parentheses. -/
def operand? (keyword : String) (line : List Char) : Option (List Char) :=
  ((keyword ++ "(").toList.isPrefixOf? line).bind fun rest => [')'].isSuffixOf? rest

/-- The instruction of a line whose operand is a name. -/
def named? (keyword : String) (make : String → Instr) (line : List Char) :
    Option Instr :=
  (operand? keyword line).bind fun operand =>
    if isName operand then some (make (String.ofList operand)) else none

/-- The instruction of a line that is a keyword by itself. -/
def plain? (keyword : String) (instr : Instr) (line : List Char) : Option Instr :=
  if line = keyword.toList then some instr else none

/-- The instruction of a line that pushes a number. -/
def constant? (line : List Char) : Option Instr :=
  ((operand? "push-constant" line).bind word?).map pushConstant

/-- The instruction that a line spells, character by character. -/
def ofChars? (line : List Char) : Option Instr :=
  named? "local-declare" localDeclare line <|>
    constant? line <|>
    named? "load-local" loadLocal line <|>
    named? "store-local" storeLocal line <|>
    plain? "add" add line <|>
    plain? "sub" sub line <|>
    plain? "mul" mul line <|>
    named? "call" call line

/-- The instruction that a line spells. -/
def ofText? (line : String) : Option Instr :=
  ofChars? line.toList

end SlotLang.Instr
