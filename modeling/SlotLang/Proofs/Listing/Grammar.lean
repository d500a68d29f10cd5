import Mathlib.Data.List.Induction
import Mathlib.Data.Nat.Digits.Defs
import SlotLang.Proofs.Listing.RoundTrip

/-!
# The grammar of a line

The lines of which an instruction is read, written out as texts: a keyword by itself, a
keyword with a name between parentheses, or a decimal number that is pushed.  The number
may have any number of leading zeros, and is read only if it lies in the range of words.
No other text is read, in particular none that holds a blank anywhere.
-/

namespace SlotLang.Instr

/-! ## Forms -/

/-- The keywords that stand by themselves. -/
def plainForms : List (String × Instr) :=
  [("add", add), ("sub", sub), ("mul", mul)]

/-- The keywords that are followed by a name. -/
def namedForms : List (String × (String → Instr)) :=
  [("local-declare", localDeclare), ("load-local", loadLocal), ("store-local", storeLocal),
    ("call", call)]

/-- Every instruction has a form: it pushes a number, or one of the two tables lists it. -/
theorem exists_form (instr : Instr) :
    (∃ keyword, (keyword, instr) ∈ plainForms) ∨
      (∃ keyword make name, (keyword, make) ∈ namedForms ∧ instr = make name) ∨
        ∃ word, instr = pushConstant word := by
  cases instr with
  | localDeclare name => exact .inr (.inl ⟨_, localDeclare, name, .head _, rfl⟩)
  | pushConstant word => exact .inr (.inr ⟨word, rfl⟩)
  | loadLocal name => exact .inr (.inl ⟨_, loadLocal, name, .tail _ (.head _), rfl⟩)
  | storeLocal name =>
      exact .inr (.inl ⟨_, storeLocal, name, .tail _ (.tail _ (.head _)), rfl⟩)
  | add => exact .inl ⟨_, .head _⟩
  | sub => exact .inl ⟨_, .tail _ (.head _)⟩
  | mul => exact .inl ⟨_, .tail _ (.tail _ (.head _))⟩
  | call name =>
      exact .inr (.inl ⟨_, call, name, .tail _ (.tail _ (.tail _ (.head _))), rfl⟩)

/-- The texts that may stand between parentheses as a name. -/
def Nameable (name : String) : Prop :=
  name ≠ "" ∧ ∀ char ∈ name.toList, char ≠ '(' ∧ char ≠ ')' ∧ Text.isBlank char = false

/-- The number that decimal digits denote by their places, of which the last is that of the
ones. -/
def placeValue (digits : List Char) : Nat :=
  Nat.ofDigits 10 (digits.reverse.map fun digit => digit.toNat - '0'.toNat)

/-- `Denotes operand value`: the operand consists of decimal digits behind an optional minus
sign, and the value is the one that the digits have by their places, negative behind a minus
sign. -/
inductive Denotes : String → Int → Prop where
  | natural {digits : List Char} (nonempty : digits ≠ [])
      (decimal : ∀ digit ∈ digits, digit.isDigit = true) :
      Denotes (String.ofList digits) (placeValue digits)
  | negative {digits : List Char} (nonempty : digits ≠ [])
      (decimal : ∀ digit ∈ digits, digit.isDigit = true) :
      Denotes ("-" ++ String.ofList digits) (-(placeValue digits))

/-! ## Numbers -/

/-- Reading digits from the left adds up their place values. -/
theorem ofDigitChars_eq_placeValue (digits : List Char) :
    Nat.ofDigitChars 10 digits 0 = placeValue digits := by
  induction digits using List.reverseRecOn with
  | nil => rfl
  | append_singleton front last inductionHypothesis =>
      have appended : placeValue (front ++ [last]) =
          (last.toNat - '0'.toNat) + 10 * placeValue front := by
        rw [placeValue, List.reverse_append, List.reverse_singleton, List.singleton_append,
          List.map_cons, Nat.ofDigits_cons, placeValue]
      rw [Nat.ofDigitChars_append, inductionHypothesis, Nat.ofDigitChars_cons,
        Nat.ofDigitChars_nil, appended, Nat.add_comm]

theorem denotes_iff_numeral {operand : String} {value : Int} :
    Denotes operand value ↔ Numeral operand.toList value := by
  constructor
  · rintro (⟨nonempty, decimal⟩ | ⟨nonempty, decimal⟩)
    · rw [← ofDigitChars_eq_placeValue, String.toList_ofList]
      exact .natural nonempty decimal
    · rw [← ofDigitChars_eq_placeValue, String.toList_append, String.toList_ofList,
        String.toList_ofList]
      exact Numeral.negative nonempty decimal
  · intro numeral
    rw [← String.ofList_toList (s := operand)]
    generalize operand.toList = chars at numeral
    rcases numeral with ⟨nonempty, decimal⟩ | ⟨nonempty, decimal⟩
    · rw [ofDigitChars_eq_placeValue]
      exact .natural nonempty decimal
    · rw [ofDigitChars_eq_placeValue, String.ofList_cons]
      exact .negative nonempty decimal

/-! ## Lines -/

theorem ofText?_eq_some_iff {line : String} {instr : Instr} :
    ofText? line = some instr ↔ instr.Spells line.toList :=
  ofChars?_eq_some_iff

/-- A text is a keyword with its operand exactly if its characters are. -/
theorem toList_eq_framed_iff {line keyword operand : String} :
    line.toList = framed keyword operand.toList ↔ line = keyword ++ "(" ++ operand ++ ")" := by
  rw [← toList_withOperand, String.toList_inj, withOperand]

theorem ofText?_eq_plain_iff {line keyword : String} {instr : Instr}
    (listed : (keyword, instr) ∈ plainForms) :
    ofText? line = some instr ↔ line = keyword := by
  simp only [plainForms, List.mem_cons, Prod.mk.injEq, List.not_mem_nil, or_false] at listed
  rw [ofText?_eq_some_iff]
  rcases listed with ⟨rfl, rfl⟩ | ⟨rfl, rfl⟩ | ⟨rfl, rfl⟩
  · exact String.toList_inj
  · exact String.toList_inj
  · exact String.toList_inj

theorem ofText?_eq_named_iff {line keyword name : String} {make : String → Instr}
    (listed : (keyword, make) ∈ namedForms) :
    ofText? line = some (make name) ↔
      line = keyword ++ "(" ++ name ++ ")" ∧ Nameable name := by
  simp only [namedForms, List.mem_cons, Prod.mk.injEq, List.not_mem_nil, or_false] at listed
  rw [ofText?_eq_some_iff, ← toList_eq_framed_iff, Nameable, ← isName_toList_iff, and_comm]
  rcases listed with ⟨rfl, rfl⟩ | ⟨rfl, rfl⟩ | ⟨rfl, rfl⟩ | ⟨rfl, rfl⟩
  · exact Iff.rfl
  · exact Iff.rfl
  · exact Iff.rfl
  · exact Iff.rfl

theorem ofText?_eq_pushConstant_iff {line : String} {word : Int32} :
    ofText? line = some (pushConstant word) ↔
      ∃ operand value, line = "push-constant(" ++ operand ++ ")" ∧ Denotes operand value ∧
        -2 ^ 31 ≤ value ∧ value ≤ 2 ^ 31 - 1 ∧ word = Int32.ofInt value := by
  rw [ofText?_eq_some_iff]
  constructor
  · rintro ⟨digits, numeral, spelled⟩
    rw [← String.toList_ofList (l := digits)] at numeral spelled
    exact ⟨_, word.toInt, toList_eq_framed_iff.mp spelled, denotes_iff_numeral.mpr numeral,
      word.le_toInt, Int.le_sub_one_of_lt word.toInt_lt, word.ofInt_toInt.symm⟩
  · rintro ⟨operand, value, rfl, denotes, low, high, rfl⟩
    rw [denotes_iff_numeral] at denotes
    have kept : (Int32.ofInt value).toInt = value :=
      Int32.toInt_ofInt_of_le low (Int.lt_of_le_sub_one high)
    rw [← kept] at denotes
    exact ⟨operand.toList, denotes, toList_eq_framed_iff.mpr rfl⟩

/-- Nothing is read exactly if no form fits. -/
theorem ofText?_eq_none_iff {line : String} :
    ofText? line = none ↔
      (∀ keyword instr, (keyword, instr) ∈ plainForms → line ≠ keyword) ∧
      (∀ keyword make, (keyword, make) ∈ namedForms → ∀ name, Nameable name →
        line ≠ keyword ++ "(" ++ name ++ ")") ∧
      ∀ operand value, Denotes operand value → -2 ^ 31 ≤ value → value ≤ 2 ^ 31 - 1 →
        line ≠ "push-constant(" ++ operand ++ ")" := by
  rw [Option.eq_none_iff_forall_ne_some]
  constructor
  · intro unread
    refine ⟨?_, ?_, ?_⟩
    · intro keyword instr listed same
      exact unread instr ((ofText?_eq_plain_iff listed).mpr same)
    · intro keyword make listed name nameable same
      exact unread (make name) ((ofText?_eq_named_iff listed).mpr ⟨same, nameable⟩)
    · intro operand value denotes low high same
      exact unread (pushConstant (Int32.ofInt value))
        (ofText?_eq_pushConstant_iff.mpr ⟨operand, value, same, denotes, low, high, rfl⟩)
  · rintro ⟨plain, named, constant⟩ instr found
    rcases instr.exists_form with ⟨keyword, listed⟩ | ⟨keyword, make, name, listed, rfl⟩ |
      ⟨word, rfl⟩
    · exact plain keyword instr listed ((ofText?_eq_plain_iff listed).mp found)
    · rcases (ofText?_eq_named_iff listed).mp found with ⟨same, nameable⟩
      exact named keyword make listed name nameable same
    · rcases ofText?_eq_pushConstant_iff.mp found with
        ⟨operand, value, same, denotes, low, high, _⟩
      exact constant operand value denotes low high same

/-- An instruction is read from the texts of its form, and from no other text.  Where none
of the forms fits, nothing is read; nor is it where a blank stands anywhere, be it before,
within or behind the instruction. -/
theorem ofText?_follows_grammar (line : String) :
    (∀ keyword instr, (keyword, instr) ∈ plainForms →
      (ofText? line = some instr ↔ line = keyword)) ∧
    (∀ keyword make, (keyword, make) ∈ namedForms → ∀ name,
      (ofText? line = some (make name) ↔
        line = keyword ++ "(" ++ name ++ ")" ∧ Nameable name)) ∧
    (∀ word, ofText? line = some (pushConstant word) ↔
      ∃ operand value, line = "push-constant(" ++ operand ++ ")" ∧ Denotes operand value ∧
        -2 ^ 31 ≤ value ∧ value ≤ 2 ^ 31 - 1 ∧ word = Int32.ofInt value) ∧
    (ofText? line = none ↔
      (∀ keyword instr, (keyword, instr) ∈ plainForms → line ≠ keyword) ∧
      (∀ keyword make, (keyword, make) ∈ namedForms → ∀ name, Nameable name →
        line ≠ keyword ++ "(" ++ name ++ ")") ∧
      ∀ operand value, Denotes operand value → -2 ^ 31 ≤ value → value ≤ 2 ^ 31 - 1 →
        line ≠ "push-constant(" ++ operand ++ ")") ∧
    ∀ char ∈ line.toList, Text.isBlank char = true → ofText? line = none := by
  refine ⟨fun _ _ listed => ofText?_eq_plain_iff listed,
    fun _ _ listed _ => ofText?_eq_named_iff listed,
    fun _ => ofText?_eq_pushConstant_iff, ofText?_eq_none_iff, ?_⟩
  intro char member blank
  rw [Option.eq_none_iff_forall_ne_some]
  intro instr found
  have solid := (ofText?_eq_some_iff.mp found).not_isBlank char member
  rw [blank] at solid
  contradiction

/-- One line of each form, and one that ends in a line feed. -/
theorem lines_read_by_grammar :
    ofText? "mul" = some mul ∧
      ofText? "call(größe)" = some (call "größe") ∧
      ofText? "push-constant(-002147483648)" = some (pushConstant (-2147483648)) ∧
      ofText? "mul\n" = none := by
  have nameable : Nameable "größe" := isName_toList_iff.mp rfl
  have denotes : Denotes "-002147483648" (-2147483648) :=
    @Denotes.negative "002147483648".toList (List.cons_ne_nil _ _) (List.all_eq_true.mp rfl)
  rcases ofText?_follows_grammar "mul" with ⟨plain, _⟩
  rcases ofText?_follows_grammar "call(größe)" with ⟨_, named, _⟩
  rcases ofText?_follows_grammar "push-constant(-002147483648)" with ⟨_, _, constant, _⟩
  rcases ofText?_follows_grammar "mul\n" with ⟨_, _, _, _, blank⟩
  refine ⟨(plain "mul" mul (by decide)).mpr rfl, ?_, ?_, blank '\n' (by decide) (by decide)⟩
  · exact (named "call" call (.tail _ (.tail _ (.tail _ (.head _)))) _).mpr ⟨rfl, nameable⟩
  · exact (constant _).mpr ⟨_, _, rfl, denotes, by decide, by decide, rfl⟩

-- The ends of the range of words, behind leading zeros, and the numbers next to them.
example :
    ofText? "push-constant(-002147483648)" = some (pushConstant (-2147483648)) ∧
      ofText? "push-constant(0002147483647)" = some (pushConstant 2147483647) ∧
      ofText? "push-constant(-2147483649)" = none ∧
      ofText? "push-constant(2147483648)" = none := by
  decide

end SlotLang.Instr
