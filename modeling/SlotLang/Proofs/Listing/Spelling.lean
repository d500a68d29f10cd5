import Mathlib.Data.List.Basic
import SlotLang.Instr.Reader

/-!
# How a line spells an instruction

The reader tries the forms of a line one after the other.  Each form starts with a
keyword of its own, so at most one of them fits, and the order of the attempts plays no
part: a line is read as an instruction exactly if it spells the instruction.
-/

namespace SlotLang.Instr

/-! ## Operands -/

theorem isName_iff {chars : List Char} :
    isName chars = true ↔
      chars ≠ [] ∧
        ∀ char ∈ chars, char ≠ '(' ∧ char ≠ ')' ∧ Text.isBlank char = false := by
  cases chars with
  | nil => simp [isName]
  | cons first rest => simp [isName, and_assoc]

/-- `Numeral chars value`: the characters are decimal digits behind an optional minus
sign, and denote the value. -/
inductive Numeral : List Char → Int → Prop where
  | natural {digits : List Char} (nonempty : digits ≠ [])
      (decimal : ∀ digit ∈ digits, digit.isDigit = true) :
      Numeral digits (Nat.ofDigitChars 10 digits 0)
  | negative {digits : List Char} (nonempty : digits ≠ [])
      (decimal : ∀ digit ∈ digits, digit.isDigit = true) :
      Numeral ('-' :: digits) (-(Nat.ofDigitChars 10 digits 0))

theorem natural?_eq_some_iff {chars : List Char} {value : Nat} :
    natural? chars = some value ↔
      chars ≠ [] ∧ (∀ char ∈ chars, char.isDigit = true) ∧
        Nat.ofDigitChars 10 chars 0 = value := by
  simp [natural?, and_assoc]

theorem integer?_eq_some_iff {chars : List Char} {value : Int} :
    integer? chars = some value ↔ Numeral chars value := by
  constructor
  · intro found
    unfold integer? at found
    split at found
    · rcases Option.map_eq_some_iff.mp found with ⟨_, magnitude, rfl⟩
      rcases Option.bind_eq_some_iff.mp magnitude with ⟨_, digits, ⟨⟩⟩
      rcases natural?_eq_some_iff.mp digits with ⟨nonempty, decimal, rfl⟩
      exact .negative nonempty decimal
    · rcases Option.map_eq_some_iff.mp found with ⟨_, magnitude, rfl⟩
      rcases Option.bind_eq_some_iff.mp magnitude with ⟨_, digits, ⟨⟩⟩
      rcases natural?_eq_some_iff.mp digits with ⟨nonempty, decimal, rfl⟩
      exact .natural nonempty decimal
  · intro numeral
    cases numeral with
    | natural nonempty decimal =>
        have digits := natural?_eq_some_iff.mpr ⟨nonempty, decimal, rfl⟩
        unfold integer?
        split
        · -- A minus sign is no digit.
          have minus := decimal '-' List.mem_cons_self
          contradiction
        · rw [digits]
          rfl
    | negative nonempty decimal =>
        have digits := natural?_eq_some_iff.mpr ⟨nonempty, decimal, rfl⟩
        rw [integer?, digits]
        rfl

/-- A word is read from the numerals that denote it, and from no others. -/
theorem word?_eq_some_iff {chars : List Char} {value : Int32} :
    word? chars = some value ↔ Numeral chars value.toInt := by
  rw [← integer?_eq_some_iff, word?, Option.bind_eq_some_iff]
  constructor
  · rintro ⟨number, found, inRange⟩
    split at inRange
    · rename_i bounds
      cases inRange
      have low : -2 ^ 31 ≤ number := bounds.1
      have high : number < 2 ^ 31 := Int.lt_add_one_of_le bounds.2
      rw [Int32.toInt_ofInt_of_le low high]
      exact found
    · contradiction
  · intro found
    refine ⟨value.toInt, found, ?_⟩
    rw [if_pos ⟨value.minValue_le_toInt, value.toInt_le⟩, Int32.ofInt_toInt]

theorem numeral_natRepr (value : Nat) :
    value.repr.toList ≠ [] ∧ (∀ digit ∈ value.repr.toList, digit.isDigit = true) ∧
      Nat.ofDigitChars 10 value.repr.toList 0 = value := by
  rw [Nat.repr_eq_ofList_toDigits, String.toList_ofList]
  refine ⟨Nat.toDigits_ne_nil, ?_, Nat.ofDigitChars_ten_toDigits⟩
  intro digit member
  exact Nat.isDigit_of_mem_toDigits (by decide) (by decide) member

/-- A number is denoted by the numeral that is written for it. -/
theorem numeral_repr (value : Int) : Numeral value.repr.toList value := by
  rw [Int.repr_eq_if]
  split
  · rename_i positive
    rcases numeral_natRepr value.toNat with ⟨nonempty, decimal, denotes⟩
    have numeral := Numeral.natural nonempty decimal
    rwa [denotes, Int.toNat_of_nonneg positive] at numeral
  · rcases numeral_natRepr (-value).toNat with ⟨nonempty, decimal, denotes⟩
    have numeral := Numeral.negative nonempty decimal
    rw [denotes, Int.toNat_of_nonneg (by omega), Int.neg_neg] at numeral
    rw [String.toList_append]
    exact numeral

/-! ## Keywords with an operand -/

/-- A keyword followed by an operand between parentheses. -/
def framed (keyword : String) (operand : List Char) : List Char :=
  keyword.toList ++ '(' :: (operand ++ [')'])

theorem toList_withOperand (keyword operand : String) :
    (withOperand keyword operand).toList = framed keyword operand.toList := by
  simp [withOperand, framed, String.toList_append]

theorem operand?_eq_some_iff {keyword : String} {line operand : List Char} :
    operand? keyword line = some operand ↔ line = framed keyword operand := by
  simp only [operand?, Option.bind_eq_some_iff, List.isPrefixOf?_eq_some_iff_append_eq,
    List.isSuffixOf?_eq_some_iff_append_eq, String.toList_append, framed]
  constructor
  · rintro ⟨_, rfl, rfl⟩
    simp
  · rintro rfl
    exact ⟨operand ++ [')'], by simp, rfl⟩

/-- The keyword of a line ends at the first parenthesis. -/
theorem takeWhile_framed {keyword : String} (plain : '(' ∉ keyword.toList)
    (operand : List Char) :
    (framed keyword operand).takeWhile (· != '(') = keyword.toList := by
  have kept : ∀ char ∈ keyword.toList, (char != '(') = true := by
    intro char member
    rw [bne_iff_ne]
    rintro rfl
    exact plain member
  rw [framed, List.takeWhile_append_of_pos kept, List.takeWhile_cons_of_neg (by decide),
    List.append_nil]

/-- A line that starts with one keyword has no operand for another one. -/
theorem operand?_framed_of_ne {keyword other : String} (plain : '(' ∉ keyword.toList)
    (otherPlain : '(' ∉ other.toList) (different : other ≠ keyword) (operand : List Char) :
    operand? other (framed keyword operand) = none := by
  rw [Option.eq_none_iff_forall_ne_some]
  intro found read
  have same := congrArg (List.takeWhile (· != '(')) (operand?_eq_some_iff.mp read)
  rw [takeWhile_framed plain, takeWhile_framed otherPlain, String.toList_inj] at same
  exact different same.symm

theorem named?_eq_some_iff {keyword : String} {make : String → Instr} {line : List Char}
    {instr : Instr} :
    named? keyword make line = some instr ↔
      ∃ name, isName name = true ∧ line = framed keyword name ∧
        make (String.ofList name) = instr := by
  simp only [named?, Option.bind_eq_some_iff, operand?_eq_some_iff]
  grind

theorem constant?_eq_some_iff {line : List Char} {instr : Instr} :
    constant? line = some instr ↔
      ∃ digits value, Numeral digits value.toInt ∧ line = framed "push-constant" digits ∧
        pushConstant value = instr := by
  simp only [constant?, Option.map_eq_some_iff, Option.bind_eq_some_iff,
    operand?_eq_some_iff, word?_eq_some_iff]
  grind

theorem plain?_eq_some_iff {keyword : String} {instr found : Instr} {line : List Char} :
    plain? keyword instr line = some found ↔ line = keyword.toList ∧ instr = found := by
  simp [plain?]

theorem named?_framed_of_ne {keyword other : String} {make : String → Instr}
    (plain : '(' ∉ keyword.toList) (otherPlain : '(' ∉ other.toList)
    (different : other ≠ keyword) (operand : List Char) :
    named? other make (framed keyword operand) = none := by
  rw [named?, operand?_framed_of_ne plain otherPlain different]
  rfl

theorem constant?_framed_of_ne {keyword : String} (plain : '(' ∉ keyword.toList)
    (different : "push-constant" ≠ keyword) (operand : List Char) :
    constant? (framed keyword operand) = none := by
  rw [constant?, operand?_framed_of_ne plain (by decide) different]
  rfl

theorem plain?_framed {keyword other : String} {instr : Instr}
    (otherPlain : '(' ∉ other.toList) (operand : List Char) :
    plain? other instr (framed keyword operand) = none := by
  rw [plain?, if_neg]
  intro same
  apply otherPlain
  rw [← same, framed]
  exact List.mem_append_right _ List.mem_cons_self

/-! ## Lines -/

/-- `instr.Spells line`: the line is a way to write the instruction.  Numbers may have
leading zeros; apart from that there is one way only. -/
def Spells : Instr → List Char → Prop
  | localDeclare name, line =>
      isName name.toList = true ∧ line = framed "local-declare" name.toList
  | pushConstant value, line =>
      ∃ digits, Numeral digits value.toInt ∧ line = framed "push-constant" digits
  | loadLocal name, line =>
      isName name.toList = true ∧ line = framed "load-local" name.toList
  | storeLocal name, line =>
      isName name.toList = true ∧ line = framed "store-local" name.toList
  | add, line => line = "add".toList
  | sub, line => line = "sub".toList
  | mul, line => line = "mul".toList
  | call name, line => isName name.toList = true ∧ line = framed "call" name.toList

theorem spells_of_named? {keyword : String} {make : String → Instr} {line : List Char}
    {instr : Instr} (read : named? keyword make line = some instr)
    (spells : ∀ name : String, isName name.toList = true →
      (make name).Spells (framed keyword name.toList)) :
    instr.Spells line := by
  rcases named?_eq_some_iff.mp read with ⟨name, isName, rfl, rfl⟩
  have spelled := spells (String.ofList name)
  rw [String.toList_ofList] at spelled
  exact spelled isName

theorem spells_of_plain? {keyword : String} {instr found : Instr} {line : List Char}
    (read : plain? keyword instr line = some found) (spells : instr.Spells keyword.toList) :
    found.Spells line := by
  rcases plain?_eq_some_iff.mp read with ⟨rfl, rfl⟩
  exact spells

theorem spells_of_ofChars? {line : List Char} {instr : Instr}
    (read : ofChars? line = some instr) : instr.Spells line := by
  simp only [ofChars?, Option.orElse_eq_orElse, Option.orElse_eq_or, Option.or_eq_some_iff]
    at read
  rcases read with read | ⟨-, read | ⟨-, read | ⟨-, read | ⟨-, read | ⟨-, read |
    ⟨-, read | ⟨-, read⟩⟩⟩⟩⟩⟩⟩
  · exact spells_of_named? read fun _ isName => ⟨isName, rfl⟩
  · rcases constant?_eq_some_iff.mp read with ⟨digits, value, numeral, rfl, rfl⟩
    exact ⟨digits, numeral, rfl⟩
  · exact spells_of_named? read fun _ isName => ⟨isName, rfl⟩
  · exact spells_of_named? read fun _ isName => ⟨isName, rfl⟩
  · exact spells_of_plain? read rfl
  · exact spells_of_plain? read rfl
  · exact spells_of_plain? read rfl
  · exact spells_of_named? read fun _ isName => ⟨isName, rfl⟩

theorem named?_framed {keyword : String} {make : String → Instr} {name : String}
    (valid : isName name.toList = true) :
    named? keyword make (framed keyword name.toList) = some (make name) :=
  named?_eq_some_iff.mpr ⟨name.toList, valid, rfl, by rw [String.ofList_toList]⟩

/-- A line is read as the instruction that it spells: the forms that are tried before the
right one do not fit. -/
theorem ofChars?_of_spells {line : List Char} {instr : Instr} (spells : instr.Spells line) :
    ofChars? line = some instr := by
  cases instr with
  | localDeclare name =>
      rcases spells with ⟨valid, rfl⟩
      rw [ofChars?, named?_framed valid]
      rfl
  | pushConstant value =>
      rcases spells with ⟨digits, numeral, rfl⟩
      have read := constant?_eq_some_iff.mpr ⟨digits, value, numeral, rfl, rfl⟩
      simp (disch := decide) only [ofChars?, named?_framed_of_ne, read]
      rfl
  | loadLocal name =>
      rcases spells with ⟨valid, rfl⟩
      have read := @named?_framed "load-local" loadLocal name valid
      simp (disch := decide) only [ofChars?, named?_framed_of_ne, constant?_framed_of_ne, read]
      rfl
  | storeLocal name =>
      rcases spells with ⟨valid, rfl⟩
      have read := @named?_framed "store-local" storeLocal name valid
      simp (disch := decide) only [ofChars?, named?_framed_of_ne, constant?_framed_of_ne, read]
      rfl
  | add =>
      cases spells
      rfl
  | sub =>
      cases spells
      rfl
  | mul =>
      cases spells
      rfl
  | call name =>
      rcases spells with ⟨valid, rfl⟩
      have read := @named?_framed "call" call name valid
      simp (disch := decide) only [ofChars?, named?_framed_of_ne, constant?_framed_of_ne,
        plain?_framed, read]
      rfl

/-- A line is read as an instruction exactly if it spells the instruction. -/
theorem ofChars?_eq_some_iff {line : List Char} {instr : Instr} :
    ofChars? line = some instr ↔ instr.Spells line :=
  ⟨spells_of_ofChars?, ofChars?_of_spells⟩

/-! ## Spellings have no blanks -/

theorem not_isBlank_of_isDigit {char : Char} (digit : char.isDigit = true) :
    Text.isBlank char = false := by
  have bounds : 48 ≤ char.toNat ∧ char.toNat ≤ 57 := by
    simpa [Char.isDigit, UInt32.le_iff_toNat_le] using digit
  simp only [Text.isBlank, Bool.or_eq_false_iff, Bool.and_eq_false_iff, decide_eq_false_iff_not,
    beq_eq_false_iff_ne]
  omega

theorem Numeral.not_isBlank {chars : List Char} {value : Int} (numeral : Numeral chars value) :
    ∀ char ∈ chars, Text.isBlank char = false := by
  cases numeral with
  | natural _ decimal =>
      intro char member
      exact not_isBlank_of_isDigit (decimal char member)
  | negative _ decimal =>
      rw [List.forall_mem_cons]
      constructor
      · rfl
      · intro char member
        exact not_isBlank_of_isDigit (decimal char member)

theorem not_isBlank_of_any {text : List Char} (solid : text.any Text.isBlank = false) :
    ∀ char ∈ text, Text.isBlank char = false :=
  fun char member => Bool.eq_false_iff.mpr (List.any_eq_false.mp solid char member)

theorem not_isBlank_framed {keyword : String} {operand : List Char}
    (keywordSolid : keyword.toList.any Text.isBlank = false)
    (operandSolid : ∀ char ∈ operand, Text.isBlank char = false) :
    ∀ char ∈ framed keyword operand, Text.isBlank char = false := by
  simp only [framed, List.forall_mem_append, List.forall_mem_cons]
  exact ⟨not_isBlank_of_any keywordSolid, rfl, operandSolid, rfl, by simp⟩

theorem not_isBlank_of_isName {name : List Char} (valid : isName name = true) :
    ∀ char ∈ name, Text.isBlank char = false :=
  fun char member => ((isName_iff.mp valid).2 char member).2.2

/-- No character of a spelling is blank. -/
theorem Spells.not_isBlank {instr : Instr} {line : List Char} (spells : instr.Spells line) :
    ∀ char ∈ line, Text.isBlank char = false := by
  cases instr with
  | localDeclare name =>
      rcases spells with ⟨valid, rfl⟩
      exact not_isBlank_framed rfl (not_isBlank_of_isName valid)
  | pushConstant value =>
      rcases spells with ⟨digits, numeral, rfl⟩
      exact not_isBlank_framed rfl numeral.not_isBlank
  | loadLocal name =>
      rcases spells with ⟨valid, rfl⟩
      exact not_isBlank_framed rfl (not_isBlank_of_isName valid)
  | storeLocal name =>
      rcases spells with ⟨valid, rfl⟩
      exact not_isBlank_framed rfl (not_isBlank_of_isName valid)
  | add =>
      cases spells
      exact not_isBlank_of_any rfl
  | sub =>
      cases spells
      exact not_isBlank_of_any rfl
  | mul =>
      cases spells
      exact not_isBlank_of_any rfl
  | call name =>
      rcases spells with ⟨valid, rfl⟩
      exact not_isBlank_framed rfl (not_isBlank_of_isName valid)

theorem Spells.ne_nil {instr : Instr} {line : List Char} (spells : instr.Spells line) :
    line ≠ [] := by
  rintro rfl
  have read := ofChars?_of_spells spells
  contradiction

end SlotLang.Instr
