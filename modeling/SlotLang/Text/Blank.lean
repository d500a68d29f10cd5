/-!
# Blank characters

Blank means the Unicode property `White_Space`: the ASCII blanks together with
the next-line control, the no-break spaces, the typographic spaces and the two
separators of lines and paragraphs.  A line is trimmed of blanks at either end.
-/

namespace SlotLang.Text

/-- Whether a character has the Unicode property `White_Space`. -/
def isBlank (char : Char) : Bool :=
  let point := char.toNat
  (0x09 ≤ point && point ≤ 0x0D) || point == 0x20 || point == 0x85 ||
    point == 0xA0 || point == 0x1680 || (0x2000 ≤ point && point ≤ 0x200A) ||
    point == 0x2028 || point == 0x2029 || point == 0x202F || point == 0x205F ||
    point == 0x3000

/-- The blanks at the front of a text. -/
def leadingBlanks (chars : List Char) : List Char :=
  chars.takeWhile isBlank

/-- A text without the blanks at its front. -/
def trimStart (chars : List Char) : List Char :=
  chars.dropWhile isBlank

/-- A text without the blanks at its back. -/
def trimEnd (chars : List Char) : List Char :=
  (chars.reverse.dropWhile isBlank).reverse

/-- A text without the blanks at either end. -/
def trim (chars : List Char) : List Char :=
  trimEnd (trimStart chars)

/-- Trimming the front removes exactly the leading blanks. -/
@[simp]
theorem leadingBlanks_append_trimStart (chars : List Char) :
    leadingBlanks chars ++ trimStart chars = chars :=
  List.takeWhile_append_dropWhile

/-- A text without blanks is its own trimmed form. -/
theorem trim_eq_self {chars : List Char}
    (noBlank : ∀ char ∈ chars, isBlank char = false) :
    trim chars = chars := by
  have kept : ∀ text : List Char, (∀ char ∈ text, isBlank char = false) →
      text.dropWhile isBlank = text := by
    intro text absent
    cases text with
    | nil => rfl
    | cons char rest => simp [absent char (by simp)]
  rw [trim, trimStart, kept chars noBlank, trimEnd,
    kept chars.reverse (by simpa using noBlank), List.reverse_reverse]

end SlotLang.Text
