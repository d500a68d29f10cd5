import Mathlib.Data.List.DropRight
import SlotLang.Diagnostic.Report
import SlotLang.Proofs.Listing.Spelling
import SlotLang.Proofs.Text.Locate

/-!
# Where the caret stands

A report ends in two rows: a line of the source without the blanks around it, and a caret.
The caret is as far to the right of where the text starts as the shown characters in front
of the reported position are long in UTF-8.  That is under the character at this position
exactly if each of these characters takes one byte; any other pushes the caret further to
the right than it should stand.
-/

namespace SlotLang

namespace Text

/-! ## Trimmed text -/

theorem trimEnd_eq_rdropWhile (chars : List Char) : trimEnd chars = chars.rdropWhile isBlank :=
  rfl

theorem trim_trimStart (chars : List Char) : trim (trimStart chars) = trim chars := by
  rw [trim, trimStart, trimStart, List.dropWhile_idempotent, trim, trimStart]

/-- Trimmed text stands in the text that it was trimmed from. -/
theorem exists_eq_append_trim (chars : List Char) :
    ∃ front back, chars = front ++ trim chars ++ back := by
  rcases List.rdropWhile_prefix isBlank (trimStart chars) with ⟨back, ended⟩
  refine ⟨leadingBlanks chars, back, ?_⟩
  rw [List.append_assoc, trim, trimEnd_eq_rdropWhile, ended, leadingBlanks_append_trimStart]

/-- Trimmed text does not end in a blank. -/
theorem isBlank_of_trim_eq {chars front : List Char} {char : Char}
    (split : trim chars = front ++ [char]) : isBlank char = false := by
  rw [trim, trimEnd_eq_rdropWhile] at split
  have nonempty : (trimStart chars).rdropWhile isBlank ≠ [] := by simp [split]
  have last := List.rdropWhile_last_not isBlank (trimStart chars) nonempty
  simpa [split] using last

/-- A line feed at the end of a line is trimmed away. -/
theorem newline_not_mem_trim {line : List Char} (solid : '\n' ∉ line.dropLast) :
    '\n' ∉ trim line := by
  intro member
  rcases exists_eq_append_trim line with ⟨front, back, split⟩
  rcases List.append_of_mem member with ⟨first, second, found⟩
  -- Behind the line feed there is more, since trimmed text does not end in a blank.
  have more : second ++ back ≠ [] := by
    intro none
    rw [List.append_eq_nil_iff] at none
    rw [none.1] at found
    exact absurd (isBlank_of_trim_eq found) (by decide)
  apply solid
  rw [split, found, List.append_assoc, List.append_assoc, List.cons_append,
    ← List.append_assoc, List.dropLast_append_of_ne_nil (List.cons_ne_nil _ _),
    List.dropLast_cons_of_ne_nil more]
  simp

theorem pieces_append (front back : List Char) :
    pieces (front ++ '\n' :: back) = pieces front ++ pieces back := by
  rw [pieces_eq_splitOn, pieces_eq_splitOn, pieces_eq_splitOn]
  exact List.splitOnP_append_cons front back (beq_self_eq_true '\n')

/-! ## Bytes and characters -/

/-- Of two beginnings of a text, the one that is not the longer begins the other. -/
theorem exists_cut {front back before after : List Char}
    (same : before ++ after = front ++ back) (short : byteSize before ≤ byteSize front) :
    ∃ between, front = before ++ between ∧ after = between ++ back := by
  rcases List.append_eq_append_iff.mp same with ⟨between, split, rest⟩ | ⟨excess, split, rest⟩
  · exact ⟨between, split, rest⟩
  · have none : excess = [] := by
      by_contra some
      have positive := byteSize_pos some
      rw [split, byteSize_append] at short
      omega
    subst none
    exact ⟨[], by simpa using split.symm, by simpa using rest.symm⟩

/-- The characters that lie in the first bytes of a text. -/
def takeBytes : Nat → List Char → List Char
  | _, [] => []
  | size, char :: rest =>
      if char.utf8Size ≤ size then char :: takeBytes (size - char.utf8Size) rest else []

theorem takeBytes_append (front back : List Char) :
    takeBytes (byteSize front) (front ++ back) = front := by
  induction front with
  | nil =>
      cases back with
      | nil => rfl
      | cons char rest =>
          have positive := char.utf8Size_pos
          rw [List.nil_append, byteSize_nil, takeBytes, if_neg (by omega)]
  | cons char rest inductionHypothesis =>
      rw [List.cons_append, byteSize_cons, takeBytes, if_pos (Nat.le_add_right _ _),
        Nat.add_sub_cancel_left, inductionHypothesis]

/-- Where the byte is the first of a character in the text, it is so in its line. -/
theorem exists_preceding {text : String} {offset : UInt32} {line : Line}
    (found : lineAt? text offset = some line) {front back : List Char}
    (split : text.toList = front ++ back) (start : byteSize front = offset.toNat) :
    ∃ preceding following, line.text.toList = preceding ++ following ∧
      byteSize preceding = line.column := by
  rcases lineAt?_eq_some_iff.mp found with ⟨before, after, around, -, lineStart, inLine, -⟩
  rw [around, List.append_assoc] at split
  rcases exists_cut split (by omega) with ⟨preceding, rfl, rest⟩
  rw [byteSize_append] at start
  rcases exists_cut rest.symm (by omega) with ⟨following, whole, -⟩
  exact ⟨preceding, following, whole, by omega⟩

theorem length_le_byteSize (chars : List Char) : chars.length ≤ byteSize chars := by
  induction chars with
  | nil => exact Nat.le_refl 0
  | cons char rest inductionHypothesis =>
      have positive := char.utf8Size_pos
      rw [List.length_cons, byteSize_cons]
      omega

/-- A text has as many bytes as characters exactly if all of them are ASCII. -/
theorem length_eq_byteSize_iff {chars : List Char} :
    chars.length = byteSize chars ↔ ∀ char ∈ chars, char.toNat < 128 := by
  induction chars with
  | nil => simp
  | cons char rest inductionHypothesis =>
      have positive := char.utf8Size_pos
      have atLeast := length_le_byteSize rest
      have narrow : char.utf8Size = 1 ↔ char.toNat < 128 := by
        rw [Char.utf8Size_eq_one_iff, UInt32.le_iff_toNat_le]
        exact Nat.lt_succ_iff.symm
      rw [List.forall_mem_cons, ← inductionHypothesis, ← narrow, List.length_cons,
        byteSize_cons]
      omega

end Text

namespace Diagnostic

variable {line : Text.Line} {source : String}

/-! ## The distance of the caret -/

/-- What is shown of a line in front of its column: the characters there, without the
blanks at the front of the line. -/
def shownBefore (line : Text.Line) : List Char :=
  (Text.takeBytes line.column line.text.toList).drop
    (Text.leadingBlanks line.text.toList).length

/-- The caret moves to the right by the bytes of what is shown in front of the column. -/
theorem caretOffset_eq_byteSize {preceding following : List Char}
    (split : line.text.toList = preceding ++ following)
    (start : Text.byteSize preceding = line.column) :
    caretOffset line = Text.byteSize (shownBefore line) := by
  have whole := Text.leadingBlanks_append_trimStart line.text.toList
  have taken : Text.takeBytes line.column line.text.toList = preceding := by
    rw [← start, split, Text.takeBytes_append]
  rw [caretOffset, shownBefore, taken, ← start]
  generalize Text.leadingBlanks line.text.toList = blanks at whole ⊢
  rw [split] at whole
  rcases List.append_eq_append_iff.mp whole with ⟨shown, rfl, -⟩ | ⟨unread, rfl, -⟩
  · rw [List.drop_left, Text.byteSize_append, Nat.add_sub_cancel_left]
  · -- The column lies in the indentation, so nothing is shown in front of it.
    rw [Text.byteSize_append, Nat.sub_add_eq, Nat.sub_self, Nat.zero_sub,
      List.drop_eq_nil_of_le (by simp), Text.byteSize_nil]

/-! ## The last rows of a report -/

/-- What stands in front of the text of a line in a report. -/
def margin (line : Text.Line) : List Char :=
  line.number.repr.toList ++ [' ', '|', ' ']

/-- The row below the text of a line, with a caret at a distance from where that starts. -/
def caretRow (line : Text.Line) (distance : Nat) : List Char :=
  List.replicate (line.number.repr.length + 1) ' ' ++ ['|', ' '] ++
    List.replicate distance '-' ++ ['^']

/-- `Marks report line distance`: the last two rows of the report are the line with its
number and without the blanks around it, and a row with a bar below the bar and a single
caret, at that distance to the right of where the text of the line starts. -/
def Marks (report : String) (line : Text.Line) (distance : Nat) : Prop :=
  ∃ textRow markRow, [textRow, markRow, []] <:+ report.toList.splitOn '\n' ∧
    textRow = margin line ++ Text.trim line.text.toList ∧
    markRow.count '|' = 1 ∧ markRow.idxOf '|' = textRow.idxOf '|' ∧
    markRow.count '^' = 1 ∧ markRow.idxOf '^' = (margin line).length + distance

theorem not_mem_number {char : Char} (other : char.isDigit = false) (line : Text.Line) :
    char ∉ line.number.repr.toList := by
  intro member
  rw [(Instr.numeral_natRepr line.number).2.1 char member] at other
  cases other

theorem excerpt_toList (line : Text.Line) :
    (excerpt line).toList =
      List.replicate (line.number.repr.length + 1) ' ' ++ ['|'] ++ '\n' ::
        (margin line ++ Text.trim line.text.toList ++ '\n' ::
          (caretRow line (caretOffset line) ++ '\n' :: [])) := by
  have bar : "|".length = 1 := rfl
  have caret : "^".length = 1 := rfl
  simp [excerpt, Text.alignRight, margin, caretRow, Text.trim_trimStart, bar, caret]

/-- The last two rows of a report, and nothing behind the last line feed. -/
theorem rows_suffix {diagnostic : Diagnostic}
    (found : Text.lineAt? source diagnostic.position.offset = some line) (file : String) :
    [margin line ++ Text.trim line.text.toList, caretRow line (caretOffset line), []] <:+
      (diagnostic.report source file).toList.splitOn '\n' := by
  rcases Text.lineAt?_eq_some_iff.mp found with ⟨before, after, -, isLine, -⟩
  have textSolid : '\n' ∉ margin line ++ Text.trim line.text.toList := by
    rw [margin, List.mem_append, List.mem_append]
    rintro ((inNumber | inBar) | inText)
    · exact not_mem_number (by decide) line inNumber
    · exact absurd inBar (by decide)
    · exact Text.newline_not_mem_trim isLine.solid inText
  have markSolid : '\n' ∉ caretRow line (caretOffset line) := by simp [caretRow]
  rw [report, found, String.toList_append, excerpt_toList, ← List.append_assoc,
    ← Text.pieces_eq_splitOn, Text.pieces_append,
    Text.pieces_append_newline fun _ member => ne_of_mem_of_not_mem member textSolid,
    Text.pieces_append_newline fun _ member => ne_of_mem_of_not_mem member markSolid]
  exact List.suffix_append _ _

theorem idxOf_bar_margin (line : Text.Line) (text : List Char) :
    (margin line ++ text).idxOf '|' = line.number.repr.length + 1 := by
  rw [margin, List.append_assoc, List.idxOf_append_of_notMem (not_mem_number (by decide) line)]
  rfl

theorem idxOf_bar_caretRow (line : Text.Line) (distance : Nat) :
    (caretRow line distance).idxOf '|' = line.number.repr.length + 1 := by
  rw [caretRow, List.append_assoc, List.append_assoc, List.idxOf_append_of_notMem (by simp),
    List.length_replicate]
  rfl

theorem idxOf_caret_caretRow (line : Text.Line) (distance : Nat) :
    (caretRow line distance).idxOf '^' = (margin line).length + distance := by
  rw [caretRow, List.idxOf_append_of_notMem (by simp), List.idxOf_cons_self, margin]
  simp only [List.length_append, List.length_replicate, List.length_cons, List.length_nil,
    String.length_toList]
  omega

/-- The rows of a report mark its line at the distance of the caret, and at no other. -/
theorem marks_report_iff {diagnostic : Diagnostic}
    (found : Text.lineAt? source diagnostic.position.offset = some line) (file : String)
    {distance : Nat} :
    Marks (diagnostic.report source file) line distance ↔ distance = caretOffset line := by
  have rows := rows_suffix found file
  constructor
  · rintro ⟨textRow, markRow, otherRows, -, -, -, -, position⟩
    have same := (List.suffix_of_suffix_length_le otherRows rows (Nat.le_refl 3)).eq_of_length rfl
    simp only [List.cons.injEq, and_true] at same
    rw [same.2, idxOf_caret_caretRow] at position
    exact (Nat.add_left_cancel position).symm
  · rintro rfl
    refine ⟨_, _, rows, rfl, ?_, ?_, ?_, idxOf_caret_caretRow line _⟩
    · simp [caretRow, List.count_replicate]
    · rw [idxOf_bar_caretRow, idxOf_bar_margin]
    · simp [caretRow, List.count_replicate]

/-- A report about the first byte of a character of the source shows the line that holds
it, and a caret below.  The caret is as far to the right as what is shown in front of the
column has bytes.  So it stands under the character exactly if all of that is ASCII. -/
theorem report_caret_counts_bytes (diagnostic : Diagnostic) (file : String)
    {front back : List Char} (split : source.toList = front ++ back) (inside : back ≠ [])
    (start : Text.byteSize front = diagnostic.position.offset.toNat) :
    ∃ line, Text.lineAt? source diagnostic.position.offset = some line ∧
      (∀ distance, Marks (diagnostic.report source file) line distance ↔
        distance = Text.byteSize (shownBefore line)) ∧
      (Marks (diagnostic.report source file) line (shownBefore line).length ↔
        ∀ char ∈ shownBefore line, char.toNat < 128) := by
  have inText : diagnostic.position.offset.toNat < Text.byteSize source.toList := by
    have positive := Text.byteSize_pos inside
    rw [split, Text.byteSize_append]
    omega
  rcases Text.exists_lineAt? inText with ⟨line, found⟩
  rcases Text.exists_preceding found split start with ⟨preceding, following, whole, column⟩
  have marked : ∀ distance, Marks (diagnostic.report source file) line distance ↔
      distance = Text.byteSize (shownBefore line) := by
    intro distance
    rw [← caretOffset_eq_byteSize whole column]
    exact marks_report_iff found file
  exact ⟨line, found, marked, (marked _).trans Text.length_eq_byteSize_iff⟩

/-- The complaint that `y` is not defined, about some byte of the source. -/
def undefinedAt (offset : UInt32) : Diagnostic :=
  { cause := .badName "y" .notDefined, position := { offset := offset, file := "main" } }

/-- Behind a blank of three bytes and a tab the caret is in place. -/
theorem wideIndent_marked :
    "x\n\u2003\tx = y\n".toList = "x\n\u2003\tx = ".toList ++ "y\n".toList ∧
      ∃ line, Text.lineAt? "x\n\u2003\tx = y\n" 10 = some line ∧ line.number = 2 ∧
        shownBefore line = "x = ".toList ∧
        Marks ((undefinedAt 10).report "x\n\u2003\tx = y\n" "main") line 4 := by
  have split : "x\n\u2003\tx = y\n".toList = "x\n\u2003\tx = ".toList ++ "y\n".toList := rfl
  rcases report_caret_counts_bytes (undefinedAt 10) "main" split (by decide) rfl with
    ⟨line, found, -, inPlace⟩
  have computed : Text.lineAt? "x\n\u2003\tx = y\n" 10 = some ⟨2, "\u2003\tx = y\n", 8⟩ := rfl
  obtain rfl := Option.some.inj (computed.symm.trans found)
  have ascii : "x = ".toList.all (fun char => char.toNat < 128) = true := rfl
  refine ⟨split, _, found, rfl, rfl, inPlace.mpr ?_⟩
  exact fun char member => of_decide_eq_true (List.all_eq_true.mp ascii char member)

/-- Behind a letter of two bytes the caret is not under the fifth character, although four
are shown in front of it. -/
theorem accented_caret_displaced :
    "é = y\n".toList = "é = ".toList ++ "y\n".toList ∧
      Text.byteSize "é = ".toList = 5 ∧
      Text.lineAt? "é = y\n" 5 = some { number := 1, text := "é = y\n", column := 5 } ∧
      shownBefore { number := 1, text := "é = y\n", column := 5 } = "é = ".toList ∧
      ¬ Marks ((undefinedAt 5).report "é = y\n" "main")
          { number := 1, text := "é = y\n", column := 5 } "é = ".toList.length := by
  have found : Text.lineAt? "é = y\n" (undefinedAt 5).position.offset =
      some { number := 1, text := "é = y\n", column := 5 } := rfl
  refine ⟨rfl, rfl, found, rfl, ?_⟩
  rw [marks_report_iff found]
  decide

end Diagnostic

end SlotLang
