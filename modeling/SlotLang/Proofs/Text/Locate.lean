import SlotLang.Proofs.Text.Line

/-!
# The line of a byte

What a line of a text is can be said without cutting the text up.  It stands between whole
lines and the rest of the text, holds no line feed but at its end, and ends in one unless
the text ends there.  Every byte of a text lies in just one such line, and that line is
found.
-/

namespace SlotLang.Text

/-! ## Whole lines -/

/-- Whole lines, each with its line feed. -/
inductive WholeLines : List Char → Prop where
  | nil : WholeLines []
  | newline {rest : List Char} (restWhole : WholeLines rest) : WholeLines ('\n' :: rest)
  | cons {char : Char} {rest : List Char} (solid : char ≠ '\n') (nonempty : rest ≠ [])
      (restWhole : WholeLines rest) : WholeLines (char :: rest)

/-- A text consists of whole lines if it is empty or ends in a line feed. -/
theorem wholeLines_iff {chars : List Char} :
    WholeLines chars ↔ chars = [] ∨ chars.getLast? = some '\n' := by
  constructor
  · intro whole
    induction whole with
    | nil => exact .inl rfl
    | @newline rest _ inductionHypothesis =>
        rcases inductionHypothesis with rfl | ended
        · exact .inr rfl
        · exact .inr (by simp [List.getLast?_cons, ended])
    | cons solid nonempty _ inductionHypothesis =>
        have ended := inductionHypothesis.resolve_left nonempty
        exact .inr (by simp [List.getLast?_cons, ended])
  · rintro (rfl | ended)
    · exact .nil
    · induction chars with
      | nil => exact .nil
      | cons char rest inductionHypothesis =>
          cases rest with
          | nil =>
              obtain rfl : char = '\n' := Option.some.inj ended
              exact .newline .nil
          | cons second later =>
              rw [List.getLast?_cons_cons] at ended
              by_cases feed : char = '\n'
              · subst feed
                exact .newline (inductionHypothesis ended)
              · exact .cons feed (List.cons_ne_nil _ _) (inductionHypothesis ended)

theorem lines_ne_nil {chars : List Char} (nonempty : chars ≠ []) : lines chars ≠ [] := by
  intro none
  apply nonempty
  rw [← flatten_lines chars, none, List.flatten_nil]

namespace WholeLines

variable {front : List Char}

theorem append {back : List Char} (frontWhole : WholeLines front)
    (backWhole : WholeLines back) : WholeLines (front ++ back) := by
  induction frontWhole with
  | nil => exact backWhole
  | newline _ inductionHypothesis => exact .newline inductionHypothesis
  | cons solid nonempty _ inductionHypothesis =>
      exact .cons solid (List.append_ne_nil_of_left_ne_nil nonempty back) inductionHypothesis

/-- Behind whole lines a new line begins. -/
theorem lines_append (whole : WholeLines front) (rest : List Char) :
    lines (front ++ rest) = lines front ++ lines rest := by
  induction whole with
  | nil => rfl
  | newline _ inductionHypothesis =>
      rw [List.cons_append, lines_newline, lines_newline, inductionHypothesis,
        List.cons_append]
  | cons solid nonempty _ inductionHypothesis =>
      rw [List.cons_append, lines_cons solid, lines_cons solid, inductionHypothesis]
      rcases List.exists_cons_of_ne_nil (lines_ne_nil nonempty) with ⟨first, later, split⟩
      rw [split]
      rfl

/-- There are as many whole lines as line feeds. -/
theorem length_lines (whole : WholeLines front) :
    (lines front).length = front.count '\n' := by
  induction whole with
  | nil => rfl
  | newline _ inductionHypothesis =>
      rw [lines_newline, List.length_cons, inductionHypothesis, List.count_cons_self]
  | cons solid nonempty _ inductionHypothesis =>
      rw [lines_cons solid, List.count_cons_of_ne solid, ← inductionHypothesis]
      rcases List.exists_cons_of_ne_nil (lines_ne_nil nonempty) with ⟨first, later, split⟩
      rw [split]
      rfl

end WholeLines

/-! ## Lines in their text -/

/-- `IsLine before line after`: of the text that the three make up, the middle one is a
line. -/
structure IsLine (before line after : List Char) : Prop where
  begins : WholeLines before
  nonempty : line ≠ []
  solid : '\n' ∉ line.dropLast
  ends : after = [] ∨ line.getLast? = some '\n'

theorem lines_line {line after : List Char} (nonempty : line ≠ [])
    (solid : '\n' ∉ line.dropLast) (ends : after = [] ∨ line.getLast? = some '\n') :
    lines (line ++ after) = line :: lines after := by
  induction line with
  | nil => contradiction
  | cons char rest inductionHypothesis =>
      cases rest with
      | nil =>
          by_cases feed : char = '\n'
          · subst feed
            exact lines_newline after
          · obtain rfl : after = [] := ends.resolve_right (by simpa using feed)
            rw [List.append_nil, lines_cons feed]
            rfl
      | cons second later =>
          rw [List.dropLast_cons_of_ne_nil (List.cons_ne_nil _ _), List.mem_cons,
            not_or] at solid
          rw [List.getLast?_cons_cons] at ends
          rw [List.cons_append, lines_cons (Ne.symm solid.1),
            inductionHypothesis (List.cons_ne_nil _ _) solid.2 ends]
          rfl

theorem IsLine.lines_eq {before line after : List Char} (isLine : IsLine before line after) :
    lines (before ++ line ++ after) = lines before ++ line :: lines after := by
  rw [List.append_assoc, isLine.begins.lines_append,
    lines_line isLine.nonempty isLine.solid isLine.ends]

/-- A text that is not empty has a first line. -/
theorem exists_first_line {chars : List Char} (nonempty : chars ≠ []) :
    ∃ line after, chars = line ++ after ∧ IsLine [] line after := by
  by_cases member : '\n' ∈ chars
  · rcases List.eq_append_cons_of_mem member with ⟨piece, after, rfl, solid⟩
    refine ⟨piece ++ ['\n'], after, by simp, .nil, by simp, ?_, .inr (by simp)⟩
    rwa [List.dropLast_concat]
  · exact ⟨chars, [], by simp, .nil, nonempty,
      fun inside => member (List.dropLast_subset chars inside), .inl rfl⟩

/-- Every byte of a text lies in a line. -/
theorem exists_isLine {chars : List Char} {offset : Nat} (inside : offset < byteSize chars) :
    ∃ before line after column, chars = before ++ line ++ after ∧
      IsLine before line after ∧ byteSize before + column = offset ∧
      column < byteSize line := by
  have nonempty : chars ≠ [] := by
    rintro rfl
    exact Nat.not_lt_zero offset inside
  rcases exists_first_line nonempty with ⟨first, rest, split, firstLine⟩
  rw [split, byteSize_append] at inside
  by_cases early : offset < byteSize first
  · exact ⟨[], first, rest, offset, split, firstLine, Nat.zero_add offset, early⟩
  · have insideRest : offset - byteSize first < byteSize rest := by omega
    rcases exists_isLine insideRest with
      ⟨before, line, after, column, rfl, isLine, start, inLine⟩
    -- The first line is not the last one, so it ends in a line feed.
    have more : before ++ line ++ after ≠ [] := by simp [isLine.nonempty]
    have firstWhole : WholeLines first :=
      wholeLines_iff.mpr (.inr (firstLine.ends.resolve_left more))
    refine ⟨first ++ before, line, after, column, by simp [split],
      { isLine with begins := firstWhole.append isLine.begins }, ?_, inLine⟩
    rw [byteSize_append]
    omega
termination_by chars.length
decreasing_by
  have positive := List.length_pos_of_ne_nil firstLine.nonempty
  rw [split, List.length_append]
  omega

/-! ## Finding a line -/

theorem lineAmong?_of_le {lines : List (List Char)} {offset : Nat}
    (beyond : byteSize lines.flatten ≤ offset) (number : Nat) :
    lineAmong? number offset lines = none := by
  induction lines generalizing number offset with
  | nil => rfl
  | cons line later inductionHypothesis =>
      rw [List.flatten_cons, byteSize_append] at beyond
      rw [lineAmong?, if_neg (by omega)]
      exact inductionHypothesis (by omega) (number + 1)

/-- There is no line behind the end of the text. -/
theorem lineAt?_of_le {text : String} {offset : UInt32}
    (beyond : byteSize text.toList ≤ offset.toNat) : lineAt? text offset = none := by
  apply lineAmong?_of_le
  rwa [flatten_lines]

theorem lineAt?_of_isLine {text : String} {before line after : List Char}
    (split : text.toList = before ++ line ++ after) (isLine : IsLine before line after)
    {offset : UInt32} {column : Nat} (start : byteSize before + column = offset.toNat)
    (inside : column < byteSize line) :
    lineAt? text offset =
      some
        { number := before.count '\n' + 1
          text := String.ofList line
          column := column } := by
  have found := lineAmong?_append inside 1 (lines before) (lines after)
  rw [flatten_lines, isLine.begins.length_lines, Nat.add_comm 1, start] at found
  rw [lineAt?, split, isLine.lines_eq]
  exact found

/-- There is a line for every byte of the text. -/
theorem exists_lineAt? {text : String} {offset : UInt32}
    (inside : offset.toNat < byteSize text.toList) : ∃ line, lineAt? text offset = some line := by
  rcases exists_isLine inside with ⟨before, line, after, column, split, isLine, start, inLine⟩
  exact ⟨_, lineAt?_of_isLine split isLine start inLine⟩

/-- The line that is found is the one that the byte lies in. -/
theorem lineAt?_eq_some_iff {text : String} {offset : UInt32} {line : Line} :
    lineAt? text offset = some line ↔
      ∃ before after, text.toList = before ++ line.text.toList ++ after ∧
        IsLine before line.text.toList after ∧
        byteSize before + line.column = offset.toNat ∧
        line.column < byteSize line.text.toList ∧
        line.number = before.count '\n' + 1 := by
  constructor
  · intro found
    have inside : offset.toNat < byteSize text.toList := by
      apply Nat.lt_of_not_le
      intro beyond
      rw [lineAt?_of_le beyond] at found
      cases found
    rcases exists_isLine inside with ⟨before, chars, after, column, split, isLine, start, inLine⟩
    rw [lineAt?_of_isLine split isLine start inLine] at found
    obtain rfl := Option.some.inj found
    refine ⟨before, after, ?_, ?_, start, ?_, rfl⟩
    · rw [split, String.toList_ofList]
    · rwa [String.toList_ofList]
    · rwa [String.toList_ofList]
  · rintro ⟨before, after, split, isLine, start, inLine, number⟩
    rw [lineAt?_of_isLine split isLine start inLine, ← number, String.ofList_toList]

/-- A byte is in no line exactly if it is behind the end of the text.  Otherwise the line
that is found stands in the text behind whole lines, of which there is one fewer than its
number says; it has no line feed but at its end, where it has one unless the text ends
there; and the byte is in the line at the column that is found. -/
theorem lineAt?_locates_every_byte (text : String) (offset : UInt32) :
    (lineAt? text offset = none ↔ text.utf8ByteSize ≤ offset.toNat) ∧
      ∀ line, lineAt? text offset = some line ↔
        ∃ before after : String,
          text = before ++ line.text ++ after ∧
          (before = "" ∨ before.toList.getLast? = some '\n') ∧
          line.text ≠ "" ∧ '\n' ∉ line.text.toList.dropLast ∧
          (after = "" ∨ line.text.toList.getLast? = some '\n') ∧
          before.utf8ByteSize + line.column = offset.toNat ∧
          line.column < line.text.utf8ByteSize ∧
          line.number = before.toList.count '\n' + 1 := by
  constructor
  · rw [← byteSize_toList]
    constructor
    · intro absent
      apply Nat.le_of_not_lt
      intro inside
      rcases exists_lineAt? inside with ⟨line, found⟩
      rw [found] at absent
      cases absent
    · exact lineAt?_of_le
  · intro line
    rw [lineAt?_eq_some_iff]
    constructor
    · rintro ⟨before, after, split, isLine, start, inLine, number⟩
      refine ⟨String.ofList before, String.ofList after, ?_, ?_, ?_, isLine.solid, ?_, ?_, ?_, ?_⟩
      · rw [← String.toList_inj, String.toList_append, String.toList_append,
          String.toList_ofList, String.toList_ofList, split]
      · simpa [String.toList_ofList] using wholeLines_iff.mp isLine.begins
      · simpa using isLine.nonempty
      · simpa using isLine.ends
      · rwa [← byteSize_toList, String.toList_ofList]
      · rwa [← byteSize_toList]
      · rwa [String.toList_ofList]
    · rintro ⟨before, after, rfl, begins, nonempty, solid, ends, start, inLine, number⟩
      rw [← byteSize_toList] at start inLine
      refine ⟨before.toList, after.toList, ?_, ⟨?_, ?_, solid, ?_⟩, start, inLine, number⟩
      · rw [String.toList_append, String.toList_append]
      · exact wholeLines_iff.mpr (by simpa using begins)
      · simpa using nonempty
      · simpa using ends

end SlotLang.Text
