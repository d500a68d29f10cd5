import Mathlib.Data.List.Basic
import SlotLang.Text.Line

/-!
# Pieces and lines

A text is cut at its line feeds in two ways.  The lines are the pieces with the line feeds
put back; only an empty last piece is not a line.  So the bytes in front of a piece are the
bytes of the lines in front of it, and a byte of a line is found by adding up the sizes of
the lines before.
-/

namespace SlotLang.Text

/-! ## Sizes -/

/-- A text is as long as its UTF-8 form. -/
theorem byteSize_toList (text : String) : byteSize text.toList = text.utf8ByteSize := by
  rw [← String.ofList_toList (s := text), String.toList_ofList]
  induction text.toList with
  | nil => rfl
  | cons char rest inductionHypothesis =>
      rw [byteSize_cons, inductionHypothesis, String.ofList_cons, String.utf8ByteSize_append,
        String.utf8ByteSize_singleton]

theorem byteSize_pos {line : List Char} (nonempty : line ≠ []) : 0 < byteSize line := by
  cases line with
  | nil => contradiction
  | cons char rest =>
      rw [byteSize_cons]
      exact Nat.add_pos_left char.utf8Size_pos _

/-! ## Pieces -/

theorem pieces_newline (rest : List Char) : pieces ('\n' :: rest) = [] :: pieces rest :=
  rfl

theorem pieces_cons {char : Char} (solid : char ≠ '\n') (rest : List Char) :
    pieces (char :: rest) = consFirst char (pieces rest) := by
  rw [pieces, List.foldr_cons, if_neg solid, pieces]

theorem exists_pieces_eq (chars : List Char) :
    ∃ first later, pieces chars = first :: later := by
  cases chars with
  | nil => exact ⟨[], [], rfl⟩
  | cons char rest =>
      by_cases feed : char = '\n'
      · subst feed
        exact ⟨[], pieces rest, rfl⟩
      · rw [pieces_cons feed]
        cases pieces rest with
        | nil => exact ⟨[char], [], rfl⟩
        | cons first later => exact ⟨char :: first, later, rfl⟩

/-- A line feed ends the piece before it. -/
theorem pieces_append_newline {line : List Char} (solid : ∀ char ∈ line, char ≠ '\n')
    (rest : List Char) :
    pieces (line ++ '\n' :: rest) = line :: pieces rest := by
  induction line with
  | nil => rfl
  | cons char line inductionHypothesis =>
      rcases List.forall_mem_cons.mp solid with ⟨charSolid, lineSolid⟩
      rw [List.cons_append, pieces_cons charSolid, inductionHypothesis lineSolid]
      rfl

/-- The pieces of a text are what its line feeds split it into. -/
theorem pieces_eq_splitOn (chars : List Char) : pieces chars = chars.splitOn '\n' := by
  induction chars with
  | nil => rfl
  | cons char rest inductionHypothesis =>
      rw [List.splitOn, List.splitOnP_cons_eq_if_modifyHead, ← List.splitOn,
        ← inductionHypothesis]
      by_cases feed : char = '\n'
      · subst feed
        rfl
      · rcases exists_pieces_eq rest with ⟨first, later, split⟩
        rw [pieces_cons feed, split, if_neg (by simpa using feed)]
        rfl

/-! ## Lines -/

theorem lines_newline (rest : List Char) : lines ('\n' :: rest) = ['\n'] :: lines rest :=
  rfl

theorem lines_cons {char : Char} (solid : char ≠ '\n') (rest : List Char) :
    lines (char :: rest) = consFirst char (lines rest) := by
  rw [lines, List.foldr_cons, if_neg solid, lines]

/-- A piece with the line feed that follows it, if any pieces are behind it. -/
def closed (piece : List Char) (later : List (List Char)) : List Char :=
  if later.isEmpty then piece else piece ++ ['\n']

/-- Pieces as lines.  An empty last piece is none. -/
def terminated : List (List Char) → List (List Char)
  | [] => []
  | piece :: later =>
      if (closed piece later).isEmpty then [] else closed piece later :: terminated later

theorem closed_ne_nil {piece : List Char} (nonempty : piece ≠ []) (later : List (List Char)) :
    closed piece later ≠ [] := by
  cases later with
  | nil => exact nonempty
  | cons next rest => exact List.append_ne_nil_of_right_ne_nil piece (List.cons_ne_nil _ _)

theorem terminated_cons_cons (piece next : List Char) (later : List (List Char)) :
    terminated (piece :: next :: later) = (piece ++ ['\n']) :: terminated (next :: later) := by
  rw [terminated, closed]
  cases piece with
  | nil => rfl
  | cons char rest => rfl

theorem terminated_of_ne_nil {piece : List Char} (nonempty : piece ≠ [])
    (later : List (List Char)) :
    terminated (piece :: later) = closed piece later :: terminated later := by
  rw [terminated, if_neg]
  rw [List.isEmpty_iff]
  exact closed_ne_nil nonempty later

theorem consFirst_terminated (char : Char) (first : List Char) (later : List (List Char)) :
    consFirst char (terminated (first :: later)) = terminated ((char :: first) :: later) := by
  cases later with
  | nil =>
      cases first with
      | nil => rfl
      | cons second rest => rfl
  | cons next rest =>
      rw [terminated_cons_cons, terminated_cons_cons]
      rfl

/-- The lines of a text are its pieces with the line feeds put back. -/
theorem lines_eq_terminated (chars : List Char) : lines chars = terminated (pieces chars) := by
  induction chars with
  | nil => rfl
  | cons char rest inductionHypothesis =>
      rcases exists_pieces_eq rest with ⟨first, later, split⟩
      by_cases feed : char = '\n'
      · subst feed
        rw [lines_newline, pieces_newline, inductionHypothesis, split, terminated_cons_cons]
        rfl
      · rw [lines_cons feed, pieces_cons feed, inductionHypothesis, split]
        exact consFirst_terminated char first later

/-- The pieces in front of another one are lines. -/
theorem terminated_append (front : List (List Char)) (piece : List Char)
    (back : List (List Char)) :
    terminated (front ++ piece :: back) =
      front.map (· ++ ['\n']) ++ terminated (piece :: back) := by
  induction front with
  | nil => rfl
  | cons first rest inductionHypothesis =>
      rw [List.map_cons, List.cons_append, List.cons_append, ← inductionHypothesis]
      cases rest with
      | nil => exact terminated_cons_cons first piece back
      | cons second later => exact terminated_cons_cons first second (later ++ piece :: back)

/-- The lines of a text around one of its pieces. -/
theorem lines_eq_of_pieces {chars piece : List Char} {front back : List (List Char)}
    (split : pieces chars = front ++ piece :: back) (nonempty : piece ≠ []) :
    lines chars = front.map (· ++ ['\n']) ++ closed piece back :: terminated back := by
  rw [lines_eq_terminated, split, terminated_append, terminated_of_ne_nil nonempty]

/-! ## The line of a byte -/

/-- The byte behind some pieces and their line feeds. -/
def startBehind (front : List (List Char)) : Nat :=
  byteSize (front.map (· ++ ['\n'])).flatten

theorem startBehind_cons (piece : List Char) (later : List (List Char)) :
    startBehind (piece :: later) = byteSize piece + 1 + startBehind later := by
  rw [startBehind, List.map_cons, List.flatten_cons, byteSize_append, byteSize_append,
    startBehind]
  rfl

theorem startBehind_le {chars piece : List Char} {front back : List (List Char)}
    (split : pieces chars = front ++ piece :: back) (nonempty : piece ≠ []) :
    startBehind front ≤ byteSize chars := by
  rw [← flatten_lines chars, lines_eq_of_pieces split nonempty, List.flatten_append,
    byteSize_append]
  exact Nat.le_add_right _ _

/-- A byte of a line is found behind the bytes of all lines in front. -/
theorem lineAmong?_append {line : List Char} {column : Nat} (inside : column < byteSize line)
    (number : Nat) (front back : List (List Char)) :
    lineAmong? number (byteSize front.flatten + column) (front ++ line :: back) =
      some
        { number := number + front.length, text := String.ofList line, column := column } := by
  induction front generalizing number with
  | nil =>
      rw [List.flatten_nil, byteSize_nil, Nat.zero_add, List.nil_append, lineAmong?,
        if_pos inside, List.length_nil, Nat.add_zero]
  | cons first rest inductionHypothesis =>
      have behind : byteSize (first :: rest).flatten + column =
          byteSize first + (byteSize rest.flatten + column) := by
        rw [List.flatten_cons, byteSize_append, Nat.add_assoc]
      rw [behind, List.cons_append, lineAmong?, if_neg (by omega), Nat.add_sub_cancel_left,
        inductionHypothesis, List.length_cons]
      congr 2
      omega

/-- A piece that is not empty is found, as a line, at the byte where it starts. -/
theorem lineAt?_of_pieces {text : String} {piece : List Char} {front back : List (List Char)}
    (split : pieces text.toList = front ++ piece :: back) (nonempty : piece ≠ [])
    {offset : UInt32} (start : offset.toNat = startBehind front) :
    lineAt? text offset =
      some
        { number := front.length + 1
          text := String.ofList (closed piece back)
          column := 0 } := by
  have found := lineAmong?_append (byteSize_pos (closed_ne_nil nonempty back)) 1
    (front.map (· ++ ['\n'])) (terminated back)
  rw [List.length_map, Nat.add_comm 1] at found
  rw [lineAt?, start, lines_eq_of_pieces split nonempty]
  exact found

end SlotLang.Text
