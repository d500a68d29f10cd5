import SlotLang.Proofs.Listing.RoundTrip

/-!
# Where a listing is malformed

A listing is read line by line.  It is refused for its first line that is neither blank nor
an instruction, with the byte at which that line starts.  Whoever looks that byte up in the
text of the listing finds the very line.
-/

namespace SlotLang.Listing

/-! ## Pieces that can be read -/

/-- The instruction in a piece of a listing, between blanks. -/
def instr? (piece : List Char) : Option Instr :=
  Instr.ofText? (String.ofList (Text.trim piece))

/-- A piece of a listing can be read if it is blank or holds an instruction. -/
def Readable (piece : List Char) : Prop :=
  Text.trim piece = [] ∨ (instr? piece).isSome = true

instance : DecidablePred Readable :=
  fun _ => inferInstanceAs (Decidable (_ ∨ _))

theorem instr?_eq (piece : List Char) : instr? piece = Instr.ofChars? (Text.trim piece) := by
  rw [instr?, Instr.ofText?, String.toList_ofList]

theorem instr?_of_blank {piece : List Char} (blank : Text.trim piece = []) :
    instr? piece = none := by
  rw [instr?_eq, blank]
  rfl

theorem ne_nil_of_not_readable {piece : List Char} (malformed : ¬ Readable piece) :
    piece ≠ [] := by
  rintro rfl
  exact malformed (.inl rfl)

/-! ## Reading pieces -/

/-- A piece that can be read contributes its instruction, if it has one. -/
theorem readPieces_of_readable {piece : List Char} (readable : Readable piece) (offset : Nat)
    (later : List (List Char)) :
    readPieces offset (piece :: later) =
      (readPieces (offset + Text.byteSize piece + 1) later).map
        ((instr? piece).toList ++ ·) := by
  by_cases blank : Text.trim piece = []
  · rw [readPieces_of_blank offset later blank, instr?_of_blank blank]
    cases readPieces (offset + Text.byteSize piece + 1) later with
    | error diagnostic => rfl
    | ok code => rfl
  · rcases Option.isSome_iff_exists.mp (readable.resolve_left blank) with ⟨instr, found⟩
    rw [found, readPieces_of_some offset later blank ((instr?_eq piece).symm.trans found)]
    rfl

/-- Pieces that can all be read give their instructions in order. -/
theorem readPieces_of_forall_readable {pieces : List (List Char)}
    (readable : ∀ piece ∈ pieces, Readable piece) (offset : Nat) :
    readPieces offset pieces = .ok (pieces.filterMap instr?) := by
  induction pieces generalizing offset with
  | nil => rfl
  | cons piece later inductionHypothesis =>
      rcases List.forall_mem_cons.mp readable with ⟨pieceReadable, laterReadable⟩
      rw [readPieces_of_readable pieceReadable, inductionHypothesis laterReadable,
        List.filterMap_cons]
      cases instr? piece with
      | none => rfl
      | some instr => rfl

/-- Reading stops at the first piece that cannot be read, and reports where it starts. -/
theorem readPieces_of_malformed {front : List (List Char)} {piece : List Char}
    (readable : ∀ earlier ∈ front, Readable earlier) (malformed : ¬ Readable piece)
    (offset : Nat) (back : List (List Char)) :
    readPieces offset (front ++ piece :: back) =
      .error
        { cause := .malformedInstruction (String.ofList (Text.trim piece))
          position := .inListing (offset + Text.startBehind front) } := by
  induction front generalizing offset with
  | nil =>
      have nonempty : Text.trim piece ≠ [] := fun blank => malformed (.inl blank)
      have unread : Instr.ofChars? (Text.trim piece) = none := by
        rw [← instr?_eq, ← Option.not_isSome_iff_eq_none]
        exact fun found => malformed (.inr found)
      exact readPieces_of_none offset back nonempty unread
  | cons first rest inductionHypothesis =>
      rcases List.forall_mem_cons.mp readable with ⟨firstReadable, restReadable⟩
      rw [List.cons_append, readPieces_of_readable firstReadable,
        inductionHypothesis restReadable, Text.startBehind_cons, ← Nat.add_assoc,
        ← Nat.add_assoc]
      rfl

theorem exists_first_malformed {pieces : List (List Char)}
    (malformed : ¬ ∀ piece ∈ pieces, Readable piece) :
    ∃ front piece back, pieces = front ++ piece :: back ∧
      (∀ earlier ∈ front, Readable earlier) ∧ ¬ Readable piece := by
  cases first : pieces.find? fun piece => decide (¬ Readable piece) with
  | none =>
      apply absurd _ malformed
      simpa using first
  | some piece =>
      rcases List.find?_eq_some_iff_append.mp first with ⟨found, front, back, split, passed⟩
      exact ⟨front, piece, back, split, by simpa using passed, by simpa using found⟩

/-! ## Reading a listing -/

/-- A listing of fewer than 2 ^ 32 bytes is read exactly if each of its lines is blank or an
instruction between blanks, and then gives the instructions in the order of the lines.
Otherwise it is refused with the first line that is neither, trimmed of blanks, and with the
byte at which that line starts; and at that byte the text has that line, with its number
counted from one and its line feed if it has one. -/
theorem read_locates_first_malformed {listing : String}
    (short : listing.utf8ByteSize < UInt32.size) :
    ((∃ code, read listing = .ok code) ↔
      ∀ piece ∈ listing.toList.splitOn '\n', Readable piece) ∧
    (∀ code, read listing = .ok code →
      code = (listing.toList.splitOn '\n').filterMap instr?) ∧
    ((¬ ∀ piece ∈ listing.toList.splitOn '\n', Readable piece) →
      ∃ front piece back offset,
        listing.toList.splitOn '\n' = front ++ piece :: back ∧
        (∀ earlier ∈ front, Readable earlier) ∧ ¬ Readable piece ∧
        read listing =
          .error
            { cause := .malformedInstruction (String.ofList (Text.trim piece))
              position := { offset := offset, file := "listing" } } ∧
        offset.toNat = Text.byteSize (front.map (· ++ ['\n'])).flatten ∧
        Text.lineAt? listing offset =
          some
            { number := front.length + 1
              text := String.ofList (if back.isEmpty then piece else piece ++ ['\n'])
              column := 0 }) := by
  rw [← Text.pieces_eq_splitOn]
  have accepts : (∀ piece ∈ Text.pieces listing.toList, Readable piece) →
      read listing = .ok ((Text.pieces listing.toList).filterMap instr?) :=
    fun readable => readPieces_of_forall_readable readable 0
  by_cases readable : ∀ piece ∈ Text.pieces listing.toList, Readable piece
  · refine ⟨⟨fun _ => readable, fun _ => ⟨_, accepts readable⟩⟩, ?_, absurd readable⟩
    intro code found
    rw [accepts readable] at found
    exact (Except.ok.inj found).symm
  · rcases exists_first_malformed readable with ⟨front, piece, back, split, passed, malformed⟩
    have failed := readPieces_of_malformed passed malformed 0 back
    have nonempty := ne_nil_of_not_readable malformed
    -- The offset does not wrap around, since the line starts within the text.
    have inText := Text.startBehind_le split nonempty
    rw [Text.byteSize_toList] at inText
    have start : (UInt32.ofNat (Text.startBehind front)).toNat = Text.startBehind front :=
      UInt32.toNat_ofNat_of_lt (Nat.lt_of_le_of_lt inText short)
    rw [← split, Nat.zero_add] at failed
    have unread : ∀ code, read listing ≠ .ok code := by
      intro code found
      rw [read, failed] at found
      contradiction
    refine ⟨⟨?_, fun all => absurd all readable⟩, ?_, fun _ => ?_⟩
    · rintro ⟨code, found⟩
      exact absurd found (unread code)
    · intro code found
      exact absurd found (unread code)
    · exact ⟨front, piece, back, _, split, passed, malformed, failed, start,
        Text.lineAt?_of_pieces split nonempty start⟩

/-- An instruction behind a carriage return, blank lines, blanks of several bytes, and then
two lines that are no instructions. -/
def stumblingListing : String :=
  "add\r\n\n\u2003\n\u2003call(é)\n\u2003call()\t\ncall ()\n"

/-- The line that is reported is the fifth, behind 22 bytes. -/
theorem stumblingListing_located :
    stumblingListing.utf8ByteSize < UInt32.size ∧
      ∃ front piece back offset,
        stumblingListing.toList.splitOn '\n' = front ++ piece :: back ∧
        ¬ Readable piece ∧
        read stumblingListing =
          .error
            { cause := .malformedInstruction (String.ofList (Text.trim piece))
              position := { offset := offset, file := "listing" } } ∧
        Text.lineAt? stumblingListing offset =
          some
            { number := front.length + 1
              text := String.ofList (if back.isEmpty then piece else piece ++ ['\n'])
              column := 0 } ∧
        offset = 22 ∧ front.length = 4 := by
  have short : stumblingListing.utf8ByteSize < UInt32.size := by
    rw [← Text.byteSize_toList]
    decide
  have malformed : ¬ ∀ piece ∈ stumblingListing.toList.splitOn '\n', Readable piece := by
    decide
  rcases (read_locates_first_malformed short).2.2 malformed with
    ⟨front, piece, back, offset, split, _, unreadable, failed, _, found⟩
  have refused : read stumblingListing =
      .error { cause := .malformedInstruction "call()", position := ⟨22, "listing"⟩ } := rfl
  obtain rfl : offset = 22 := by
    rw [refused] at failed
    exact (congrArg (fun diagnostic => diagnostic.position.offset)
      (Except.error.inj failed)).symm
  have fifth : (Text.lineAt? stumblingListing 22).map Text.Line.number = some 5 := rfl
  rw [found, Option.map_some, Option.some.injEq] at fifth
  exact ⟨short, front, piece, back, 22, split, unreadable, failed, found, rfl,
    Nat.succ.inj fifth⟩

end SlotLang.Listing
