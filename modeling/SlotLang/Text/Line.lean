/-!
# Lines of a text

Offsets into a text count bytes of its UTF-8 form.  A text is cut at line feeds
in two ways: into the pieces *between* line feeds, of which there is always one
more than there are line feeds, and into lines that keep the line feed that ends
them, of which there is none in an empty text.
-/

namespace SlotLang.Text

/-- The number of bytes of a text in UTF-8. -/
def byteSize (chars : List Char) : Nat :=
  chars.foldr (fun char total => char.utf8Size + total) 0

@[simp]
theorem byteSize_nil : byteSize [] = 0 :=
  rfl

@[simp]
theorem byteSize_cons (char : Char) (rest : List Char) :
    byteSize (char :: rest) = char.utf8Size + byteSize rest :=
  rfl

@[simp]
theorem byteSize_append (front back : List Char) :
    byteSize (front ++ back) = byteSize front + byteSize back := by
  induction front with
  | nil => simp
  | cons char rest inductionHypothesis =>
      rw [List.cons_append, byteSize_cons, byteSize_cons, inductionHypothesis,
        Nat.add_assoc]

/-- Put a character in front of the first of several pieces. -/
def consFirst (char : Char) : List (List Char) → List (List Char)
  | [] => [[char]]
  | first :: rest => (char :: first) :: rest

/-- The pieces of a text between its line feeds. -/
def pieces (chars : List Char) : List (List Char) :=
  chars.foldr (fun char later =>
    if char = '\n' then [] :: later else consFirst char later) [[]]

/-- The lines of a text, each with the line feed that ends it. -/
def lines (chars : List Char) : List (List Char) :=
  chars.foldr (fun char later =>
    if char = '\n' then [char] :: later else consFirst char later) []

/-- The lines of a text make up the whole of it. -/
theorem flatten_lines (chars : List Char) : (lines chars).flatten = chars := by
  induction chars with
  | nil => rfl
  | cons char rest inductionHypothesis =>
      change (if char = '\n' then [char] :: lines rest
        else consFirst char (lines rest)).flatten = char :: rest
      split
      · simp [inductionHypothesis]
      · cases remaining : lines rest with
        | nil => simpa [consFirst, remaining] using inductionHypothesis
        | cons first later => simpa [consFirst, remaining] using inductionHypothesis

/-- A line found in a text: its number counted from one, its characters with the
line feed that ends it, and the byte looked for counted from its start. -/
structure Line where
  number : Nat
  text : String
  column : Nat
deriving DecidableEq, Repr

/-- The line that holds a byte, among lines of which the first has the given
number. -/
def lineAmong? (number offset : Nat) : List (List Char) → Option Line
  | [] => none
  | line :: later =>
      if offset < byteSize line then
        some { number := number, text := String.ofList line, column := offset }
      else
        lineAmong? (number + 1) (offset - byteSize line) later

/-- The line of a text that holds the byte at an offset. -/
def lineAt? (text : String) (offset : UInt32) : Option Line :=
  lineAmong? 1 offset.toNat (lines text.toList)

end SlotLang.Text
