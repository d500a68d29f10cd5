/-!
# Positions and spans

A position is a byte offset in a named file; a span runs from one position to
another.  Trees built without any source have the null span.
-/

namespace SlotLang

/-- A byte offset in a named file. -/
structure Position where
  offset : UInt32
  file : String
deriving DecidableEq, Repr

namespace Position

/-- The position of a tree that has no source. -/
def null : Position :=
  { offset := 0, file := "<null>" }

/-- A place in a listing: a byte of its text, or an instruction counted from
zero.  Counts beyond the range of an offset wrap around. -/
def inListing (index : Nat) : Position :=
  { offset := UInt32.ofNat index, file := "listing" }

end Position

/-- The stretch of a file between two positions. -/
structure Span where
  start : Position
  stop : Position
deriving DecidableEq, Repr

namespace Span

/-- The span of a tree that has no source. -/
def null : Span :=
  { start := Position.null, stop := Position.null }

/-- The span between two byte offsets of one file. -/
def ofOffsets (file : String) (first last : UInt32) : Span :=
  { start := { offset := first, file := file }
    stop := { offset := last, file := file } }

end Span

end SlotLang
