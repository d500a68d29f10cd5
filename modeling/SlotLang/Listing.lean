import SlotLang.Diagnostic
import SlotLang.Instr.Reader
import SlotLang.Text.Line

/-!
# Listings

A listing holds one instruction on each line.  Reading one back allows blanks
around an instruction and lines that are blank altogether; the first line that is
neither blank nor an instruction is reported with the byte at which it starts.
-/

namespace SlotLang.Listing

/-- The listing of some code. -/
def render (code : List Instr) : String :=
  String.join (code.map fun instr => instr.text ++ "\n")

/-- The instructions on the lines of a listing, of which the first starts at the
given byte. -/
def readPieces (offset : Nat) : List (List Char) → Except Diagnostic (List Instr)
  | [] => .ok []
  | piece :: later =>
      let line := Text.trim piece
      if line.isEmpty then
        readPieces (offset + Text.byteSize piece + 1) later
      else
        match Instr.ofChars? line with
        | none =>
            .error
              { cause := .malformedInstruction (String.ofList line)
                position := .inListing offset }
        | some instr =>
            (readPieces (offset + Text.byteSize piece + 1) later).map (instr :: ·)

/-- The instructions of a listing. -/
def read (listing : String) : Except Diagnostic (List Instr) :=
  readPieces 0 (Text.pieces listing.toList)

end SlotLang.Listing
