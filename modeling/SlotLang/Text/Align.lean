/-!
# Alignment

Numbers and markers are set flush right in a column of a given width.
-/

namespace SlotLang.Text

/-- A text set flush right in a column, filled up on the left.  A text wider than
the column is kept whole. -/
def alignRight (fill : Char) (width : Nat) (text : String) : String :=
  String.ofList (List.replicate (width - text.length) fill) ++ text

end SlotLang.Text
