/-!
# Ranges of code points

A property of characters is stored as a list of closed ranges in increasing
order, so that a search may stop at the first range beyond the code point.
-/

namespace SlotLang.Text

/-- A closed range of code points: its first and its last member. -/
abbrev CodePointRange := Nat × Nat

namespace CodePointRange

/-- Whether one of the ranges, given in increasing order, holds the code point. -/
def covers : List CodePointRange → Nat → Bool
  | [], _ => false
  | (first, last) :: rest, point =>
      if point < first then false
      else if point ≤ last then true
      else covers rest point

end CodePointRange

end SlotLang.Text
