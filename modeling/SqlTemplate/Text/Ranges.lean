/-!
# Character classes as ranges

A character class of the Unicode standard is kept as the ascending list of its closed code point
ranges.  `inRanges` decides membership; the classes themselves live in the modules named for them.
-/

namespace SqlTemplate.Text

/-- A code point is in a class when one of the class's closed ranges holds it. -/
def inRanges (table : List (Nat × Nat)) (n : Nat) : Bool :=
  table.any fun range => range.1 ≤ n && n ≤ range.2

end SqlTemplate.Text
