/-!
# Clipped text

Messages show only the start of a long name, as far as it fits into a number of bytes.  A character that fits
only in part leaves the mark for a character that cannot be read.
-/

namespace SqlTemplate.Text

/-- The characters that fit into a number of bytes, with a mark for one that fits only in part. -/
def clippedChars : Nat → List Char → List Char
  | _, [] => []
  | 0, _ :: _ => []
  | limit + 1, c :: rest =>
    if limit + 1 < c.utf8Size then ['\uFFFD'] else c :: clippedChars (limit + 1 - c.utf8Size) rest
termination_by _ text => text.length

/-- The start of a text that fits into a number of bytes. -/
def clipped (limit : Nat) (text : String) : String :=
  if text.utf8ByteSize ≤ limit then text else String.ofList (clippedChars limit text.toList)

end SqlTemplate.Text
