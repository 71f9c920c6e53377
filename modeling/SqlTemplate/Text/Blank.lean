import SqlTemplate.Text.Ranges
/-!
# Blanks

Blank characters separate the words of a type name and may pad the qualifiers of a placeholder.
The class is the white space of the Unicode standard together with the four information separators
U+001C to U+001F; the zero-width space and the byte order mark are not blank.

`trim` drops blanks at both ends, `words` cuts a text at its runs of blanks, and `splitAt` cuts it at
every occurrence of one character.
-/

namespace SqlTemplate.Text

/-- The blank characters. -/
def blankRanges : List (Nat × Nat) :=
  [(9, 13), (28, 32), (133, 133), (160, 160), (5760, 5760), (8192, 8202), (8232, 8233),
   (8239, 8239), (8287, 8287), (12288, 12288)]

/-- A character is blank. -/
def isBlank (c : Char) : Bool :=
  inRanges blankRanges c.toNat

/-- A text without the blanks it starts with. -/
def trimStart (text : List Char) : List Char :=
  text.dropWhile isBlank

/-- A text without the blanks it ends with. -/
def trimEnd (text : List Char) : List Char :=
  (text.reverse.dropWhile isBlank).reverse

/-- A text without the blanks at either end. -/
def trim (text : List Char) : List Char :=
  trimEnd (trimStart text)

/-- The maximal runs of characters that are not blank, in order. -/
def words : List Char → List (List Char)
  | [] => []
  | c :: rest =>
    if isBlank c then words rest
    else
      match rest, words rest with
      | d :: _, word :: more => if isBlank d then [c] :: word :: more else (c :: word) :: more
      | _, more => [c] :: more

/-- The pieces of a text between the occurrences of a separator: one more than there are
separators, so never none. -/
def splitAt (separator : Char) : List Char → List (List Char)
  | [] => [[]]
  | c :: rest =>
    if c = separator then [] :: splitAt separator rest
    else
      match splitAt separator rest with
      | piece :: more => (c :: piece) :: more
      | [] => [[c]]

end SqlTemplate.Text
