import SqlTemplate.Text.Word
/-!
# Marked names

Names in a text are marked by colons, as the pattern `(?<![:\w\\]):(\w+)(?!:)` finds them: a colon marks a name if no
colon, word character or backslash stands in front of it and word characters follow that no further colon ends.  Where
a colon does end them, the pattern allows for a part of them.  Which part is found is up to the way the pattern is
matched: all but the last character if matching goes back, and none if it does not.  This is left open, as `cut`.
-/

namespace SqlTemplate.Text

variable (cut : List Char → Option (List Char))

/-- The name at the start of a text that follows a colon: the word characters there, or what is `cut` from them if a colon
ends them. -/
def nameAt? (text : List Char) : Option (List Char) :=
  let word := text.takeWhile isWord
  if word.isEmpty then none
  else if (text.dropWhile isWord).head? == some ':' then cut word
  else some word

/-- A character in front of a colon keeps it from marking a name. -/
def blocksName (c : Char) : Bool :=
  c == ':' || c == '\\' || isWord c

/-- The names behind the colons in a text that mark one; `previous` is the character in front of the text. A colon is no
word character, so none of them is part of a name. -/
def namesAfter (previous : Option Char) : List Char → List (List Char)
  | [] => []
  | c :: rest =>
    if c = ':' && !previous.any blocksName then (nameAt? cut rest).toList ++ namesAfter (some c) rest
    else namesAfter (some c) rest

/-- The marked names in a text, in order. -/
def markedNames (text : String) : List String :=
  (namesAfter cut none text.toList).map String.ofList

end SqlTemplate.Text
