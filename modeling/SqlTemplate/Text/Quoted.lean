import SqlTemplate.Text.Printable
/-!
# Quoted text

Messages show a text between quotes.  The quote is `'`, or `"` for a text that holds `'` and no `"`;
the quote in use and the backslash are escaped by a backslash; tabulator, line feed and carriage
return have letters of their own; any other character that is not printable is written by its code
point in the shortest of the forms `\xhh`, `\uhhhh` and `\Uhhhhhhhh`.  Byte strings follow the same
rules with the letter `b` in front and no characters beyond ASCII.
-/

namespace SqlTemplate.Text

/-- A number in hexadecimal with lower case digits, filled up with zeros to a width. -/
def hex (width n : Nat) : List Char :=
  let digits := Nat.toDigits 16 n
  List.replicate (width - digits.length) '0' ++ digits

/-- The quote for a text: the double one just when that saves escaping a single one. -/
def quoteFor (text : List Char) : Char :=
  if text.contains '\'' && !text.contains '"' then '"' else '\''

/-- The code point of an unprintable character as an escape. -/
def escapedCode (n : Nat) : List Char :=
  if n < 0x100 then '\\' :: 'x' :: hex 2 n
  else if n < 0x10000 then '\\' :: 'u' :: hex 4 n
  else '\\' :: 'U' :: hex 8 n

/-- A character as it stands between quotes. -/
def quotedChar (quote c : Char) : List Char :=
  if c = quote || c = '\\' then ['\\', c]
  else if c = '\t' then ['\\', 't']
  else if c = '\n' then ['\\', 'n']
  else if c = '\r' then ['\\', 'r']
  else if isPrintable c then [c]
  else escapedCode c.toNat

/-- A text between quotes. -/
def quoted (text : List Char) : List Char :=
  let quote := quoteFor text
  quote :: text.flatMap (quotedChar quote) ++ [quote]

/-- A string between quotes. -/
def quote (text : String) : String :=
  String.ofList (quoted text.toList)

/-- A byte string between quotes: bytes beyond ASCII are written by their value. -/
def quoteBytes (bytes : List UInt8) : String :=
  let text := bytes.map fun b => Char.ofNat b.toNat
  let quote := quoteFor text
  let shown := fun c => if c.toNat < 0x80 then quotedChar quote c else escapedCode c.toNat
  String.ofList ('b' :: quote :: text.flatMap shown ++ [quote])

end SqlTemplate.Text
