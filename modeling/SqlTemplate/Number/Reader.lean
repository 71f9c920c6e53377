import SqlTemplate.Number.Binary64
/-!
# Reading floating point numbers

`Binary64.ofText` reads what `Binary64.text` writes: the floating point number nearest to a decimal
number, with or without an exponent, or one of the three values that are no decimal.
-/

namespace SqlTemplate.Binary64

/-- The natural number that decimal digits make. -/
def ofDigits (digits : List Char) : Nat :=
  digits.foldl (fun n c => 10 * n + (c.toNat - '0'.toNat)) 0

/-- The exponent that stands in a text. -/
def readExponent : List Char → Int
  | '-' :: digits => -(ofDigits digits : Int)
  | '+' :: digits => ofDigits digits
  | digits => ofDigits digits

/-- The decimal number without a sign that a text stands for. -/
def readScientific (text : List Char) : Scientific :=
  let mantissa := text.takeWhile (· != 'e')
  let whole := mantissa.takeWhile (· != '.')
  let fraction := (mantissa.dropWhile (· != '.')).drop 1
  ⟨ofDigits (whole ++ fraction), readExponent ((text.dropWhile (· != 'e')).drop 1) - fraction.length⟩

/-- The number nearest to a decimal number. -/
def ofScientific (number : Scientific) : Binary64 :=
  ⟨(Float.ofScientific number.digits (number.exponent < 0) number.exponent.natAbs).toBits⟩

/-- A number with its sign changed. -/
def negated (x : Binary64) : Binary64 :=
  ⟨x.bits ^^^ 0x8000000000000000⟩

/-- The number that a text without a sign stands for. -/
def ofUnsigned : List Char → Binary64
  | ['n', 'a', 'n'] => ⟨0x7ff8000000000000⟩
  | ['i', 'n', 'f'] => ⟨0x7ff0000000000000⟩
  | text => ofScientific (readScientific text)

/-- The number that a text stands for. -/
def ofText : List Char → Binary64
  | '-' :: text => (ofUnsigned text).negated
  | text => ofUnsigned text

/-- The number nearest to an integer; it is infinite for one that is too large. -/
def ofInt (i : Int) : Binary64 :=
  let size := ofScientific ⟨i.natAbs, 0⟩
  if i < 0 then size.negated else size

end SqlTemplate.Binary64
