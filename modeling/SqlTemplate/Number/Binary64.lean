/-!
# Binary floating point numbers

A 64-bit binary floating point number is kept by its bits.  `magnitude` reads them: a finite
number is `significand · 2 ^ exponent`, and the sign stands apart, so that the two zeros differ as
numbers are written and agree as numbers are compared.  What is not a number comes in many forms, which
are written alike; one of them is the same only as itself.

The text of a number is the shortest decimal that reads back as it.  `shortest` searches the grids
of 1, 2, … 17 digits for a point in the interval of the reals that round to the number; on the first
grid with such a point it takes the point nearest to the number, and of two equally near ones the
even one.  `text` then lays the digits out: positionally for decimal exponents from -4 to 15, with at
least one digit after the point, and otherwise with an exponent of at least two digits.
-/

namespace SqlTemplate

/-- A floating point number, by its bits. -/
structure Binary64 where
  bits : UInt64
  deriving DecidableEq, Repr, Inhabited

namespace Binary64

/-- What the bits of a number mean apart from its sign. -/
inductive Magnitude where
  | notANumber
  | infinite
  /-- The number `significand · 2 ^ exponent`. -/
  | finite (significand : Nat) (exponent : Int)
  deriving DecidableEq, Repr

/-- The sign bit is set. -/
def isNegative (x : Binary64) : Bool :=
  x.bits.toNat ≥ Nat.pow 2 63

/-- The eleven bits of the exponent. -/
def exponentBits (x : Binary64) : Nat :=
  x.bits.toNat / Nat.pow 2 52 % Nat.pow 2 11

/-- The fifty-two bits of the fraction. -/
def fractionBits (x : Binary64) : Nat :=
  x.bits.toNat % Nat.pow 2 52

/-- The number without its sign: the smallest exponent is that of the subnormal numbers, whose
leading bit is zero. -/
def magnitude (x : Binary64) : Magnitude :=
  if x.exponentBits = 2047 then
    if x.fractionBits = 0 then .infinite else .notANumber
  else if x.exponentBits = 0 then .finite x.fractionBits (-1074)
  else .finite (Nat.pow 2 52 + x.fractionBits) (x.exponentBits - 1075)

/-- Neither zero: the number counts as true. -/
def isTrue (x : Binary64) : Bool :=
  x.magnitude != .finite 0 (-1074)

/-- The number as a fraction of integers, if it is finite. -/
def toFraction? (x : Binary64) : Option (Int × Nat) :=
  match x.magnitude with
  | .finite significand exponent =>
    let signed : Int := if x.isNegative then -significand else significand
    some (signed * Int.pow 2 exponent.toNat, Nat.pow 2 (-exponent).toNat)
  | _ => none

/-- The number is finite and has no fractional part. -/
def isIntegral (x : Binary64) : Bool :=
  match x.toFraction? with
  | some (numerator, denominator) => numerator % denominator == 0
  | none => false

/-- The integer a number equals, if there is one. -/
def toInt? (x : Binary64) : Option Int :=
  match x.toFraction? with
  | some (numerator, denominator) =>
    if numerator % denominator = 0 then some (numerator / denominator) else none
  | none => none

/-- Two numbers are the same: they have the same bits, or are the two zeros. -/
def sameNumber (x y : Binary64) : Bool :=
  x == y || (!x.isTrue && !y.isTrue)

/-- One of the forms of what is not a number. -/
def notANumber (form : Nat) : Binary64 :=
  ⟨UInt64.ofNat (0x7ff8000000000000 + form % Nat.pow 2 51)⟩

/-- The number of decimal digits of a natural number. -/
def digitCount (n : Nat) : Nat :=
  (Nat.toDigits 10 n).length

/-- The exponent of the leading decimal digit of a positive fraction. -/
def leadingExponent (numerator denominator : Nat) : Int :=
  if denominator ≤ numerator then digitCount (numerator / denominator) - 1
  else -(digitCount ((denominator + numerator - 1) / numerator - 1) : Int)

/-- A decimal number `digits · 10 ^ exponent`. -/
structure Scientific where
  digits : Nat
  exponent : Int
  deriving DecidableEq, Repr

/-- The reals that round to `significand · 2 ^ exponent`, in quarters of its last place: half a place
on each side, but a quarter below a power of two, where the numbers below lie closer.  The ends
belong to the interval when the significand is even. -/
def belowQuarters (significand : Nat) (exponent : Int) : Nat :=
  if significand = Nat.pow 2 52 && exponent ≠ -1074 then 1 else 2

/-- The point of the decimal grid with step `10 ^ step` that is nearest to
`significand · 2 ^ exponent` among its neighbours on the grid, if one of them rounds to it. -/
def nearestOnGrid (significand : Nat) (exponent step : Int) : Option Scientific :=
  -- both sides are scaled to integers: a grid point by `point`, a number of quarters by `quarter`
  let point := Nat.pow 10 step.toNat * Nat.pow 2 (2 - exponent).toNat
  let quarter := Nat.pow 2 (exponent - 2).toNat * Nat.pow 10 (-step).toNat
  let value := 4 * significand * quarter
  let low := (4 * significand - belowQuarters significand exponent) * quarter
  let high := (4 * significand + 2) * quarter
  let rounds := fun x => if significand % 2 = 0 then low ≤ x && x ≤ high else low < x && x < high
  let lower := value / point
  let upper := lower + 1
  match rounds (lower * point), rounds (upper * point) with
  | false, false => none
  | true, false => some ⟨lower, step⟩
  | false, true => some ⟨upper, step⟩
  | true, true =>
    let down := value - lower * point
    let up := upper * point - value
    if down < up || (down = up && lower % 2 = 0) then some ⟨lower, step⟩ else some ⟨upper, step⟩

/-- The shortest decimal that rounds to a positive finite number. -/
def shortest (significand : Nat) (exponent : Int) : Scientific :=
  let leading :=
    leadingExponent (significand * Nat.pow 2 exponent.toNat) (Nat.pow 2 (-exponent).toNat)
  let grids := (List.range 17).map fun (n : Nat) => leading - n
  (grids.findSome? (nearestOnGrid significand exponent)).getD ⟨0, 0⟩

/-- A natural number in decimal. -/
def decimal (n : Nat) : List Char :=
  Nat.toDigits 10 n

/-- The digits of a decimal number without the zeros at their end. -/
def significantDigits (digits : Nat) : List Char :=
  ((decimal digits).reverse.dropWhile (· == '0')).reverse

/-- The exponent of a number written with one: a sign and at least two digits. -/
def exponentText (exponent : Int) : List Char :=
  let digits := decimal exponent.natAbs
  let sign := if exponent < 0 then '-' else '+'
  'e' :: sign :: (if digits.length < 2 then '0' :: digits else digits)

/-- A positive decimal number laid out. -/
def layout (number : Scientific) : List Char :=
  let digits := significantDigits number.digits
  let leading : Int := number.exponent + digitCount number.digits - 1
  if leading < -4 || 16 ≤ leading then
    let mantissa :=
      match digits with
      | first :: rest@(_ :: _) => first :: '.' :: rest
      | short => short
    mantissa ++ exponentText leading
  else if leading < 0 then
    '0' :: '.' :: List.replicate (-leading - 1).toNat '0' ++ digits
  else
    let whole := leading.toNat + 1
    let padded := digits ++ List.replicate (whole - digits.length) '0'
    let fraction := padded.drop whole
    padded.take whole ++ '.' :: (if fraction.isEmpty then ['0'] else fraction)

/-- The text of a number: the shortest that reads back as it. -/
def text (x : Binary64) : String :=
  let sign := if x.isNegative then ['-'] else []
  match x.magnitude with
  | .notANumber => "nan"
  | .infinite => String.ofList (sign ++ ['i', 'n', 'f'])
  | .finite 0 _ => String.ofList (sign ++ ['0', '.', '0'])
  | .finite significand exponent => String.ofList (sign ++ layout (shortest significand exponent))

end Binary64

end SqlTemplate
