import SqlTemplate.Number.Reader
import SqlTemplate.Object.Perform
import SqlTemplate.Settings
import SqlTemplate.Text.Blank
/-!
# A validation library

The library that settings are read with takes a value for what it plainly means: a number may be written as a
text or be a floating point number without a fraction, and a switch may be a word such as `yes` or `off`.
What cannot be taken so is refused for a reason with a code.  All that is wrong is reported at once, first
for the fields in their order and then for names that are no field.

A text stands for a number if, once it is `tidied?`, it is an optional minus sign and digits without a zero
in front.  Tidying takes away what people write around a number and between its digits: blanks, a plus
sign, zeros in front, a point with only zeros after it, and single underscores.

A number may have so many digits and not more.  A text that is a proper number but for that is refused for its
size; one that would have to be tidied first is just no number.

An object may be given for a number if its class says which one it stands for (`__float__`, `__index__`).  Asking for
that runs code; if it fails, the object is just no number.
-/

namespace SqlTemplate.Library

open Text

/-- Why a field of settings is refused. -/
inductive FieldProblem where
  /-- There is no such field. -/
  | unknownField
  /-- Fields cannot be changed. -/
  | frozen
  | notInt
  | badInt
  | hugeInt
  | fractionalInt
  | infiniteInt
  | negative
  | notBool
  | badBool
  | notText
  | badText
  deriving DecidableEq, Repr

/-- The code of a reason. -/
def FieldProblem.code : FieldProblem → String
  | .unknownField => "extra_forbidden"
  | .frozen => "frozen_instance"
  | .notInt => "int_type"
  | .badInt => "int_parsing"
  | .hugeInt => "int_parsing_size"
  | .fractionalInt => "int_from_float"
  | .infiniteInt => "finite_number"
  | .negative => "greater_than_equal"
  | .notBool => "bool_type"
  | .badBool => "bool_parsing"
  | .notText => "string_type"
  | .badText => "string_unicode"

/-- A field that is refused, and why. -/
structure FieldFault where
  field : String
  problem : FieldProblem
  deriving DecidableEq, Repr

/-! ## Numbers -/

/-- Blanks that may stand around a number: all but the information separators. -/
def isPadding (c : Char) : Bool :=
  isBlank c && !(28 ≤ c.toNat && c.toNat ≤ 31)

/-- A text without the padding at either end. -/
def unpadded (text : List Char) : List Char :=
  ((text.dropWhile isPadding).reverse.dropWhile isPadding).reverse

/-- A text without a plus sign in front; a sign after that is one too many. -/
def withoutPlus? : List Char → Option (List Char)
  | '+' :: '-' :: _ => none
  | '+' :: rest => some rest
  | text => some text

/-- A digit other than zero, or a minus sign: where a number properly starts. -/
def isStart (c : Char) : Bool :=
  (c.isDigit && c != '0') || c == '-'

/-- What is left of a text after `last`, a zero or an underscore among the zeros in front of it: it starts at
the next proper start, or else with the character before the point or the end. -/
def afterZeros? (last : Char) : List Char → Option (List Char)
  | [] => some [last]
  | c :: rest =>
    if c = '0' || c = '_' then afterZeros? c rest
    else if isStart c then some (c :: rest)
    else if c = '.' then some (last :: c :: rest)
    else none

/-- A text without zeros in front, and without the underscores among these. -/
def withoutLeadingZeros? : List Char → Option (List Char)
  | [] => none
  | c :: rest =>
    if c = '0' then afterZeros? c rest else if isStart c then some (c :: rest) else none

/-- A text without the point in it, if zeros and nothing else follow that. -/
def withoutFraction (text : List Char) : List Char :=
  match text.dropWhile (· != '.') with
  | _ :: zeros@(_ :: _) => if zeros.all (· == '0') then text.takeWhile (· != '.') else text
  | _ => text

/-- Two underscores stand side by side in a text. -/
def hasDoubleUnderscore : List Char → Bool
  | '_' :: '_' :: _ => true
  | _ :: rest => hasDoubleUnderscore rest
  | [] => false

/-- A text without its underscores, if they all stand alone and inside. -/
def withoutUnderscores (text : List Char) : List Char :=
  if text.head? = some '_' || text.getLast? = some '_' || hasDoubleUnderscore text then text
  else text.filter (· != '_')

/-- A text as a number is written properly.  A minus sign may have zeros after it. -/
def tidied? (text : List Char) : Option (List Char) := do
  let signed ← withoutPlus? (unpadded text)
  let short ←
    match signed with
    | '-' :: rest => ('-' :: ·) <$> withoutLeadingZeros? rest
    | _ => withoutLeadingZeros? signed
  return withoutUnderscores (withoutFraction short)

/-- The most digits that a number may have. -/
def longestInt : Nat := 4300

/-- A text without the minus sign in front of it, if there is one. -/
def withoutMinus : List Char → List Char
  | '-' :: rest => rest
  | text => text

/-- A text starts with a number that has too many digits. -/
def isHuge (text : List Char) : Bool :=
  let digits := (withoutMinus text).takeWhile Char.isDigit
  digits.head? != some '0' && longestInt < digits.length

/-- The natural number that digits make. -/
def ofDigits (digits : List Char) : Nat :=
  digits.foldl (fun n c => 10 * n + (c.toNat - '0'.toNat)) 0

/-- The natural number that a tidy text is. -/
def naturalOf? (text : List Char) : Option Nat :=
  match text with
  | [] => none
  | '0' :: _ => if text = ['0'] then some 0 else none
  | _ => if text.all Char.isDigit && text.length ≤ longestInt then some (ofDigits text) else none

/-- The number that a tidy text is. -/
def readInt? : List Char → Option Int
  | '-' :: digits => (naturalOf? digits).map fun n => -(n : Int)
  | digits => (naturalOf? digits).map fun n => (n : Int)

/-- The number that a text setting stands for. -/
def intOfText (text : String) : Except FieldProblem Int :=
  if isHuge text.toList then .error .hugeInt
  else
    match (tidied? text.toList).bind readInt? with
    | some i => .ok i
    | none => .error .badInt

/-- The number that a floating point setting stands for. -/
def intOfReal (x : Binary64) : Except FieldProblem Int :=
  match x.magnitude, x.toInt? with
  | .finite _ _, some i => if -Int.pow 2 63 < i && i < Int.pow 2 63 then .ok i else .error .hugeInt
  | .finite _ _, none => .error .fractionalInt
  | _, _ => .error .infiniteInt

/-- The text that bytes encode. -/
def decoded (bytes : List UInt8) : Option String :=
  String.fromUTF8? (ByteArray.mk bytes.toArray)

/-- The number that a value stands for. -/
def toInt : Value → Except FieldProblem Int
  | .bool b => .ok (if b then 1 else 0)
  | .int i => .ok i
  | .real x => intOfReal x
  | .text s => intOfText s
  | .bytes b => ((decoded b).map intOfText).getD (.error .badInt)
  | _ => .error .notInt

/-! ## Switches -/

/-- The words for a switch that is on. -/
def wordsForOn : List String := ["1", "t", "y", "on", "yes", "true"]

/-- The words for a switch that is off. -/
def wordsForOff : List String := ["0", "f", "n", "no", "off", "false"]

/-- The switch that a word stands for, in any case. -/
def boolOfText (text : String) : Except FieldProblem Bool :=
  let word := String.ofList (text.toList.map Char.toLower)
  if wordsForOn.contains word then .ok true
  else if wordsForOff.contains word then .ok false
  else .error .badBool

/-- The switch that a number stands for; a number that is too large is no switch at all. -/
def boolOfInt (i : Int) : Except FieldProblem Bool :=
  if i = 0 then .ok false
  else if i = 1 then .ok true
  else if -Int.pow 2 63 ≤ i && i < Int.pow 2 63 then .error .badBool
  else .error .notBool

/-- The switch that a value stands for. -/
def toBool : Value → Except FieldProblem Bool
  | .bool b => .ok b
  | .int i => boolOfInt i
  | .real x =>
    match intOfReal x with
    | .ok i => boolOfInt i
    | .error _ => .error .notBool
  | .text s => boolOfText s
  | .bytes b => ((decoded b).map boolOfText).getD (.error .badBool)
  | _ => .error .notBool

/-! ## Texts -/

/-- The text that a value stands for. -/
def toText : Value → Except FieldProblem String
  | .text s => .ok s
  | .bytes b =>
    match decoded b with
    | some s => .ok s
    | none => .error .badText
  | _ => .error .notText

/-! ## Objects that stand for numbers -/

open Run

/-- What a computation gives, or else nothing. -/
def ifDone {α : Type} (run : Run (Option α)) : Run (Option α) :=
  orElse run fun _ => return none

/-- The integer that an object stands for by itself. -/
def indexOf? (id : ObjectId) : Run (Option Int) :=
  ifDone do return some (← indexWith (← outermost) (.object id))

/-- The floating point number that an object stands for: that of its own, or else its integer. -/
def realOf? (id : ObjectId) : Run (Option Binary64) := do
  match (← get).specialMember? (.object id) "__float__" with
  | some member =>
    ifDone do
      match ← callSpecial id "__float__" member [] with
      | .real x => return some x
      | _ => return none
  | none =>
    return (← indexOf? id).bind fun i =>
      let x := Binary64.ofInt i
      if x.magnitude = .infinite then none else some x

/-- What is given for a number, as a plain datum if it stands for one. -/
def countSetting (value : Value) : Run Value := do
  match value with
  | .object id => return ((← realOf? id).map Value.real).getD value
  | _ => return value

/-- What is given for a switch, as a plain datum if it stands for one. -/
def switchSetting (value : Value) : Run Value := do
  match value with
  | .object id =>
    match (← indexOf? id).filter fun i => -Int.pow 2 63 ≤ i && i < Int.pow 2 63 with
    | some i => return .int i
    | none => countSetting value
  | _ => return value

/-! ## Fields -/

/-- What a value puts in a field of a kind. -/
def readKind : (kind : FieldKind) → Value → Run (Except FieldProblem kind.Carrier)
  | .integer least, value => do
    match toInt (← countSetting value) with
    | .error problem => return .error problem
    | .ok i => if h : least ≤ i then return .ok ⟨i, h⟩ else return .error .negative
  | .text, value => return toText value
  | .switch, value => return toBool (← switchSetting value)

/-- What named values put in a field. -/
def readField (field : Field) (given : List (String × Value)) :
    Run (Except FieldFault field.kind.Carrier) := do
  match given.lookup field.name with
  | none => return .ok field.default
  | some value => return (← readKind field.kind value).mapError fun problem => ⟨field.name, problem⟩

/-- Two results, or all that is wrong with them. -/
def both {α β : Type} : Except FieldFault α → Except (List FieldFault) β → Except (List FieldFault) (α × β)
  | .ok one, .ok other => .ok (one, other)
  | .ok _, .error faults => .error faults
  | .error fault, .ok _ => .error [fault]
  | .error fault, .error faults => .error (fault :: faults)

/-- What named values put in fields. -/
def readFields : (fields : List Field) → List (String × Value) →
    Run (Except (List FieldFault) (Record fields))
  | [], _ => return .ok ()
  | field :: more, given => do
    let first ← readField field given
    return both first (← readFields more given)

/-- The faults for names that are no field. -/
def unknownFields (fields : List Field) (given : List (String × Value)) : List FieldFault :=
  (given.filter fun entry => !fields.any (·.name == entry.1)).map fun entry =>
    ⟨entry.1, .unknownField⟩

/-- What named values put in fields, if none of them is for another name. -/
def readRecord (fields : List Field) (given : List (String × Value)) :
    Run (Except (List FieldFault) (Record fields)) := do
  let record ← readFields fields given
  match record, unknownFields fields given with
  | .ok record, [] => return .ok record
  | .ok _, faults => return .error faults
  | .error faults, others => return .error (faults ++ others)

/-- The library. -/
def validation : Validation where
  Fault := FieldFault
  read := readRecord

/-! ## Setting fields -/

/-- Why an attempt to set a field is refused. -/
inductive AssignmentRefusal where
  | invalid (faults : List FieldFault)
  | failed (failure : Failure)
  deriving Repr

/-- Why a name that is not public cannot be set on settings of a kind, if it cannot. -/
def privateRefusal? (w : World) (kind name : String) (value : Value) : Option Failure :=
  match name, value with
  | "__fields__", _ => some (World.noSetter kind name)
  | "__fields_set__", _ => some (World.noSetter kind name)
  | "__weakref__", _ => some (World.fixedField kind name)
  | "__class__", .type c => some (World.otherLayout (w.classOf c).name kind)
  | "__class__", _ => some (w.notClass value)
  | "__dict__", .mapping .plain _ => none
  | "__dict__", .mapping .ordered _ => none
  | "__dict__", .object id =>
    if w.mappingBase? (w.object id).kind = some .builtin then none else some (w.notPlace value)
  | "__dict__", _ => some (w.notPlace value)
  | _, _ => none

/-- An attempt to set a field of settings of a kind.  Settings are frozen; only for names that are not public that
is not looked at. -/
def assignField (w : World) (kind name : String) (value : Value) : Except AssignmentRefusal Unit :=
  if name.toList.head? = some '_' then
    match privateRefusal? w kind name value with
    | some failure => .error (.failed failure)
    | none => .ok ()
  else .error (.invalid [⟨name, .frozen⟩])

end SqlTemplate.Library
