import SqlTemplate.Text.Blank
import SqlTemplate.Text.Identifier
import SqlTemplate.Text.Quoted
/-!
# Placeholder paths

A path names a value to bind: a method parameter, and then the properties to read one out of the
other.  It is written `addr.city`, with blanks allowed at both ends and around the dots, and every
part of it must be an identifier.
-/

namespace SqlTemplate

open Text

/-- A text may be a part of a path. -/
def isQualifier (part : String) : Bool :=
  isIdentifier part.toList

/-- A placeholder path: identifiers, at least one. -/
structure Path where
  parts : List String
  nonempty : parts ≠ []
  qualifiers : ∀ part ∈ parts, isQualifier part = true
  deriving DecidableEq

/-- Why parts make no path. -/
inductive PathFault where
  /-- There is no part. -/
  | empty
  /-- A part is no identifier. -/
  | badQualifier (part : String)
  /-- A part of a written expression is no identifier. -/
  | badExpression (part expression : String)
  deriving DecidableEq, Repr

/-- The message of a fault. -/
def PathFault.message : PathFault → String
  | .empty => "A placeholder path needs at least one qualifier."
  | .badQualifier part => "Invalid qualifier " ++ quote part ++ " in placeholder path."
  | .badExpression part expression =>
    "Invalid qualifier " ++ quote part ++ " in placeholder " ++ quote expression ++ "."

namespace Path

/-- The first part that is no identifier. -/
def badPart? (parts : List String) : Option String :=
  parts.find? fun part => !isQualifier part

theorem qualifiers_of_badPart? {parts : List String} (h : badPart? parts = none) :
    ∀ part ∈ parts, isQualifier part = true := by
  intro part mem
  simpa using List.find?_eq_none.mp h part mem

/-- The path made of given parts. -/
def ofParts (parts : List String) : Except PathFault Path :=
  if nonempty : parts = [] then .error .empty
  else
    match bad : badPart? parts with
    | some part => .error (.badQualifier part)
    | none => .ok ⟨parts, nonempty, qualifiers_of_badPart? bad⟩

/-- The parts of a written expression, each without the blanks around it. -/
def split (expression : List Char) : List String :=
  (splitAt '.' (trim expression)).map fun part => String.ofList (trim part)

theorem splitAt_ne_nil (separator : Char) (text : List Char) : splitAt separator text ≠ [] := by
  cases text with
  | nil => simp [splitAt]
  | cons c rest =>
    unfold splitAt
    split
    · simp
    · split <;> simp

theorem split_ne_nil (expression : List Char) : split expression ≠ [] := by
  simp [split, splitAt_ne_nil]

/-- The path that an expression denotes. -/
def ofExpression (expression : List Char) : Except PathFault Path :=
  match bad : badPart? (split expression) with
  | some part => .error (.badExpression part (String.ofList expression))
  | none => .ok ⟨split expression, split_ne_nil expression, qualifiers_of_badPart? bad⟩

/-- The first part: the name of a method parameter. -/
def root (path : Path) : String :=
  path.parts.head path.nonempty

/-- The path as it is written without blanks. -/
def expression (path : Path) : String :=
  ".".intercalate path.parts

end Path

end SqlTemplate
