import SqlTemplate.Template
import SqlTemplate.SqlType.Table
/-!
# Reading templates

The braces of an annotated statement are either those of a placeholder or those of a driver's escape
sequence such as `call update_emp(…)` in braces.  An escape sequence stays in the text, braces and all,
and may hold placeholders and further escape sequences; a placeholder holds neither.

`scan` reads a template character by character into pieces, with the offsets of the open escape
sequences as its stack.  A brace that opens an escape sequence is told apart by what follows it:
after optional blanks either `?=`, or one of a few keywords with a blank behind it.  The pieces are
then gathered into fragments, so that neighbouring characters of literal text form one fragment.

Types are declared apart from the text, by expression.  A declaration is about a path, so it applies
to every parameter with that path, however either is spelled, and the last one counts.
-/

namespace SqlTemplate

open Text

/-- Why a template's text is not well formed. -/
inductive TemplateFault where
  | unmatchedClose
  | unclosedPlaceholder
  | nestedOpen
  | emptyPlaceholder
  | badPath (fault : PathFault)
  | unclosedEscape
  deriving DecidableEq, Repr

/-- The message of a fault, without its position. -/
def TemplateFault.message : TemplateFault → String
  | .unmatchedClose => "Unmatched '\x7d' in SQL statement."
  | .unclosedPlaceholder => "Unclosed '\x7b' in SQL statement."
  | .nestedOpen => "Nested '\x7b' in SQL statement."
  | .emptyPlaceholder => "Empty placeholder '\x7b\x7d' in SQL statement."
  | .badPath fault => fault.message
  | .unclosedEscape => "Unclosed escape sequence in SQL statement."

/-- A fault of a template's text and the offset of the brace it is about. -/
structure LocatedFault where
  fault : TemplateFault
  position : Nat
  deriving DecidableEq, Repr

/-- Types declared for paths.  A later declaration for a path wins. -/
abbrev Declarations := List (Path × SqlType)

/-- The type of the last declaration for a path. -/
def Declarations.typeOf (declarations : Declarations) (path : Path) : SqlType :=
  ((declarations.reverse.find? (·.1 == path)).map (·.2)).getD .unknown

/-! ## Escape sequences -/

/-- The keywords that open an escape sequence. -/
def escapeKeywords : List (List Char) :=
  ["fn", "d", "t", "ts", "call", "oj", "escape", "limit"].map String.toList

/-- What follows a brace starts with a call that returns a value. -/
def startsReturningCall (text : List Char) : Bool :=
  ['?', '='].isPrefixOf (trimStart text)

/-- What follows a brace starts with a keyword, in any case, and a blank. -/
def startsKeyword (text : List Char) : Bool :=
  let body := trimStart text
  let word := body.takeWhile Char.isAlpha
  escapeKeywords.contains (word.map Char.toLower) &&
    ((body.dropWhile Char.isAlpha).head?.any isBlank)

/-- What follows a brace makes it open an escape sequence. -/
def opensEscape (text : List Char) : Bool :=
  startsReturningCall text || startsKeyword text

/-! ## Placeholders -/

/-- The mark of a substitution. -/
def substitutionMark : List Char := ['s', 'q', 'l', ':']

/-- The fragment that the text between the braces of a placeholder denotes. -/
def placeholder (declarations : Declarations) (body : List Char) :
    Except TemplateFault Fragment :=
  let content := trim body
  if content.isEmpty then .error .emptyPlaceholder
  else if (content.take 4).map Char.toLower = substitutionMark then
    match Path.ofExpression (content.drop 4) with
    | .ok path => .ok (.substitution path)
    | .error fault => .error (.badPath fault)
  else
    match Path.ofExpression content with
    | .ok path => .ok (.parameter path (declarations.typeOf path))
    | .error fault => .error (.badPath fault)

/-! ## The scan -/

/-- What a template is read into: single characters of literal text, and placeholders. -/
inductive Piece where
  | char (c : Char)
  | hole (fragment : Fragment)
  deriving DecidableEq

mutual

/-- Reads on outside a placeholder.  `position` is the offset of the next character, and `opens` holds
the offsets of the escape sequences still open, the innermost first. -/
def scan (declarations : Declarations) (position : Nat) (opens : List Nat) :
    List Char → Except LocatedFault (List Piece)
  | [] =>
    match opens with
    | [] => .ok []
    | innermost :: _ => .error ⟨.unclosedEscape, innermost⟩
  | c :: rest =>
    if c = '}' then
      match opens with
      | [] => .error ⟨.unmatchedClose, position⟩
      | _ :: outer => (scan declarations (position + 1) outer rest).map (.char c :: ·)
    else if c = '{' then
      if opensEscape rest then
        (scan declarations (position + 1) (position :: opens) rest).map (.char c :: ·)
      else
        scanPlaceholder declarations (position + 1) opens position [] rest
    else
      (scan declarations (position + 1) opens rest).map (.char c :: ·)

/-- Reads on inside the placeholder that opened at `start`; `body` is what it holds so far, the last
character first. -/
def scanPlaceholder (declarations : Declarations) (position : Nat) (opens : List Nat)
    (start : Nat) (body : List Char) : List Char → Except LocatedFault (List Piece)
  | [] => .error ⟨.unclosedPlaceholder, start⟩
  | c :: rest =>
    if c = '}' then
      match placeholder declarations body.reverse with
      | .ok fragment => (scan declarations (position + 1) opens rest).map (.hole fragment :: ·)
      | .error fault => .error ⟨fault, start⟩
    else if c = '{' then
      -- a brace inside counts as nested only if the placeholder is closed at all
      if rest.contains '}' then .error ⟨.nestedOpen, position⟩
      else .error ⟨.unclosedPlaceholder, start⟩
    else
      scanPlaceholder declarations (position + 1) opens start (c :: body) rest

end

/-! ## Fragments -/

/-- A run of literal text, if there is any, in front of fragments; `run` holds it last character
first. -/
def literalBefore (run : List Char) (fragments : List Fragment) : List Fragment :=
  if run.isEmpty then fragments else .literal (String.ofList run.reverse) :: fragments

/-- The fragments that pieces make up after a run of literal text. -/
def gatherAfter (run : List Char) : List Piece → List Fragment
  | [] => literalBefore run []
  | .char c :: rest => gatherAfter (c :: run) rest
  | .hole fragment :: rest => literalBefore run (fragment :: gatherAfter [] rest)

/-- The fragments that pieces make up: neighbouring characters become one literal fragment. -/
def gather (pieces : List Piece) : List Fragment :=
  gatherAfter [] pieces

/-- The template a text is, with the types declared for its paths. -/
def Template.ofText (declarations : Declarations) (source : String) :
    Except LocatedFault Template :=
  (scan declarations 0 [] source.toList).map fun pieces => ⟨source, gather pieces⟩

/-! ## Declared types -/

/-- Why a template cannot be compiled. -/
inductive ParseFault where
  /-- The text is not well formed. -/
  | malformed (fault : LocatedFault)
  /-- The expression of a declared type is no path. -/
  | badDeclaration (fault : PathFault)
  /-- A declared type has no type's name. -/
  | unknownType (name : String)
  deriving DecidableEq, Repr

/-- The declaration that an expression and a type name make. -/
def declaration (table : TypeTable) (entry : String × String) :
    Except ParseFault (Path × SqlType) :=
  match Path.ofExpression entry.1.toList with
  | .error fault => .error (.badDeclaration fault)
  | .ok path =>
    match table.find? entry.2 with
    | none => .error (.unknownType entry.2)
    | some type => .ok (path, type)

/-- The declarations of an ordered list of expressions and type names. -/
def declarationsOf (table : TypeTable) (types : List (String × String)) :
    Except ParseFault Declarations :=
  types.mapM (declaration table)

/-- Compiles an annotated statement.  The declared types are looked at first, in their order; the
text comes after them. -/
def Template.parse (table : TypeTable) (source : String) (types : List (String × String)) :
    Except ParseFault Template :=
  match declarationsOf table types with
  | .error fault => .error fault
  | .ok declarations =>
    match Template.ofText declarations source with
    | .error fault => .error (.malformed fault)
    | .ok template => .ok template

end SqlTemplate
