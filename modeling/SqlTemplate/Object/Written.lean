import SqlTemplate.Object.Access
/-!
# Values as text

A value is written in two ways.  `Run.shown` is how it stands inside a container or a message: texts
are quoted there, and an object may define its form by `__repr__`.  `Run.textWith` is the text of a value by
itself, which is the same, except that a text is just itself and that an object may define its text by `__str__`.

Containers hold objects, and objects that are mappings hold containers in turn, so writing goes from object to
object.  How deep it may go is bounded.  A mapping that is met again inside itself is not written a second
time.
-/

namespace SqlTemplate

open Text

namespace Value

/-- Items between brackets. -/
def bracketed (opening closing : String) (items : List String) : String :=
  opening ++ ", ".intercalate items ++ closing

/-- A tuple of one item has a comma after it. -/
def tupleText : List String → String
  | [item] => "(" ++ item ++ ",)"
  | items => bracketed "(" ")" items

/-- Entries between braces. -/
def entriesText (entries : List (String × String)) : String :=
  bracketed "\x7b" "\x7d" (entries.map fun entry => entry.1 ++ ": " ++ entry.2)

/-- Entries as a list of pairs. -/
def pairsText (entries : List (String × String)) : String :=
  bracketed "[" "]" (entries.map fun entry => "(" ++ entry.1 ++ ", " ++ entry.2 ++ ")")

/-- The entries of a built-in mapping of a kind. -/
def mappingText (kind : MappingKind) (entries : List (String × String)) : String :=
  match kind with
  | .plain => entriesText entries
  | .ordered => if entries.isEmpty then "OrderedDict()" else "OrderedDict(" ++ pairsText entries ++ ")"
  | .view => "mappingproxy(" ++ entriesText entries ++ ")"

/-- How many levels the writing of a mapping of a kind takes.  An ordered mapping is written as a list of pairs,
and a view by way of what it views. -/
def mappingLevels : MappingKind → Nat
  | .plain => 1
  | .ordered => 3
  | .view => 2

end Value

namespace Run

/-- Writing goes too deep. -/
def tooDeep : Failure :=
  .ofMessage .recursionError "maximum recursion depth exceeded while getting the repr of an object"

/-- Goes some levels deeper, if that is still allowed. -/
def deeper {α : Type} (levels left : Nat) (inside : Nat → Run α) : Run α :=
  if left < levels then fail tooDeep else inside (left - levels)

mutual

/-- A value as it stands inside a container, given how references are written; `left` levels are left. -/
def shownWith (reference : Nat → Value → Run String) (left : Nat) : Value → Run String
  | .null => deeper 1 left fun _ => return "None"
  | .bool b => deeper 1 left fun _ => return if b then "True" else "False"
  | .int i => deeper 1 left fun _ => return toString i
  | .real x => deeper 1 left fun _ => return x.text
  | .text s => deeper 1 left fun _ => return quote s
  | .bytes b => deeper 1 left fun _ => return quoteBytes b
  | .list items =>
    deeper 1 left fun left => return Value.bracketed "[" "]" (← shownItems reference left items)
  | .tuple items =>
    deeper 1 left fun left => return Value.tupleText (← shownItems reference left items)
  | .mapping kind entries =>
    deeper (Value.mappingLevels kind) left fun left =>
      return Value.mappingText kind (← shownEntries reference left entries)
  | value => reference left value

/-- The items of a container as they stand inside it. -/
def shownItems (reference : Nat → Value → Run String) (left : Nat) :
    List Value → Run (List String)
  | [] => return []
  | item :: more => do
    let text ← shownWith reference left item
    return text :: (← shownItems reference left more)

/-- The entries of a mapping as they stand inside it. -/
def shownEntries (reference : Nat → Value → Run String) (left : Nat) :
    List (Value × Value) → Run (List (String × String))
  | [] => return []
  | (key, value) :: more => do
    let keyText ← shownWith reference left key
    let valueText ← shownWith reference left value
    return (keyText, valueText) :: (← shownEntries reference left more)

end

/-- The text that a method of an object gives; `complaint` names the method if it gives something else. -/
def givenText (inner : Inner) (id : ObjectId) (name complaint : String) (member : Member) :
    Run String := do
  match ← callMember inner id name member [] with
  | .text s => return s
  | other => fail ((← get).notText complaint other)

/-- How a reference is written inside of the mappings `around` it, going at most so many objects deep. -/
def shownReference (inner : Inner) (around : List ObjectId) : Nat → Nat → Value → Run String
  | 0, _, _ => fail tooDeep
  | objects + 1, left, value => do
    let w ← get
    match value with
    | .object id =>
      let kind := (w.object id).kind
      let mapping := (w.standard? kind).getD .plain
      match w.specialMember? value "__repr__" with
      | some member => deeper 1 left fun _ => givenText inner id "__repr__" "__repr__" member
      | none =>
        if w.mappingBase? kind != some .builtin then
          deeper 1 left fun _ => return "<" ++ (w.classOf kind).name ++ " object>"
        else if around.contains id then
          return if mapping = .ordered then "..." else "\x7b...\x7d"
        else
          deeper (Value.mappingLevels mapping) left fun left => do
            let reference := shownReference inner (id :: around) objects
            return Value.mappingText mapping
              (← shownEntries reference left (w.object id).entries)
    | .type c => deeper 1 left fun _ => return "<class '" ++ w.fullName c ++ "'>"
    | .function id => deeper 1 left fun _ => return "<function " ++ (w.function id).name ++ ">"
    | .place owner name =>
      deeper 1 left fun _ => return "<member '" ++ name ++ "' of '" ++ owner ++ "' objects>"
    | .descriptor "type" => deeper 1 left fun _ => return "<class 'type'>"
    | .descriptor "ABCMeta" => deeper 1 left fun _ => return "<class 'abc.ABCMeta'>"
    | value => deeper 1 left fun _ => return "<" ++ w.kindName value ++ " object>"

/-- A value as it stands inside a container, if `left` levels are left. -/
def shownWithin (inner : Inner) (left : Nat) (value : Value) : Run String :=
  shownWith (shownReference inner [] (left + 1)) left value

/-- A value as it stands inside a container or a message. -/
def shown (inner : Inner) (value : Value) : Run String := do
  shownWithin inner (← get).depth value

/-- The text of a value; an object may define it by a method, or else its form inside containers. -/
def textWith (inner : Inner) (value : Value) : Run String := do
  let w ← get
  match value with
  | .text s => return s
  | .mapping .view entries =>
    deeper 1 w.depth fun left => shownWithin inner left (.mapping .plain entries)
  | .object id =>
    match w.specialMember? value "__str__", w.specialMember? value "__repr__" with
    | some member, _ => givenText inner id "__str__" "__str__" member
    | none, some member => givenText inner id "__repr__" "__str__" member
    | none, none => shown inner value
  | _ => shown inner value

/-- The text of a value as it is put into a message; an object may define it by `__format__`, or else it is its
text. -/
def formatWith (inner : Inner) (value : Value) : Run String := do
  let w ← get
  match value, w.specialMember? value "__format__" with
  | .object id, some member =>
    match ← callMember inner id "__format__" member [.text ""] with
    | .text s => return s
    | other =>
      fail (.typeError ("__format__ must return a str, not " ++ clipped 200 ((← get).formalName other)))
  | _, _ => textWith inner value

end Run

end SqlTemplate
