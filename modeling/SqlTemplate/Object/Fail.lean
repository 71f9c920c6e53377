import SqlTemplate.Object.Refusal
/-!
# Making failures

A function of the world may fail with a failure of any class, which is made of arguments.  Most of the standard
classes take whatever they are given, and their text is that of their arguments.  Some look at them:

* a failure of the operating system takes the class that its error number stands for, and tells the number,
  the reason and the files concerned;
* a failure of syntax tells the place where the syntax is broken;
* a failure of an encoding tells what could not be encoded;
* a group of failures can be made of failures only, and no value is one.

`Failure.refusal?` says which arguments a class refuses, and with what failure, and `Failure.pieces` how the text of
a failure is put together.  The library's own classes have arguments of their own, in `Failure.constructor?`.  A class
that inherits from one of these has its ways, but for those that only the standard class itself has.
-/

namespace SqlTemplate

open Text

namespace Failure

/-! ## Arguments -/

/-- What an argument has to be. -/
inductive ArgumentType where
  | anything
  | text
  | index
  deriving DecidableEq, Repr

/-- The name of the kind of an argument in the message that refuses it. -/
def argumentKind (w : World) : Value → String
  | .null => "None"
  | value => clipped 50 (w.formalName value)

/-- Why the argument with a number is refused, if it is. -/
def argumentRefusal? (w : World) (owner : String) (number : Nat) (value : Value) :
    ArgumentType → Option Failure
  | .anything => none
  | .text =>
    match value with
    | .text _ => none
    | _ =>
      some (typeError (owner ++ "argument " ++ toString number ++ " must be str, not " ++
        argumentKind w value))
  | .index =>
    match value with
    | .bool _ => none
    | .int i =>
      if -Int.pow 2 63 ≤ i && i < Int.pow 2 63 then none
      else some (ofMessage .overflowError "Python int too large to convert to C ssize_t")
    | _ =>
      some (w.notIndex value)

/-- A class is one of groups of failures.  Its messages about arguments name what takes them. -/
def isGroup (kind : FailureClass) : Bool :=
  kind.inherits .baseExceptionGroup

/-- The arguments of a class that takes a fixed number of them. -/
def argumentTypes? (kind : FailureClass) : Option (List ArgumentType) :=
  if kind.inherits .unicodeDecodeError then some [.text, .anything, .index, .index, .text]
  else if kind.inherits .unicodeEncodeError then some [.text, .text, .index, .index, .text]
  else if kind.inherits .unicodeTranslateError then some [.text, .index, .index, .text]
  else if isGroup kind then some [.text, .anything]
  else none

/-- Why the arguments of a class that takes a fixed number of them are refused, if they are. -/
def fixedRefusal? (w : World) (kind : FailureClass) (arguments : List Value)
    (types : List ArgumentType) : Option Failure :=
  let taker := if isGroup kind then "BaseExceptionGroup.__new__()" else "function"
  let owner := if isGroup kind then "BaseExceptionGroup.__new__() " else ""
  if arguments.length ≠ types.length then
    some (typeError (taker ++ " takes exactly " ++ toString types.length ++ " arguments (" ++
      toString arguments.length ++ " given)"))
  else
    ((arguments.zip types).zipIdx 1).findSome? fun entry =>
      argumentRefusal? w owner entry.2 entry.1.1 entry.1.2

/-- The items that a value has as a sequence or a mapping, if it is one. -/
def items? (w : World) : Value → Option (List Value)
  | .list items => some items
  | .tuple items => some items
  | .text s => some (s.toList.map fun c => .text (String.singleton c))
  | .bytes b => some (b.map fun byte => .int byte.toNat)
  | value => (w.entriesOf? value).map fun entries => entries.map (·.1)

/-- A value has items under numbers. -/
def isSequence (w : World) : Value → Bool
  | .list _ => true
  | .tuple _ => true
  | .text _ => true
  | .bytes _ => true
  | .object id =>
    match w.mappingBase? (w.object id).kind with
    | some .builtin => false
    | some .protocol => true
    | _ => (w.ownMember? (w.object id).kind "__getitem__").isSome
  | _ => false

/-- Why a value is refused as the members of a group of failures. -/
def groupRefusal (w : World) (members : Value) : Failure :=
  if !isSequence w members then typeError "second argument (exceptions) must be a sequence"
  else if (items? w members).any List.isEmpty then
    ofMessage .valueError "second argument (exceptions) must be a non-empty sequence"
  else ofMessage .valueError "Item 0 of second argument (exceptions) is not an exception"

/-- Why a value is refused as the place where syntax is broken, if it is. -/
def placeRefusal? (w : World) (place : Value) : Option Failure :=
  match items? w place with
  | none => some (typeError (w.label 200 place ++ " object is not iterable"))
  | some items =>
    if items.length < 4 then
      some (typeError ("function takes at least 4 arguments (" ++ toString items.length ++
        " given)"))
    else if 6 < items.length then
      some (typeError ("function takes at most 6 arguments (" ++ toString items.length ++ " given)"))
    else if items.length = 5 then
      some (typeError "end_offset must be provided when end_lineno is provided")
    else none

/-- A value is a number. -/
def isNumber : Value → Bool
  | .bool _ => true
  | .int _ => true
  | .real _ => true
  | _ => false

/-- Why a value is refused as what an operation that would block has done so far, if it is.  Only a number is
taken for that at all. -/
def progressRefusal? (w : World) : Value → Option Failure
  | .int i =>
    if -Int.pow 2 63 ≤ i && i < Int.pow 2 63 then none
    else some (ofMessage .valueError "cannot fit 'int' into an index-sized integer")
  | .real x => argumentRefusal? w "" 3 (.real x) .index
  | _ => none

/-- A failure of the operating system was made of a number and a reason, and perhaps more. -/
def isSystemReport (kind : FailureClass) (arguments : List Value) : Bool :=
  kind.inherits .osError && 2 ≤ arguments.length && arguments.length ≤ 5

/-- The class that a failure of the operating system with an error number belongs to. -/
def systemFailureClass : Int → StandardFailure
  | 1 => .permissionError
  | 2 => .fileNotFoundError
  | 3 => .processLookupError
  | 4 => .interruptedError
  | 10 => .childProcessError
  | 11 => .blockingIOError
  | 13 => .permissionError
  | 17 => .fileExistsError
  | 20 => .notADirectoryError
  | 21 => .isADirectoryError
  | 32 => .brokenPipeError
  | 103 => .connectionAbortedError
  | 104 => .connectionResetError
  | 108 => .brokenPipeError
  | 110 => .timeoutError
  | 111 => .connectionRefusedError
  | 114 => .blockingIOError
  | 115 => .blockingIOError
  | _ => .osError

/-- The class that a failure belongs to when it is made of arguments: one that is only said to be of the operating
system is of the class that its error number stands for. -/
def actualClass (kind : FailureClass) (arguments : List Value) : FailureClass :=
  if kind.isExactly .osError && isSystemReport kind arguments then
    match arguments.head? with
    | some (.int number) => .standard (systemFailureClass number)
    | some (.bool b) => .standard (systemFailureClass (if b then 1 else 0))
    | _ => kind
  else kind

/-- Why a class refuses arguments, if it does. -/
def refusal? (w : World) (kind : FailureClass) (arguments : List Value) : Option Failure :=
  match argumentTypes? kind with
  | some types =>
    match fixedRefusal? w kind arguments types, arguments with
    | some refusal, _ => some refusal
    | none, _ :: subject :: _ =>
      if isGroup kind then some (groupRefusal w subject)
      else if kind.inherits .unicodeDecodeError then
        match subject with
        | .bytes _ => none
        | _ =>
          some (typeError ("a bytes-like object is required, not " ++ w.label 100 subject))
      else none
    | none, _ => none
  | none =>
    match arguments with
    | [_, place] => if kind.inherits .syntaxError then placeRefusal? w place else none
    | _ :: _ :: progress :: _ =>
      let kind := actualClass kind arguments
      if kind.isExactly .blockingIOError && isSystemReport kind arguments then
        progressRefusal? w progress
      else none
    | _ => none

/-! ## Texts -/

/-- The third argument of a failure of the operating system is how much an operation that would block has done so far,
not the name of a file. -/
def tellsProgress (kind : FailureClass) (file : Value) : Bool :=
  kind.isExactly .blockingIOError && isNumber file

/-- The pieces of the text of a failure of the operating system. -/
def systemPieces (kind : FailureClass) (number reason : Value) (more : List Value) :
    List TextPiece :=
  let head := [.literal "[Errno ", .text number, .literal "] ", .text reason]
  match more with
  | [] => head
  | .null :: _ => head
  | file :: others =>
    if tellsProgress kind file then head
    else
      let second :=
        match others with
        | [_, .null] => []
        | [_, target] => [.literal " -> ", .shown target]
        | _ => []
      head ++ [.literal ": ", .shown file] ++ second

/-- The arguments that a failure keeps of those it was made of.  One of the operating system drops the names of
files. -/
def kept (kind : FailureClass) (arguments : List Value) : List Value :=
  match arguments with
  | number :: reason :: file :: _ =>
    let isName := !tellsProgress kind file
    match file, isSystemReport kind arguments && isName with
    | .null, _ => arguments
    | _, true => [number, reason]
    | _, false => arguments
  | _ => arguments

/-- The last part of the name of a file. -/
def baseName (file : String) : String :=
  String.ofList (file.toList.reverse.takeWhile (· != '/')).reverse

/-- A line number as it is printed. -/
def lineText (line : Int) : String :=
  toString (if -Int.pow 2 63 ≤ line && line < Int.pow 2 63 then line else -1)

/-- Where syntax is broken, as far as that is told. -/
def placeText (items : List Value) : String :=
  match items with
  | .text file :: .int line :: _ =>
    " (" ++ baseName file ++ ", line " ++ lineText line ++ ")"
  | .text file :: _ => " (" ++ baseName file ++ ")"
  | _ :: .int line :: _ => " (line " ++ lineText line ++ ")"
  | _ => ""

/-- The pieces of the text of a failure of syntax. -/
def syntaxPieces (w : World) (arguments : List Value) : List TextPiece :=
  let message := TextPiece.text (arguments.head?.getD .null)
  match arguments with
  | [_, place] => [message, .literal (placeText ((items? w place).getD []))]
  | _ => [message]

/-- A number in hexadecimal with at least so many digits. -/
def paddedHex (width number : Nat) : String :=
  let digits := Nat.toDigits 16 number
  String.ofList (List.replicate (width - digits.length) '0' ++ digits)

/-- A character by its code. -/
def codeText (c : Char) : String :=
  if c.toNat < 0x100 then "\\x" ++ paddedHex 2 c.toNat
  else if c.toNat < 0x10000 then "\\u" ++ paddedHex 4 c.toNat
  else "\\U" ++ paddedHex 8 c.toNat

/-- What could not be encoded or decoded: one thing, or those from one position to another. -/
def extentText (things : String) (one : Option String) (start stop : Int) : String :=
  match one with
  | some text => text ++ " in position " ++ toString start
  | none => things ++ " in position " ++ toString start ++ "-" ++ toString (stop - 1)

/-- What stands at the start of an extent, if the extent is as long as one thing. -/
def single? {α : Type} (things : List α) (start stop : Int) : Option α :=
  if 0 ≤ start && stop = start + 1 then things[start.toNat]? else none

/-- The text of the arguments of a failure of an encoding. -/
def encodingText? : List Value → Option String
  | [.text encoding, .text subject, start, stop, .text reason] =>
    let start := start.asInt?.getD 0
    let stop := stop.asInt?.getD 0
    let one := (single? subject.toList start stop).map fun c => "character '" ++ codeText c ++ "'"
    some ("'" ++ encoding ++ "' codec can't encode " ++
      extentText "characters" one start stop ++ ": " ++ reason)
  | [.text encoding, .bytes subject, start, stop, .text reason] =>
    let start := start.asInt?.getD 0
    let stop := stop.asInt?.getD 0
    let one := (single? subject start stop).map fun byte => "byte 0x" ++ paddedHex 2 byte.toNat
    some ("'" ++ encoding ++ "' codec can't decode " ++ extentText "bytes" one start stop ++ ": " ++
      reason)
  | [.text subject, start, stop, .text reason] =>
    let start := start.asInt?.getD 0
    let stop := stop.asInt?.getD 0
    let one := (single? subject.toList start stop).map fun c => "character '" ++ codeText c ++ "'"
    some ("can't translate " ++ extentText "characters" one start stop ++ ": " ++ reason)
  | _ => none

/-- The pieces of the text of a failure that its class does not put together in a way of its own: its only
argument, or all of them as a tuple. -/
def argumentPieces : List Value → List TextPiece
  | [] => []
  | [argument] => [.text argument]
  | arguments => [.shown (.tuple arguments)]

/-- The pieces of the text of a failure from its arguments, as the standard classes put it together. -/
def standardPieces (w : World) (kind : FailureClass) (arguments : List Value) : List TextPiece :=
  if kind.inherits .syntaxError then syntaxPieces w arguments
  else if (argumentTypes? kind).isSome then
    [.literal ((encodingText? arguments).getD "")]
  else
    match arguments with
    | [key] => if kind.inherits .keyError then [.shown key] else [.text key]
    | number :: reason :: more =>
      if isSystemReport kind arguments then systemPieces kind number reason more
      else argumentPieces arguments
    | [] => []

/-- The pieces of the text of a failure of a class from its arguments. -/
def plainPieces (w : World) (kind : FailureClass) (arguments : List Value) : List TextPiece :=
  match kind.form? with
  | some form => form.pieces ((kept kind arguments).map .text)
  | none => standardPieces w kind arguments

/-- The pieces of the text of a failure. -/
def pieces (w : World) : Failure → List TextPiece
  | plain kind arguments => plainPieces w kind arguments
  | made _ text _ => text
  | inaccessible kind _ reason => kind.textOf [.text reason]
  | fault what _ => [.literal what.message]

/-! ## The library's own classes -/

/-- What a class of the library's own is made of: the names of its arguments, with defaults. -/
def constructor? : StandardFailure → Option (List (String × Option Value))
  | .templateSyntaxError =>
    some [("message", none), ("template", some .null), ("position", some .null)]
  | .unknownTypeError => some [("type_name", none), ("known", some .null)]
  | .configurationError => some [("message", none), ("option", some .null)]
  | .bindingCountError => some [("expected", none), ("actual", none)]
  | .resolutionError => some [("message", none), ("code", none), ("details", some .null)]
  | .unknownParameterError => some [("name", none), ("path", none), ("parameters", some .null)]
  | .unresolvablePropertyError =>
    some [("qualifier", none), ("owner", none), ("path", none), ("reason", some (.text ""))]
  | .accessorInvocationError => some [("accessor", none), ("path", none), ("cause", none)]
  | .accessDeniedError => some [("member", none), ("path", none), ("reason", some (.text ""))]
  | .memberNotAccessible => some [("member", none), ("reason", none)]
  | _ => none

/-- The class of the library's own that makes the failures of a class: the nearest that it inherits from. -/
def maker? (kind : FailureClass) : Option StandardFailure :=
  kind.lineage.find? fun own => (constructor? own).isSome

/-- The arguments of a class of the library's own, or the failure to fit them to what it is made of. -/
def fitted (own : StandardFailure) (named : List (String × Option Value)) (arguments : List Value) :
    Except Failure (List Value) :=
  let self := Parameter.plain "self"
  let parameters := named.map fun argument =>
    { Parameter.plain argument.1 with default? := argument.2 }
  match Signature.frame ⟨self :: parameters, .absent⟩ (.null :: arguments) with
  | .ok frame => .ok frame.tail
  | .error misfit => .error (typeError (misfit.message (own.name ++ ".__init__")))

/-- The number of things in a value. -/
def countOf (w : World) (value : Value) : Nat :=
  ((items? w value).getD []).length

/-- The details of a failure of resolution, by name. -/
def detailsOf (entries : List (String × Value)) : Value :=
  .mapping .plain (entries.map fun entry => (.text entry.1, entry.2))

/-- What a failure of resolution tells besides its text. -/
def resolutionMembers (code : String) (entries : List (String × Value)) : List (String × Value) :=
  [("code", .text code), ("details", detailsOf entries)]

/-- The argument of a class of the library's own that stands for an empty one if it does not count as true: its
place, and the empty one. -/
def emptiable? : StandardFailure → Option (Nat × Value)
  | .unknownTypeError => some (1, .list [])
  | .resolutionError => some (2, detailsOf [])
  | .unknownParameterError => some (2, .list [])
  | _ => none

/-- What a failure of a class of the library's own tells besides its text, from all its arguments. -/
def membersOf (w : World) : StandardFailure → List Value → List (String × Value)
  | .templateSyntaxError, [_, template, position] =>
    [("template", template), ("position", position)]
  | .unknownTypeError, [name, known] =>
    [("type_name", name), ("known_count", .int (countOf w known))]
  | .configurationError, [_, option] => [("option", option)]
  | .bindingCountError, [expected, actual] => [("expected", expected), ("actual", actual)]
  | .resolutionError, [_, code, details] => [("code", code), ("details", details)]
  | .unknownParameterError, [name, path, parameters] =>
    resolutionMembers "UNKNOWN_PARAMETER" [("name", name), ("path", path), ("parameters", parameters)]
  | .unresolvablePropertyError, [qualifier, owner, path, _] =>
    resolutionMembers "UNRESOLVABLE_PROPERTY"
      [("qualifier", qualifier), ("owner", owner), ("path", path)]
  | .accessorInvocationError, [accessor, path, cause] =>
    resolutionMembers "ACCESSOR_FAILED"
      [("accessor", accessor), ("path", path), ("cause", .text (w.kindName cause))]
  | .accessDeniedError, [member, path, _] =>
    resolutionMembers "ACCESS_DENIED" [("member", member), ("path", path)]
  | _, _ => []

end Failure

end SqlTemplate
