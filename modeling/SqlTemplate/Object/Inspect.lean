import SqlTemplate.Object.Equality
/-!
# Inspecting values

Two things are found out about a value by looking at it from outside: of what kind it is, and, if it can be
called, how.  Both ask the value about itself, and a value whose class intercepts readings, or supplies missing
attributes, may run code to answer.

An object that can be called is asked for many things before its class's method for calls is looked at: whether it
stands for another value (`__wrapped__`), for a signature of its own (`__signature__`), whether it is a function or
is built in.
-/

namespace SqlTemplate

namespace Run

/-! ## Kinds -/

/-- The class that an object says it has is looked at, a number of times; not to say it is allowed. -/
def askKind (value : Value) : Nat → Run Unit
  | 0 => return
  | times + 1 => do
    match value with
    | .object _ =>
      orElse (do let _ ← read value "__class__") fun failure =>
        if failure.isA .attributeError then return else fail failure
      askKind value times
    | _ => return

/-! ## Signatures -/

/-- Nothing is known about how a value is called. -/
def noSignature {α : Type} : Run α :=
  fail (.ofMessage .valueError "no signature found")

/-- A value is no signature, and cannot be called.  It is written down for the message. -/
def complain {α : Type} (value : Value) : Run α := do
  fail (.typeError (← shownOf value))

/-- The signature of a function that was read through a receiver. -/
def afterReceiver (signature : Signature) : Run Signature :=
  match signature.afterReceiver? with
  | some rest => return rest
  | none => noSignature

/-- The value that a value stands for in the end, unless one on the way knows its signature. -/
def unwrapped (first : Value) (seen : List ObjectId) : Nat → Value → Run Value
  | 0, _ => nestedTooDeep
  | depth + 1, value => do
    match value with
    | .object id =>
      askKind value 1
      if (← attribute? value "__wrapped__").isNone then return value
      else if (← attribute? value "__signature__").isSome then return value
      else
        askKind value 1
        match ← read value "__wrapped__" with
        | .object next =>
          if next = id || seen.contains next then
            let _ ← shownOf first
            noSignature
          else unwrapped first (id :: seen) depth (.object next)
        | next => return next
    | _ => return value

/-- An object is asked whether it is a function, or has all that a function has. -/
def askFunction (value : Value) : Run Unit := do
  askKind value 2
  let _ ← attribute? value "__name__"
  let code ← attribute? value "__code__"
  for name in ["__defaults__", "__kwdefaults__", "__annotations__"] do
    let _ ← attribute? value name
  askKind (code.getD .null) 1

/-- The class of an object lets it take part in reading attributes, and not in setting them. -/
def onlyReads (value : Value) : Run Bool := do
  match value with
  | .object id =>
    let kind := Value.type ((← get).object id).kind
    if (← attribute? kind "__get__").isNone then return false
    else return (← attribute? kind "__set__").isNone
  | _ => return false

/-- An object is one of the things that are built in. -/
def isBuiltin (value : Value) : Run Bool := do
  askKind value 4
  if ← onlyReads value then return true
  else
    askKind value 4
    if ← equal value (.descriptor "type") then return true
    else equal value (.descriptor "type")

/-- What an object has under `__call__`, as a value.  A class there is not read through the object. -/
def callMethod (id : ObjectId) (member : Member) : Run Value := do
  match member with
  | .value standing => askKind standing 1
  | _ => pure ()
  readSpecial id "__call__" member

/-- The class member that prepares the objects of a class: `__new__` or `__init__`, whichever is defined nearest. -/
def preparing? (w : World) (c : ClassId) : Option (String × Member) :=
  (w.lineage c).findSome? fun k =>
    let own := fun name =>
      match (w.classOf k).member? name with
      | some (.value .null) => none
      | member => member.map fun member => (name, member)
    match own "__new__" with
    | some found => some found
    | none => own "__init__"

/-- A value is an object whose class implements the mapping protocol. -/
def followsProtocol (w : World) : Value → Bool
  | .object id => w.mappingBase? (w.object id).kind = some .protocol
  | _ => false

/-- What an object of a built-in kind states its signature to be is no signature.  It is taken for a text, and
split into lines. -/
def rejectStated {α : Type} (stated : Value) : Run α := do
  match stated with
  | .text _ | .bytes _ => noSignature
  | other =>
    let _ ← read other "split"
    noSignature

/-- The signature of a value that can be called.  Fails if it is not known. -/
def inspect : Nat → Value → Run Signature
  | 0, _ => nestedTooDeep
  | depth + 1, value => do
    let w ← get
    match value with
    | .function id => return (w.function id).signature
    | .method _ id => afterReceiver (w.function id).signature
    | .builtinMethod (.real _) _ => return ⟨[], .absent⟩
    | .builtinMethod (.mapping .view _) _ => noSignature
    | .builtinMethod receiver _ =>
      if !followsProtocol w receiver then askKind receiver 1
      return ⟨[Parameter.plain "key"], .absent⟩
    | .descriptor "method_descriptor" => return ⟨[Parameter.plain "self"], .absent⟩
    | .type c => inspectClass depth c
    | .object _ =>
      if (w.specialMember? value "__call__").isNone then complain value
      else
        askKind value 1
        let other ← unwrapped value [] w.depth value
        askKind other 1
        match other with
        | .object id => inspectObject depth id
        | other => inspect depth other
    | _ => complain value
where
  /-- The signature of a class: that of what prepares its objects. -/
  inspectClass (depth : Nat) (c : ClassId) : Run Signature := do
    let w ← get
    match ← attribute? (.type c) "__signature__" with
    | some .null => pure ()
    | some other => complain other
    | none => pure ()
    match preparing? w c with
    | some ("__new__", .value (.function f)) => afterReceiver (w.function f).signature
    | some ("__new__", .static f) => afterReceiver (w.function f).signature
    | some ("__init__", .value (.function f)) => afterReceiver (w.function f).signature
    | some ("__init__", .static f) => return (w.function f).signature
    | some (_, .classwide f) => afterReceiver (w.function f).signature
    | some (_, .value value) => inspect depth value
    | some _ => noSignature
    | none =>
      if w.mappingBase? c = some .builtin then noSignature else return ⟨[], .absent⟩
  /-- The signature of an object that stands for itself. -/
  inspectObject (depth : Nat) (id : ObjectId) : Run Signature := do
    let value := Value.object id
    match ← attribute? value "__signature__" with
    | some .null => pure ()
    | some other => complain other
    | none => pure ()
    match ← attribute? value "_partialmethod" with
    | some other => askKind other 1
    | none => pure ()
    askFunction value
    if ← isBuiltin value then
      let _ ← isBuiltin value
      match ← attribute? value "__text_signature__" with
      | some stated => if ← truth stated then rejectStated stated
      | none => pure ()
      let _ ← shownOf value
      noSignature
    else
      askKind value 2
      match (← get).specialMember? value "__call__" with
      | some member => inspect depth (← callMethod id member)
      | none => complain value

/-- The signature of a value that can be called, if it is known.  A value that is of a wrong type, or has a wrong
value for what is asked, only leaves the signature unknown. -/
def signatureOf (value : Value) : Run (Option Signature) := do
  orElse (some <$> inspect (← get).depth value) fun failure =>
    if failure.isA .typeError || failure.isA .valueError then return none else fail failure

end Run

end SqlTemplate
