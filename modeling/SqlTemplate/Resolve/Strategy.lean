import SqlTemplate.Object.Inspect
import SqlTemplate.Object.Mapping
/-!
# Strategies

A strategy knows one way of reading a property out of a value.  Asked for a qualifier it locates an
accessor, or nothing, or refuses a member that is not public; the accessor is what reads the property.
There are four ways, in their order of precedence:

* a boolean accessor `is_q()` or `isQ()`, whose result must be a truth value: by its hint, or else by
  what it returns;
* a general accessor `get_q()` or `getQ()`;
* a public field `q`;
* the item `q` of a mapping.

Members are found without running code of the value; only accessor methods are then read through it.  A
value whose class supplies missing attributes answers to any public name, so its fields are dynamic:
that such a reading fails only means that there is no such attribute.
-/

namespace SqlTemplate

open Text

/-- A located way of reading one property. -/
structure Accessor where
  /-- How messages refer to it. -/
  name : String
  /-- Reads the property. -/
  invoke : Run Value
  /-- The result counts only if it is a truth value. -/
  requiresBool : Bool
  /-- A missing attribute means that there is nothing to read. -/
  dynamic : Bool

/-- One way of reading named properties. -/
structure Strategy where
  label : String
  locate : Value → String → Run (Option Accessor)

/-- A qualifier with its first letter in upper case. -/
def capitalize (qualifier : String) : String :=
  match qualifier.toList with
  | [] => ""
  | c :: rest => String.ofList (upperChar c ++ rest)

namespace Strategy

/-- A member is called, and so is no data of its object.  An object that only takes part in reading counts as a
method.  The check looks at the class that an object says it has, before and after. -/
def isRoutine (member : Member) : Run Bool := do
  match member with
  | .value value =>
    if member.isRoutine then return true
    else
      Run.askKind value 8
      if ← Run.onlyReads value then return true
      else
        Run.askKind value 1
        return false
  | _ => return member.isRoutine

/-! ## Accessor methods -/

/-- The names that an accessor method for a qualifier may have. -/
def candidates (stem qualifier : String) : List String :=
  [stem ++ "_" ++ qualifier, stem ++ capitalize qualifier]

/-- Locates the first of some methods that can be called without arguments and is accepted. -/
def locateMethod (accept : String → Value → Option Signature → Option Accessor) (value : Value) :
    List String → Run (Option Accessor)
  | [] => return none
  | candidate :: more => do
    match (← get).member? value candidate with
    | none => locateMethod accept value more
    | some member =>
      if !(← isRoutine member) then locateMethod accept value more
      else
        let method ← Run.read value candidate
        let signature ← Run.signatureOf method
        let w ← get
        if signature.any (!·.acceptsNothing) then locateMethod accept value more
        else
          match accept (w.kindName value ++ "." ++ candidate ++ "()") method signature with
          | some accessor => return some accessor
          | none => locateMethod accept value more

/-- A hint declares a truth value. -/
def declaresBool (hint : TypeHint) : Bool :=
  hint == .type "bool" || hint == .text "bool" || hint == .text "builtins.bool"

/-- A boolean accessor is accepted if it declares a truth value; if it declares nothing, its result
decides. -/
def acceptBoolean (name : String) (method : Value) (signature : Option Signature) :
    Option Accessor :=
  let hint := (signature.map (·.returns)).getD .absent
  if hint = .absent then some ⟨name, Run.callValue method [], true, false⟩
  else if declaresBool hint then some ⟨name, Run.callValue method [], false, false⟩
  else none

/-- Every general accessor is accepted. -/
def acceptAny (name : String) (method : Value) (_ : Option Signature) : Option Accessor :=
  some ⟨name, Run.callValue method [], false, false⟩

/-- Boolean accessors. -/
def booleanAccessor : Strategy where
  label := "boolean-accessor"
  locate value qualifier := locateMethod acceptBoolean value (candidates "is" qualifier)

/-- General accessors. -/
def generalAccessor : Strategy where
  label := "general-accessor"
  locate value qualifier := locateMethod acceptAny value (candidates "get" qualifier)

/-! ## Fields and items -/

/-- A qualifier names something that is not public. -/
def isPrivate (qualifier : String) : Bool :=
  qualifier.toList.head? == some '_'

/-- Locates the field of a value. -/
def locateField (value : Value) (qualifier : String) : Run (Option Accessor) := do
  let w ← get
  let name := w.kindName value ++ "." ++ qualifier
  match w.member? value qualifier with
  | none =>
    if isPrivate qualifier || (w.specialMember? value "__getattr__").isNone then return none
    else return some ⟨name, Run.read value qualifier, false, true⟩
  | some member =>
    if ← isRoutine member then return none
    else if isPrivate qualifier then
      Run.fail (.notAccessible (.text name) (.text "Attributes starting with '_' are not public."))
    else return some ⟨name, Run.read value qualifier, false, false⟩

/-- Public fields. -/
def publicField : Strategy where
  label := "public-field"
  locate := locateField

/-- Locates the item of a mapping.  If keys are strict, there is none for an absent key; otherwise the
mapping says what an absent key stands for. -/
def locateItem (strict : Bool) (value : Value) (qualifier : String) : Run (Option Accessor) := do
  if !(← Run.isMapping value) then return none
  else
    let key := Value.text qualifier
    let name := (← get).kindName value ++ "[" ++ quote qualifier ++ "]"
    if strict then
      if ← Run.hasKey value key then return some ⟨name, Run.item value key, false, false⟩
      else return none
    else return some ⟨name, Run.valueOf value key, false, false⟩

/-- Items of mappings. -/
def keyedLookup (strict : Bool) : Strategy where
  label := "keyed-lookup"
  locate := locateItem strict

/-- A strategy that calls one function, for one qualifier or for all, or refuses to. -/
def calling (qualifier? : Option String) (denied : Option (Value × Value)) (name : String)
    (function : FunctionId) (requiresBool dynamic : Bool) : Strategy where
  label := "const"
  locate _ qualifier :=
    if qualifier?.any (· != qualifier) then return none
    else
      match denied with
      | some (member, reason) => Run.fail (.notAccessible member reason)
      | none => return some ⟨name, Run.call function [], requiresBool, dynamic⟩

/-- The strategies in their order of precedence. -/
def standard (strict : Bool) : List Strategy :=
  [booleanAccessor, generalAccessor, publicField, keyedLookup strict]

end Strategy

end SqlTemplate
