import SqlTemplate.Object.Member
import SqlTemplate.Text.Clipped
/-!
# What values refuse

A value that is asked for what it does not have, or does not support, refuses with a failure that names its
kind.  Long names are clipped there, each message at a length of its own.
-/

namespace SqlTemplate

open Text

namespace World

/-- The name of the kind of a value between quotes, as far as it fits into a number of bytes. -/
def label (w : World) (limit : Nat) (value : Value) : String :=
  "'" ++ clipped limit (w.formalName value) ++ "'"

/-- A value has no attribute of a name. -/
def missingAttribute (w : World) (value : Value) (name : String) : Failure :=
  match value with
  | .type c =>
    .attributeError ("type object '" ++ clipped 50 (w.classOf c).name ++ "' has no attribute '" ++ name ++ "'")
  | .method _ _ => .attributeError ("'function' object has no attribute '" ++ name ++ "'")
  | _ => .attributeError (w.label 50 value ++ " object has no attribute '" ++ name ++ "'")

/-- A slot of an object is empty. -/
def emptySlot (w : World) (value : Value) (name : String) : Failure :=
  .attributeError (w.label 200 value ++ " object has no attribute '" ++ name ++ "'")

/-- A value cannot be called. -/
def notCallable (w : World) (value : Value) : Failure :=
  .typeError (w.label 200 value ++ " object is not callable")

/-- A value has no items to look up. -/
def noItems (w : World) (value : Value) : Failure :=
  .typeError (w.label 200 value ++ " object is not subscriptable")

/-- A value has no items to set. -/
def fixedItems (w : World) (value : Value) : Failure :=
  .typeError (w.label 200 value ++ " object does not support item assignment")

/-- Nothing can be sought in a value. -/
def notIterable (w : World) (value : Value) : Failure :=
  .typeError ("argument of type " ++ w.label 200 value ++ " is not iterable")

/-- A value stands for no integer. -/
def notIndex (w : World) (value : Value) : Failure :=
  .typeError (w.label 200 value ++ " object cannot be interpreted as an integer")

/-- A value that may change has no hash. -/
def unhashable (w : World) (value : Value) : Failure :=
  .typeError ("unhashable type: " ++ w.label 200 value)

/-- What a method gives is no text. -/
def notText (w : World) (method : String) (given : Value) : Failure :=
  .typeError (method ++ " returned non-string (type " ++ clipped 200 (w.formalName given) ++ ")")

/-- A class takes no arguments when it is called. -/
def takesNothing (w : World) (c : ClassId) : Failure :=
  .typeError (clipped 200 (w.classOf c).name ++ "() takes no arguments")

/-- There can be no objects of a class. -/
def isAbstract (w : World) (c : ClassId) : Failure :=
  let c := w.classOf c
  let names := c.pending.mergeSort fun a b => decide (a ≤ b)
  .typeError ("Can't instantiate abstract class " ++ c.name ++ " with abstract method" ++
    (if names.length = 1 then "" else "s") ++ " " ++ ", ".intercalate names)

/-- There is no place to keep the value of a lazy member. -/
def noPlace (w : World) (value : Value) (name : String) : Failure :=
  .typeError ("No '__dict__' attribute on " ++ quote (w.kindName value) ++ " instance to cache " ++
    quote name ++ " property.")

/-- The place where an object keeps its attributes cannot take the value of a lazy member. -/
def readOnlyPlace (w : World) (value : Value) (name : String) : Failure :=
  .typeError ("The '__dict__' attribute on " ++ quote (w.kindName value) ++
    " instance does not support item assignment for caching " ++ quote name ++ " property.")

/-- A property of the values of a kind cannot be set. -/
def noSetter (owner name : String) : Failure :=
  .attributeError ("property " ++ quote name ++ " of " ++ quote owner ++ " object has no setter")

/-- A built-in attribute of the values of a kind cannot be set. -/
def fixedField (owner name : String) : Failure :=
  .attributeError ("attribute '" ++ name ++ "' of '" ++ clipped 100 owner ++ "' objects is not writable")

/-- A value is no class, and so no class of an object. -/
def notClass (w : World) (value : Value) : Failure :=
  .typeError ("__class__ must be set to a class, not '" ++ w.formalName value ++ "' object")

/-- The class of a value cannot be exchanged. -/
def fixedKind : Failure :=
  .typeError "__class__ assignment only supported for mutable types or ModuleType subclasses"

/-- The objects of a class are built otherwise than those of another one. -/
def otherLayout (name other : String) : Failure :=
  .typeError ("__class__ assignment: '" ++ name ++ "' object layout differs from '" ++ other ++ "'")

/-- A value is no place for attributes. -/
def notPlace (w : World) (value : Value) : Failure :=
  .typeError ("__dict__ must be set to a dictionary, not a " ++ w.label 200 value)

/-- An attribute of a value that has no place for it is fixed, or is none. -/
def fixedAttribute (w : World) (value : Value) (name : String) (exists? : Bool) : Failure :=
  .attributeError <|
    if exists? then w.label 50 value ++ " object attribute '" ++ name ++ "' is read-only"
    else w.label 100 value ++ " object has no attribute '" ++ name ++ "'"

end World

end SqlTemplate
