import SqlTemplate.Proofs.Secrecy.Resolving
/-!
# Secrets that show

How an object is called is found out by asking it for many things. An object whose class takes no part in the answers
(`World.AnswersPlainly`) has the signature of its class's method for calls (`start_signatureOf_of_null`), unless it has
an attribute that states another one: then nothing is known of its signature (`start_signatureOf_of_stated`).

So an attribute of a name that is looked up in all objects shows, private or not (`parts_tell_apart`). Other private
attributes show by what they hold: a value that says by code what its class is, or that is given the class of a routine
on the way.
-/

namespace SqlTemplate

/-- What an object is asked for before the method for calls of its class is looked at, besides its class and a
signature of its own. -/
def askedOf : List String :=
  ["__wrapped__", "_partialmethod", "__name__", "__code__", "__defaults__", "__kwdefaults__", "__annotations__"]

/-- An object can be called by a method that its class defines, and its class takes no part in what else is asked of it:
there is nothing under any of these names. -/
structure World.AnswersPlainly (w : World) (id : ObjectId) (f : FunctionId) : Prop where
  call : w.ownMember? (w.object id).kind "__call__" = some (.value (.function f))
  isQuiet : w.IsQuiet (w.object id).kind
  getattr : w.ownMember? (w.object id).kind "__getattr__" = none
  equality : w.ownMember? (w.object id).kind "__eq__" = none
  statesNothing : w.classMember? (w.object id).kind "__signature__" = none
  hasNothing : ∀ name ∈ askedOf,
    w.classMember? (w.object id).kind name = none ∧ (w.attributesOf id).lookup name = none

namespace Run

variable {w : World} {id : ObjectId} {f : FunctionId} {name : String}

/-! ## Attributes -/

theorem start_read_of_ordinary (h : w.AnswersPlainly id f) (hclass : w.classMember? (w.object id).kind name = none) :
    (read (.object id) name).start w = match (w.attributesOf id).lookup name with
      | some v => (.ok v, w)
      | none => (.error (w.missingAttribute (.object id) name), w) := by
  have hread : (read (.object id) name).start w = (readWith (inner w.depth) (.object id) name).start w := rfl
  simp only [hread, readWith, start_bind, start_get, h.isQuiet.getattribute, h.getattr, readOrdinary, hclass]
  cases (w.attributesOf id).lookup name <;> rfl

theorem start_attribute?_of_ordinary (h : w.AnswersPlainly id f)
    (hclass : w.classMember? (w.object id).kind name = none) :
    (attribute? (.object id) name).start w = (.ok ((w.attributesOf id).lookup name), w) := by
  have hread := start_read_of_ordinary h hclass
  cases hlookup : (w.attributesOf id).lookup name with
  | some v =>
    rw [hlookup] at hread
    exact start_attribute?_of_ok hread
  | none =>
    rw [hlookup] at hread
    exact start_attribute?_of_error hread rfl

theorem start_attribute?_of_mem (h : w.AnswersPlainly id f) (hname : name ∈ askedOf) :
    (attribute? (.object id) name).start w = (.ok none, w) := by
  rw [start_attribute?_of_ordinary h (h.hasNothing name hname).1, (h.hasNothing name hname).2]

/-! ## What is found out -/

theorem start_unwrapped_of_answersPlainly (h : w.AnswersPlainly id f) (first : Value) (seen : List ObjectId)
    {depth : Nat} (hdepth : 0 < depth) :
    (unwrapped first seen depth (.object id)).start w = (.ok (.object id), w) := by
  obtain ⟨depth, rfl⟩ := Nat.exists_eq_add_one.mpr hdepth
  have hwrapped := start_attribute?_of_mem h (by decide : "__wrapped__" ∈ askedOf)
  simp only [unwrapped, start_bind, start_askKind_of_isPlain h.isQuiet.toIsPlain, hwrapped, Option.isNone_none, if_true,
    start_pure]

theorem start_askFunction_of_answersPlainly (h : w.AnswersPlainly id f) :
    (askFunction (.object id)).start w = (.ok (), w) := by
  have hask {name : String} (hname : name ∈ askedOf) := start_attribute?_of_mem h hname
  have hnull : (askKind .null 1).start w = (.ok (), w) := rfl
  simp only [askFunction, List.forIn_cons, List.forIn_nil, bind_assoc, pure_bind, start_bind,
    start_askKind_of_isPlain h.isQuiet.toIsPlain, hask (by decide : "__name__" ∈ askedOf),
    hask (by decide : "__code__" ∈ askedOf), hask (by decide : "__defaults__" ∈ askedOf),
    hask (by decide : "__kwdefaults__" ∈ askedOf), hask (by decide : "__annotations__" ∈ askedOf), Option.getD_none,
    hnull]

theorem start_isBuiltin_of_answersPlainly (h : w.AnswersPlainly id f) :
    (isBuiltin (.object id)).start w = (.ok false, w) := by
  have hreads := start_onlyReads_of_answersQuietly h.isQuiet.toAnswersQuietly
  rw [h.isQuiet.isData] at hreads
  have hequal : (equal (.object id) (.descriptor "type")).start w = (.ok false, w) := by
    have hspecial : w.specialMember? (.object id) "__eq__" = none := h.equality
    simp only [equal, objectEqual, saysEqual?, bind_assoc, start_bind, start_get, hspecial, start_pure,
      Option.getD_none]
  simp only [isBuiltin, start_bind, start_askKind_of_isPlain h.isQuiet.toIsPlain, hreads, hequal,
    Bool.false_eq_true, if_false]

/-- Nothing on the way to what the object itself states tells anything. -/
theorem start_inspect_of_answersPlainly (h : w.AnswersPlainly id f) (hdepth : 0 < w.depth) (depth : Nat) :
    (inspect (depth + 1) (.object id)).start w = (inspect.inspectObject depth id).start w := by
  have hcall : w.specialMember? (.object id) "__call__" = some (.value (.function f)) := h.call
  rw [inspect, start_bind, start_get]
  simp only [hcall, Option.isNone_some, Bool.false_eq_true, if_false, start_bind,
    start_askKind_of_isPlain h.isQuiet.toIsPlain, start_unwrapped_of_answersPlainly h _ _ hdepth]

/-- The signature of an object that states none is that of its method for calls. -/
theorem start_signatureOf_of_null (h : w.AnswersPlainly id f) (hdepth : 1 < w.depth)
    (hstated : (w.attributesOf id).lookup "__signature__" = some .null) {rest : Signature}
    (hrest : (w.function f).signature.afterReceiver? = some rest) :
    (signatureOf (.object id)).start w = (.ok (some rest), w) := by
  obtain ⟨depth, hdepth⟩ := Nat.exists_eq_add_of_le' hdepth
  have hcall : w.specialMember? (.object id) "__call__" = some (.value (.function f)) := h.call
  have hstands : (askKind (.function f) 1).start w = (.ok (), w) := rfl
  have hread : (readSpecial id "__call__" (.value (.function f))).start w = (.ok (.method (.object id) f), w) := rfl
  have hmethod : (callMethod id (.value (.function f))).start w = (.ok (.method (.object id) f), w) := by
    simp only [callMethod, start_bind, hstands, hread]
  have hinspect : (inspect w.depth (.object id)).start w = (.ok rest, w) := by
    have hpartial := start_attribute?_of_mem h (by decide : "_partialmethod" ∈ askedOf)
    rw [hdepth, start_inspect_of_answersPlainly h (by omega), inspect.inspectObject]
    simp only [start_bind, start_attribute?_of_ordinary h h.statesNothing, hstated, hpartial,
      start_askFunction_of_answersPlainly h, start_isBuiltin_of_answersPlainly h, Bool.false_eq_true, if_false,
      start_askKind_of_isPlain h.isQuiet.toIsPlain, start_get, hcall, hmethod, start_inspect_method hrest]
  exact start_signatureOf_of_ok hinspect

/-- An attribute that is no signature leaves the signature of an object unknown. -/
theorem start_signatureOf_of_stated (h : w.AnswersPlainly id f) (hdepth : 0 < w.depth) {stated : Value}
    (hstated : (w.attributesOf id).lookup "__signature__" = some stated) (hne : stated ≠ .null) {text : String}
    (htext : (shownOf stated).start w = (.ok text, w)) :
    (signatureOf (.object id)).start w = (.ok none, w) := by
  obtain ⟨depth, hsucc⟩ := Nat.exists_eq_add_one.mpr hdepth
  have hinspect : (inspect w.depth (.object id)).start w = (.error (.typeError text), w) := by
    rw [hsucc, start_inspect_of_answersPlainly h hdepth, inspect.inspectObject]
    simp only [start_bind, start_attribute?_of_ordinary h h.statesNothing, hstated, start_complain htext]
  exact start_signatureOf_of_error hinspect rfl

/-- A step that only gives a value is noted as done and logged. -/
theorem start_perform_give (inner : Inner) (function : String) (step : Nat) (value receiver : Value)
    (argument : Option Value) (w : World) :
    (perform inner function ⟨step, [], .give value⟩ receiver argument).start w
      = (.ok value, { w.log (logEntry function argument) with done := w.done ++ [step] }) :=
  rfl

end Run

namespace Resolve

open Run

/-! ## Values that show -/

/-- The class name of the failure that a result is, if it is one. -/
def failureName : Except Failure Value → Option String
  | .ok _ => none
  | .error failure => some failure.className

/-- A path of an account leads to different results in two worlds, or other calls are made. But no function that is run
reads an attribute. -/
def TellsApart (names : List String) (w w' : World) : Prop :=
  let reading := (parts (Strategy.standard true) givenAccount ("account" :: names)).start
  (reading w).2.reads = [] ∧ (reading w').2.reads = [] ∧
  ((reading w').1 ≠ (reading w).1 ∨ (reading w').2.calls ≠ (reading w).2.calls)

/-- An account with a method that is read as an object. The object is called with a key, and may state a signature. -/
def stating (stated : Value) : World :=
  let given : Function :=
    ⟨"Binder.__get__", ⟨[Parameter.plain "self", Parameter.plain "owner", Parameter.plain "kind"], .absent⟩,
      .perform ⟨0, [], .give (.object 2)⟩⟩
  let called : Function :=
    ⟨"Lookup.__call__", ⟨[Parameter.plain "self", Parameter.plain "key"], .absent⟩, .perform ⟨1, [], .give .null⟩⟩
  { World.empty with
    classes := World.empty.classes ++
      [.ofMembers "Account" [("get_x", .value (.object 1))], .ofMembers "Binder" [("__get__", .static 0)],
        .ofMembers "Lookup" [("__call__", .value (.function 1))]]
    functions := [given, called]
    objects := [{ Object.ofKind 2 with attributes := [("x", .text "field")] }, Object.ofKind 3,
      { Object.ofKind 4 with attributes := [("__signature__", stated)] }] }

/-- The world after the method of the account has been read. -/
def fetched (stated : Value) : World :=
  { stating stated with done := [0], calls := ["Binder.__get__"] }

theorem answersPlainly_fetched (stated : Value) : (fetched stated).AnswersPlainly 2 1 where
  call := rfl
  isQuiet := ⟨⟨⟨rfl, rfl⟩, nofun, nofun⟩, rfl⟩
  getattr := rfl
  equality := rfl
  statesNothing := rfl
  hasNothing := by
    simp only [askedOf, List.forall_mem_cons]
    exact ⟨⟨rfl, rfl⟩, ⟨rfl, rfl⟩, ⟨rfl, rfl⟩, ⟨rfl, rfl⟩, ⟨rfl, rfl⟩, ⟨rfl, rfl⟩, ⟨rfl, rfl⟩, nofun⟩

theorem start_read_stating (stated : Value) :
    (read (.object 0) "get_x").start (stating stated) = (.ok (.object 2), fetched stated) := by
  have hcalled : (read (.object 0) "get_x").start (stating stated)
      = (runFunction (inner 984) 0 [.object 1, .object 0, .type 2]).start (stating stated) := rfl
  rw [hcalled, runFunction, start_bind, start_get]
  exact start_perform_give (inner 984) "Binder.__get__" 0 (.object 2) (.object 1) (some (.object 0)) (stating stated)

/-- Whether the method of the account is an accessor is up to its signature. -/
theorem start_locate_stating {stated : Value} {signature? : Option Signature}
    (h : (signatureOf (.object 2)).start (fetched stated) = (.ok signature?, fetched stated)) :
    (locate Strategy.generalAccessor (.object 0) "x" "account.x").start (stating stated) =
      (.ok (if signature?.any (!·.acceptsNothing) then none
        else some ⟨"Account.get_x()", callValue (.object 2) [], false, false⟩), fetched stated) := by
  have hcandidates : Strategy.candidates "get" "x" = ["get_x", "getX"] := by decide
  have hmember : (stating stated).member? (.object 0) "get_x" = some (.value (.object 1)) := rfl
  have hquiet : (stating stated).AnswersQuietly 3 := ⟨⟨rfl, rfl⟩, by rintro _ ⟨⟩; exact nofun, nofun⟩
  have hroutine : (Strategy.isRoutine (.value (.object 1))).start (stating stated) = (.ok true, stating stated) :=
    start_isRoutine_object hquiet
  refine start_orElse_of_ok ?_ _
  simp only [Strategy.generalAccessor, hcandidates, Strategy.locateMethod, start_bind, start_get, hmember, hroutine,
    Bool.not_true, Bool.false_eq_true, if_false, start_read_stating, h]
  split
  · rfl
  · rfl

theorem start_parts_stating (stated : Value) :
    (parts (Strategy.standard true) givenAccount ["account", "x"]).start (stating stated) =
      (readBy (.object 0) "account" "x" "account.x"
        [Strategy.generalAccessor, Strategy.publicField, Strategy.keyedLookup true]).start (stating stated) := by
  have hvalue : givenAccount.argument "account" "account.x" = .ok (.object 0) := rfl
  have hpath : ".".intercalate ["account", "x"] = "account.x" := by decide
  -- there is no method `is_x` or `isX`
  have hboolean : (locate Strategy.booleanAccessor (.object 0) "x" "account.x").start (stating stated)
      = (.ok none, stating stated) := rfl
  simp only [parts, hpath, hvalue, follow, segment, bind_pure, Strategy.standard]
  rw [readBy, start_bind, hboolean]

/-- A method that needs a key is no accessor, but it is taken for one if it states a signature that is none. -/
theorem tellsApart_stating : TellsApart ["x"] (stating .null) (stating (.int 5)) := by
  -- the method is passed over for the field
  have hnull : (parts (Strategy.standard true) givenAccount ["account", "x"]).start (stating .null)
      = (.ok (.text "field"), fetched .null) := by
    have hsignature := start_signatureOf_of_null (answersPlainly_fetched .null) (by decide) rfl rfl
    rw [start_parts_stating, readBy, start_bind, start_locate_stating hsignature]
    rfl
  -- the method is called, and lacks its key
  have hstated : ∃ failure, (parts (Strategy.standard true) givenAccount ["account", "x"]).start (stating (.int 5))
      = (.error failure, fetched (.int 5)) := by
    have hne : Value.int 5 ≠ .null := by simp
    have hsignature := start_signatureOf_of_stated (answersPlainly_fetched (.int 5)) (by decide) rfl hne rfl
    rw [start_parts_stating, readBy, start_bind, start_locate_stating hsignature]
    exact ⟨_, rfl⟩
  obtain ⟨failure, hstated⟩ := hstated
  simp only [TellsApart, hnull, hstated]
  exact ⟨rfl, rfl, .inl (by simp)⟩

/-- A mapping with a slot for a test for keys of its own. -/
def testing (test : Value) : World :=
  let tested : Class :=
    { Class.ofMembers "Account" [("__contains__", .slot)] with
      slots := some ["__contains__"], mapping := some .builtin }
  { World.empty with
    classes := World.empty.classes ++ [tested]
    objects := [{ Object.ofKind 2 with slots := [("__contains__", test)], entries := [(.text "a", .int 1)] }] }

/-- A mapping is tested for a key by what is in the slot, and neither of the two values can be called for that. They
fail in different ways. -/
theorem tellsApart_testing : TellsApart ["a"] (testing .null) (testing (.int 5)) := by
  have hnull : ((parts (Strategy.standard true) givenAccount ["account", "a"]).start (testing .null)).1
      = .error (.typeError "'Account' object is not a container") := by
    set_option maxRecDepth 2000 in rfl
  have htested : ((parts (Strategy.standard true) givenAccount ["account", "a"]).start (testing (.int 5))).1
      = .error (.typeError "'int' object is not callable") := by
    set_option maxRecDepth 2000 in rfl
  refine ⟨rfl, rfl, .inl ?_⟩
  rw [hnull, htested]
  intro h
  injection h with h
  injection h with _ h
  simp at h

/-- An account that keeps a value, and an object with a property that gives the object the class of a routine. -/
def exchanging (kept : Value) : World :=
  let back : Function :=
    ⟨"Pin.back", ⟨[Parameter.plain "self"], .absent⟩, .perform ⟨0, [("__class__", .type 4)], .give (.object 0)⟩⟩
  let given : Function := ⟨"Binder.__get__", ⟨[Parameter.plain "self"], .absent⟩, .perform ⟨1, [], .give .null⟩⟩
  { World.empty with
    classes := World.empty.classes ++ [.ofMembers "Account" [], .ofMembers "Pin" [("back", .property 0)],
      .ofMembers "Binder" [("__get__", .value (.function 1))]]
    functions := [back, given]
    objects := [{ Object.ofKind 2 with attributes := [("pin", .object 1), ("_pin", kept)] }, Object.ofKind 3] }

/-- A private attribute that has become a routine is passed over, and is not refused. -/
theorem tellsApart_exchanging :
    TellsApart ["pin", "back", "_pin"] (exchanging (.int 5)) (exchanging (.object 1)) := by
  let names := ["account", "pin", "back", "_pin"]
  have hdenied : failureName ((parts (Strategy.standard true) givenAccount names).start (exchanging (.int 5))).1
      = some "AccessDeniedError" := by
    decide +kernel
  have hmissed : failureName ((parts (Strategy.standard true) givenAccount names).start (exchanging (.object 1))).1
      = some "UnresolvablePropertyError" := by
    decide +kernel
  refine ⟨List.isEmpty_iff.mp (by decide +kernel), List.isEmpty_iff.mp (by decide +kernel), .inl fun h => ?_⟩
  rw [← h, hmissed] at hdenied
  simp at hdenied

/-- An account that keeps a value, and an object that says by code what its class is. -/
def guarding (kept : Value) : World :=
  let kind : Function := ⟨"Guard.__class__", ⟨[Parameter.plain "self"], .absent⟩, .perform ⟨0, [], .give .null⟩⟩
  { World.empty with
    classes := World.empty.classes ++ [.ofMembers "Account" [], .ofMembers "Guard" [("__class__", .property 0)]]
    functions := [kind]
    objects := [{ Object.ofKind 2 with attributes := [("_pin", kept)] }, Object.ofKind 3] }

/-- Before a private attribute is refused, the value that it holds is asked whether it is a routine. -/
theorem tellsApart_guarding : TellsApart ["_pin"] (guarding (.int 5)) (guarding (.object 1)) := by
  have hsilent : ((parts (Strategy.standard true) givenAccount ["account", "_pin"]).start (guarding (.int 5))).2.calls
      = [] := rfl
  have hasked : ((parts (Strategy.standard true) givenAccount ["account", "_pin"]).start (guarding (.object 1))).2.calls
      = List.replicate 9 "Guard.__class__" := by
    decide +kernel
  refine ⟨rfl, List.isEmpty_iff.mp (by decide +kernel), .inr ?_⟩
  rw [hsilent, hasked]
  simp

/-- Two values under a private name, which no function reads, make a difference to what a path leads to: if the name is
one that is looked up in all objects, whether in attributes or in slots, or if one of them is an object that becomes a
routine on the way. If one of them is an object that answers by code, they make a difference to what is called. None of
them is a routine at first. -/
theorem parts_tell_apart :
    (Strategy.isPrivate "__signature__" = true ∧ TellsApart ["x"] (stating .null) (stating (.int 5))) ∧
    (Strategy.isPrivate "__contains__" = true ∧ TellsApart ["a"] (testing .null) (testing (.int 5))) ∧
    (Strategy.isPrivate "_pin" = true ∧
      ((Strategy.isRoutine (.value (.object 1))).start (exchanging (.object 1))).1 = .ok false ∧
      TellsApart ["pin", "back", "_pin"] (exchanging (.int 5)) (exchanging (.object 1))) ∧
    ((Strategy.isRoutine (.value (.object 1))).start (guarding (.object 1))).1 = .ok false ∧
      TellsApart ["_pin"] (guarding (.int 5)) (guarding (.object 1)) :=
  ⟨⟨by decide, tellsApart_stating⟩, ⟨by decide, tellsApart_testing⟩, ⟨by decide, rfl, tellsApart_exchanging⟩,
    rfl, tellsApart_guarding⟩

end Resolve

end SqlTemplate
