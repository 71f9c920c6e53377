import SqlTemplate.Proofs.Cache.Entries
/-!
# Trails

A `Trail` is a state that keeps a cache and remembers what has become of it: every cache it has been, and what each
call has come to. The cache is reached through a `Place` that takes down each change, so calls on a trail are
calls of `getOrCompute` itself, with nothing about the cache told apart from what these do.

A `Task` is what a computation may do with the cache that it is run for: call it with computations that are tasks
again, empty it, look at it, and in the end give something or fail. Whether it fails because of a call that has
failed is its own affair.
-/

namespace SqlTemplate.Cache

/-- What a call has come to. -/
structure Call (κ ε α : Type) where
  key : κ
  /-- What the computation gave and the cache as it left it, if it was run. -/
  computed : Option (Except ε α × Cache κ α)
  result : Except ε α
  /-- The cache at the end of the call. -/
  after : Cache κ α

/-- What has happened to a cache. -/
inductive Event (κ ε α : Type) where
  | called (call : Call κ ε α)
  | cleared

/-- A cache and what has become of it so far, the last thing first. -/
structure Trail (κ ε α : Type) where
  cache : Cache κ α
  /-- Every cache it has been, with the one that it is in front. -/
  caches : List (Cache κ α)
  /-- What the computation that ended last has come to, since the last call began. -/
  computed : Option (Except ε α × Cache κ α)
  events : List (Event κ ε α)

namespace Trail

variable {κ ε α : Type}

/-- The trail of a cache to which nothing has happened. -/
def start (cache : Cache κ α) : Trail κ ε α := ⟨cache, [cache], none, []⟩

/-- Where a trail keeps its cache; what is put there is taken down. -/
def place : Place (Trail κ ε α) (Cache κ α) where
  get trail := trail.cache
  set cache trail := { trail with cache := cache, caches := cache :: trail.caches }

/-- A computation that leaves a note of what it has come to. -/
def noting (compute : ExceptT ε (StateM (Trail κ ε α)) α) : ExceptT ε (StateM (Trail κ ε α)) α :=
  fun trail =>
    let (result, trail) := compute trail
    (result, { trail with computed := some (result, trail.cache) })

/-- The trail at the beginning of a call: no computation has ended since. -/
def begun (trail : Trail κ ε α) : Trail κ ε α := { trail with computed := none }

/-- A call for a key. -/
def call [BEq κ] (key : κ) (compute : ExceptT ε (StateM (Trail κ ε α)) α) (trail : Trail κ ε α) :
    Except ε α × Trail κ ε α :=
  let (result, trail) := getOrCompute place key (noting compute) trail.begun
  let event := Event.called ⟨key, trail.computed, result, trail.cache⟩
  (result, { trail with events := event :: trail.events })

/-- The cache is emptied. -/
def clear (trail : Trail κ ε α) : Trail κ ε α :=
  let trail := place.modify Cache.clear trail
  { trail with events := .cleared :: trail.events }

/-- What a call is at its end. -/
def ended (trail : Trail κ ε α) (call : Call κ ε α) : Trail κ ε α :=
  { trail with computed := call.computed, events := .called call :: trail.events }

section Call

variable [BEq κ] {key : κ} {compute : ExceptT ε (StateM (Trail κ ε α)) α} {trail after : Trail κ ε α}

omit [BEq κ] in
theorem noting_of_eq {result : Except ε α} (h : compute trail = (result, after)) :
    noting compute trail = (result, { after with computed := some (result, after.cache) }) := by
  rw [noting, h]

theorem call_of_some {value : α} (h : trail.cache.get? key = some value) :
    trail.call key compute
      = (.ok value, (place.set (trail.cache.touch key) trail).ended
          ⟨key, none, .ok value, trail.cache.touch key⟩) := by
  have hcall : getOrCompute place key (noting compute) trail.begun
      = (.ok value, place.modify (·.touch key) trail.begun) := getOrCompute_of_some h
  rw [call, hcall]
  rfl

theorem call_of_error {failure : ε} (h : trail.cache.get? key = none)
    (hcompute : compute trail.begun = (.error failure, after)) :
    trail.call key compute
      = (.error failure, after.ended
          ⟨key, some (.error failure, after.cache), .error failure, after.cache⟩) := by
  have hcall := getOrCompute_of_error (show (place.get trail.begun).get? key = none from h) (noting_of_eq hcompute)
  rw [call, hcall]
  rfl

theorem call_of_zero {value : α} (h : trail.cache.get? key = none)
    (hcompute : compute trail.begun = (.ok value, after))
    (hsize : after.cache.maxSize = 0) :
    trail.call key compute
      = (.ok value, after.ended ⟨key, some (.ok value, after.cache), .ok value, after.cache⟩) := by
  have hcall := getOrCompute_of_zero (show (place.get trail.begun).get? key = none from h) (noting_of_eq hcompute)
    hsize
  rw [call, hcall]
  rfl

theorem call_of_ok {value : α} (h : trail.cache.get? key = none)
    (hcompute : compute trail.begun = (.ok value, after))
    (hsize : after.cache.maxSize ≠ 0) :
    trail.call key compute
      = (.ok (after.cache.publish key value).1,
          (place.set (after.cache.publish key value).2 after).ended
            ⟨key, some (.ok value, after.cache), .ok (after.cache.publish key value).1,
              (after.cache.publish key value).2⟩) := by
  have hcall := getOrCompute_of_ok (show (place.get trail.begun).get? key = none from h) (noting_of_eq hcompute) hsize
  rw [call, hcall]
  rfl

end Call

end Trail

/-- What a computation may do with the cache that it is run for. -/
inductive Task (κ ε α : Type) [BEq κ] where
  | done (result : Except ε α)
  | clear (next : Task κ ε α)
  | look (next : Cache κ α → Task κ ε α)
  | call (key : Key κ) (compute : Task κ ε α) (next : Except ε α → Task κ ε α)

/-- Does a task with the cache of a trail. -/
def Task.run {κ ε α : Type} [BEq κ] : Task κ ε α → ExceptT ε (StateM (Trail κ ε α)) α
  | .done result => fun trail => (result, trail)
  | .clear next => fun trail => next.run trail.clear
  | .look next => fun trail => (next trail.cache).run trail
  | .call key compute next => fun trail =>
    let (result, trail) := trail.call key.1 compute.run
    (next result).run trail

end SqlTemplate.Cache
