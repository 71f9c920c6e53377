import SqlTemplate.Cache
import SqlTemplate.Session.Key
import SqlTemplate.Settings
import SqlTemplate.Statement
import SqlTemplate.Template.Parser
/-!
# Sessions

A session is what lasts from one statement to the next: the marker styles, the type tables, the caches
of compiled templates with the one that is in use, and the world of objects.  Tables and caches are
referred to, since they keep their identity while they change.

A computation in a session is a `Job`.  A job that fails keeps the changes it has made.
-/

namespace SqlTemplate

/-- A template that has been compiled.  Each compilation makes a template of its own, told apart from
equal ones by its number. -/
structure CompiledTemplate where
  id : Nat
  template : Template
  deriving DecidableEq

/-- A cache of compiled templates. -/
abbrev TemplateCache := Cache CacheKey CompiledTemplate

/-- A reference to a cache. -/
abbrev CacheId := Nat

/-- What lasts from one statement to the next. -/
structure Session where
  styles : MarkerStyles
  /-- The type tables; the first is the one in use unless another is asked for. -/
  tables : List TypeTable
  caches : List TemplateCache
  /-- The cache in use unless another is asked for. -/
  current : CacheId
  /-- The number of templates compiled so far. -/
  compiled : Nat
  world : World

/-- A computation in a session that may fail. -/
abbrev Job := ExceptT Failure (StateM Session)

namespace Session

/-- The session that starts in a world. -/
def start (w : World) : Session where
  styles := .standard
  tables := [.standard]
  caches := [.empty Settings.standard.cacheSize]
  current := 0
  compiled := 0
  world := w

instance : Inhabited Session := ⟨start .empty⟩

/-- The table that is in use unless another is asked for. -/
def standardTable : TableId := 0

/-- The table that is referred to. -/
def table (session : Session) (id : TableId) : TypeTable := session.tables.getD id .standard

/-- The cache that is referred to. -/
def cache (session : Session) (id : CacheId) : TemplateCache := session.caches.getD id (.empty 0)

/-- Where a session keeps a cache. -/
def cachePlace (id : CacheId) : Place Session TemplateCache where
  get session := session.cache id
  set cache session := { session with caches := session.caches.set id cache }

end Session

namespace Job

/-- Does a job from a session on. -/
def start {α : Type} (job : Job α) (session : Session) : Except Failure α × Session :=
  job session

/-- Runs a computation in the world of the session. -/
def run {α : Type} (computation : Run α) : Job α := do
  let session ← get
  let (result, world) := computation.start session.world
  set { session with world }
  MonadExcept.ofExcept result

/-- Gives what a pure computation gives, or fails with its fault. -/
def ofFault {α : Type} : Except Fault α → Job α
  | .ok a => return a
  | .error fault => throw (.fault fault none)

/-- The marker style of a name. -/
def style (name : String) : Job MarkerStyle := do
  ofFault ((← get).styles.find name)

/-- Registers a marker style. -/
def registerStyle (name : String) (style : MarkerStyle) : Job Unit :=
  modify fun session => { session with styles := session.styles.register name style }

/-! ## Type tables -/

/-- The type with a code given as a value. -/
def typeOfCode (code : Value) : Job SqlType := do
  match code.asInt?.bind SqlType.ofCode? with
  | some type => return type
  | none =>
    throw (.ofMessage .valueError ((← run (Run.shownOf code)) ++ " is not a valid SqlType"))

/-- Registers a type's code under a name. -/
def registerType (table : TableId) (name : String) (code : Value) : Job Unit := do
  let type ← typeOfCode code
  modify fun session => { session with tables := session.tables.modify table (·.register name type) }

/-- The type that a name denotes. -/
def findType (table : TableId) (name : String) : Job SqlType := do
  let table := (← get).table table
  match table.find? name with
  | some type => return type
  | none => throw (.fault (.unknownType name table.knownNames) none)

/-- Adds a table with further names for types. -/
def newTable (aliases : List (String × Value)) : Job TableId := do
  let types ← aliases.mapM fun entry => return (entry.1, ← typeOfCode entry.2)
  let table := types.foldl (fun table entry => table.register entry.1 entry.2) TypeTable.standard
  let session ← get
  set { session with tables := session.tables ++ [table] }
  return session.tables.length

/-! ## Caches -/

/-- Adds an empty cache of a size. -/
def newCache (maxSize : Int) : Job CacheId := do
  if maxSize < 0 then throw (.ofMessage .valueError "max_size must be >= 0")
  else
    let session ← get
    set { session with caches := session.caches ++ [Cache.empty maxSize.toNat] }
    return session.caches.length

/-- The key that a value is in a cache. -/
def keyOfValue (cache : CacheId) (value : Value) : Job CacheKey := do
  let kept := ((← get).cache cache).entries.map (·.1)
  run (CacheKey.ofValue kept value)

/-- Applies settings to the session: the marker style has to be known, and an empty cache of the size
asked for replaces the one in use. -/
def configure (settings : Settings) : Job CacheId := do
  let _ ← style settings.paramstyle
  let cache ← newCache settings.cacheSize
  modify fun session => { session with current := cache }
  return cache

end Job

end SqlTemplate
