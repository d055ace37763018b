import EntityMapper.Query.Compiled
import EntityMapper.Session.Basic
/-! Searches of a session. An entity that is already known keeps its instance. -/

namespace EntityMapper

namespace Session

open Operation

variable {σ : Type} (g : Gateway σ)

/-- The instance known by the key of one that was loaded, or else that one, known from now on with
a snapshot of it. -/
def manage (i : Instance) : Operation σ Handle := do
  let (h, isNew, map) ← ofWork ((← session).map.getOrPut i)
  change fun s => { s with map := map }
  if isNew then
    let m ← ofWork (g.resolve i.type)
    change fun s => { s with
      snapshots := s.snapshots.insert (.ofInstance i) (.capture m i) }
  return h

def manageAll (found : List Instance) : Operation σ (List Handle) :=
  found.mapM (manage g)

/-- The known instance for what was loaded, if anything was. -/
def manageOption : Option Instance → Operation σ (Option Handle)
  | none => return none
  | some i => some <$> manage g i

/-- The entity with a given identifier, loaded if it is not known. -/
def findById (t : EntityType) (id : Value) : Operation σ (Option Handle) := do
  ensureOpen
  let key := EntityKey.of t id
  let known := (← session).map.handle? (← get).space.heap t key
  if known.isSome then
    note .trace "Identity map hit"
    return known
  manageOption g (← ofWork (g.load t key.id))

/-- The only entity with a given value in a field. -/
def findBy (t : EntityType) (field : String) (v : Value) : Operation σ (Option Handle) := do
  ensureOpen
  manageOption g (← ofWork (g.findBy t field v))

/-- All entities with a given value in a field. -/
def findAllBy (t : EntityType) (field : String) (v : Value) : Operation σ (List Handle) := do
  ensureOpen
  manageAll g (← ofWork (g.findAllBy t field v))

/-- The only entity that a statement of the caller gives. -/
def nativeBy (t : EntityType) (sql : String) (params : List Value) :
    Operation σ (Option Handle) := do
  ensureOpen
  manageOption g (← ofWork (g.nativeBy t sql params))

/-- All entities that a statement of the caller gives. -/
def nativeAll (t : EntityType) (sql : String) (params : List Value) :
    Operation σ (List Handle) := do
  ensureOpen
  manageAll g (← ofWork (g.nativeAll t sql params))

def compile (t : EntityType) (q : EntityQuery) : Operation σ CompiledQuery := do
  ensureOpen
  let strict := (← session).config.strictQueries
  ofWork (.resolving (q.compile g.catalogue.schema strict t.descriptor))

def queryBy (t : EntityType) (q : EntityQuery) : Operation σ (Option Handle) := do
  let statement ← compile g t q
  nativeBy g t statement.sql statement.params

def queryAll (t : EntityType) (q : EntityQuery) : Operation σ (List Handle) := do
  let statement ← compile g t q
  nativeAll g t statement.sql statement.params

end Session

end EntityMapper
