import EntityMapper.Entity.Hydration
import EntityMapper.Store.Entry
/-! Gateways: reading and writing the entities of a catalogue over a connection. -/

namespace EntityMapper

/-- A connection with the types that are read and written over it. -/
structure Gateway (σ : Type) where
  connection : Connection σ
  catalogue : Catalogue
  /-- Whether the notices of statements matter more than usual. -/
  showStatements : Bool := false

/-- The failure of building an instance of a type out of a row: a value of a wrong type is a
fault of the row. -/
def Error.whileBuilding (t : EntityType) : Error → Error
  | .type expected actual column =>
    let cause : Error := .type expected actual column
    .dataAccess .hydration ("cannot build entity " ++ t.name ++ " from row: " ++ cause.message)
      none (some cause)
  | e => e

def atMostOne {α : Type} (t : EntityType) : List α → Except Error (Option α)
  | [] => .ok none
  | [a] => .ok (some a)
  | found => .error (.store .nonUniqueResult ("query for entity " ++ t.name ++ " returned " ++
      showNat found.length ++ " rows, expected at most one"))

namespace Gateway

variable {σ : Type} (g : Gateway σ)

def resolve (t : EntityType) : Work σ Metadata :=
  .resolving (Journal.resolve g.catalogue.schema t.descriptor)

def announce : Work σ Unit :=
  .note (if g.showStatements then .info else .debug) "Executing SQL"

def query (c : Command) : Work σ (List Row) := do
  g.announce
  fun w =>
    let (answer, store) := g.connection.query c w.store
    (answer.mapError (Error.withSql c.statement.text), w.exchanged (.query c answer) store)

def execute (c : Command) : Work σ Nat := do
  g.announce
  fun w =>
    let (answer, store) := g.connection.execute c w.store
    (answer.mapError (Error.withSql c.statement.text), w.exchanged (.execute c answer) store)

/-- The identifier of the row that a statement adds. -/
def insert (c : Command) : Work σ Value := do
  g.announce
  fun w =>
    let (answer, store) := g.connection.insert c w.store
    (answer.mapError (Error.withSql c.statement.text), w.exchanged (.insert c answer) store)

def transact (step : TransactionStep) : Work σ Unit := do
  g.announce
  fun w =>
    let (answer, store) := g.connection.transact step w.store
    let w := w.exchanged (.transact step answer) store
    match answer, g.connection.notice with
    | .ok _, some e => (answer, w.note e.level e.message)
    | _, _ => (answer, w)

/-- Adds a row for an instance and gives the identifier that the store made. -/
def save (i : Instance) : Work σ Value := do
  let m ← g.resolve i.type
  let c := m.insertOf i.fieldValue
  let id ← g.insert c
  if id.isNull then
    throw ((Error.store .generatedKey
      ("insert into " ++ m.table ++ " returned no generated key")).withSql c.statement.text)
  Work.note .debug "Inserted row"
  return id

def resolveKey (k : EntityKey) : Work σ Metadata :=
  match k.type with
  | some t => g.resolve t
  | none => throw (.illegalState ("no entity type for key " ++ k.toText))

/-- Writes the row of an entry, guarded by the version that it is expected to have, and gives the
version that it has then. -/
def update (e : Entry) (expected : Value) : Work σ (Option Value) := do
  let m ← g.resolveKey e.key
  let i := ((← get).heap).get e.handle
  match m.updateOf (some expected) e.key.id i.fieldValue with
  | .error fault => throw (.mapping m.name fault.message)
  | .ok plan =>
    let affected ← g.execute plan.command
    if affected = 0 then
      let failure : Error :=
        if m.version.isSome then
          .store .optimisticLock (e.key.toText ++
            " was updated or deleted by another transaction (expected version " ++
            expected.toText ++ ")")
        else .store .noRowsAffected ("update of " ++ e.key.toText ++ " affected no rows")
      throw (failure.withSql plan.command.statement.text)
    return plan.nextVersion

def remove (k : EntityKey) : Work σ Unit := do
  let m ← g.resolveKey k
  let affected ← g.execute ⟨m.deleteById, [k.id]⟩
  if affected = 0 then
    throw ((Error.store .noRowsAffected ("delete of " ++ k.toText ++ " affected no rows")).withSql
      m.deleteById.text)

def hydrate (linker : Linker (StateM (Workspace σ))) (t : EntityType) (rows : List Row) :
    Work σ (List Instance) :=
  rows.mapM fun r => (Instance.ofRow linker t r).adapt (Error.whileBuilding t)

/-- The list for a field of the owner with a given identifier. An owner without identifier has
the empty list. -/
def collection (owner : EntityType) (field : String) (target : EntityType) (id : Value) :
    Work σ (Option Nat) := do
  let m ← g.resolve owner
  match m.collection? field with
  | none => throw (.mapping m.name ("'" ++ field ++ "' is not an inverse collection"))
  | some c =>
    if id.isNull then return none
    else some <$> Work.newList ⟨field, target, c.mappedBy, id⟩

def typeAt (place : Nat) : Work σ EntityType :=
  match g.catalogue[place]? with
  | some t => return t
  | none => throw (.illegalState "no entity type at this place")

/-- Finds what relations hold, given how single entities are loaded. -/
def linker (load : EntityType → Value → Work σ (Option Instance)) :
    Linker (StateM (Workspace σ)) where
  reference target id := do
    if id.isNull then return none else load (← g.typeAt target) id
  collection owner field target id := do g.collection owner field (← g.typeAt target) id

/-- Loads the entity with a given identifier, following references up to a given depth. -/
def loadWithin : Nat → EntityType → Value → Work σ (Option Instance)
  | 0, _, _ => throw (.illegalState "references form a cycle")
  | depth + 1, t, id => do
    let m ← g.resolve t
    let rows ← g.query ⟨m.selectById, [id.identity]⟩
    let found ← hydrate (g.linker (loadWithin depth)) t rows
    atMostOne t found

/-- Loads the entity with a given identifier. References do not form cycles, so that no chain of
them is longer than the catalogue. -/
def load (t : EntityType) (id : Value) : Work σ (Option Instance) :=
  g.loadWithin g.catalogue.length t id

def loadReference (t : EntityType) (id : Value) : Work σ (Option Instance) :=
  if id.isNull then return none else g.load t id

def select (t : EntityType) (c : Command) : Work σ (List Instance) := do
  hydrate (g.linker g.load) t (← g.query c)

/-- All entities with a given value in a field. -/
def findAllBy (t : EntityType) (field : String) (v : Value) : Work σ (List Instance) := do
  let m ← g.resolve t
  match m.filterColumn? field with
  | none => throw (.mapping m.name ("'" ++ field ++ "' is not a column or owning reference"))
  | some column => g.select t ⟨m.selectBy column, [v]⟩

/-- The only entity with a given value in a field. -/
def findBy (t : EntityType) (field : String) (v : Value) : Work σ (Option Instance) := do
  atMostOne t (← g.findAllBy t field v)

/-- All entities that a statement of the caller gives. -/
def nativeAll (t : EntityType) (sql : String) (params : List Value) : Work σ (List Instance) := do
  let _ ← g.resolve t
  g.select t ⟨.native sql, params⟩

/-- The only entity that a statement of the caller gives. -/
def nativeBy (t : EntityType) (sql : String) (params : List Value) : Work σ (Option Instance) := do
  atMostOne t (← g.nativeAll t sql params)

/-- Runs the search of a list; it can be run again when it fails. -/
def runSearch (s : CollectionSearch) :
    StateM (Workspace σ) (Except Error (List Instance) × CollectionSearch) := do
  modify (Workspace.note .debug "Loading lazy collection")
  let found ← (g.findAllBy s.target s.mappedBy s.owner).run
  if found.isOk then modify (Workspace.note .trace "Lazy collection loaded")
  return (found, s)

/-- The items of a list, loaded if they are not there yet. -/
def force (k : Option Nat) : Work σ (List Instance) :=
  match k with
  | none => return []
  | some k => ExceptT.mk do
    let (found, cell) ← ((← get).list k).force g.runSearch
    modify fun w => { w with lists := w.lists.set k cell }
    return found

end Gateway

end EntityMapper
