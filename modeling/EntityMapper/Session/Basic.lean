import EntityMapper.Session.Flush
import EntityMapper.Session.Snapshot
/-! Sessions: the instances that are known, with snapshots of what the store holds of them and a
queue of writes. -/

namespace EntityMapper

/-- How a session works. -/
structure SessionConfig where
  /-- Whether the notices of statements matter more than usual. -/
  showStatements : Bool := false
  /-- Whether queries may name only what is mapped. -/
  strictQueries : Bool := true
  deriving DecidableEq

/-- A session. -/
structure Session where
  config : SessionConfig := {}
  map : IdentityMap := .empty
  snapshots : Assoc EntityKey Snapshot := .empty
  queue : ActionQueue := {}
  /-- Whether the session has a transaction open. -/
  active : Bool := false
  closed : Bool := false

/-- A session together with the workspace that it works in. -/
structure SessionState (σ : Type) where
  session : Session
  space : Workspace σ

/-- An operation of a session. What it has done stays when it fails. -/
abbrev Operation (σ : Type) (α : Type) := ExceptT Error (StateM (SessionState σ)) α

namespace Operation

variable {σ α : Type}

def ofWork (x : Work σ α) : Operation σ α := fun s =>
  let (r, w) := x.run s.space
  (r, { s with space := w })

def change (f : Session → Session) : Operation σ Unit :=
  modify fun s => { s with session := f s.session }

def session : Operation σ Session := do
  return (← get).session

def note (level : Level) (message : String) : Operation σ Unit :=
  ofWork (Work.note level message)

def ensureOpen : Operation σ Unit := do
  if (← session).closed then throw .sessionClosed

end Operation

namespace Session

open Operation

variable {σ : Type} (g : Gateway σ)

def contains (s : Session) (t : EntityType) (id : Value) : Bool :=
  s.map.contains (.of t id)

def enqueue (a : Action) : Operation σ Unit := do
  note .trace "Queued action"
  change fun s => { s with queue := s.queue.add a }

/-- Takes a snapshot of an entry that was written, and keeps both. -/
def record (e : Entry) : Operation σ Unit := do
  let i := ((← get).space.heap).get e.handle
  let m ← ofWork (g.resolve i.type)
  change fun s => { s with
    snapshots := s.snapshots.insert e.key (.capture m i)
    map := s.map.put e }

def forget (k : EntityKey) (s : Session) : Session :=
  { s with map := s.map.erase k, snapshots := s.snapshots.erase k }

/-- Brings what is known in line with what was written. -/
def reconcile (o : Outcome) : Operation σ Unit := do
  (o.persisted ++ o.merged).forM (record g)
  o.removed.forM fun k => change (forget k)

/-- Adds a row for an instance at once. The instance is shared and known from then on. -/
def persist (i : Instance) : Operation σ Handle := do
  ensureOpen
  let h ← ofWork (.share i)
  let (result, o) ← ofWork (g.perform (.persist h true) {})
  ofWork result
  reconcile g o
  return h

/-- Adds a row for an instance at the next flush. The instance is shared, and known from the flush
on. -/
def persistDeferred (i : Instance) : Operation σ Handle := do
  ensureOpen
  let h ← ofWork (.share i)
  enqueue (.persist h false)
  return h

/-- Takes over the state of an instance from outside. If its key is not known its row is loaded;
the copy that is then shared counts as changed where it differs from that row. Without a row
nothing is taken over. -/
def merge (i : Instance) : Operation σ (Option Handle) := do
  ensureOpen
  let key := EntityKey.ofInstance i
  let known := (← session).map.handle? (← get).space.heap i.type key
  if known.isSome then return known
  match ← ofWork (g.load i.type key.id) with
  | none =>
    note .debug "Merge target not found"
    return none
  | some loaded =>
    let m ← ofWork (g.resolve i.type)
    let h ← ofWork (.share i)
    change fun s => { s with
      map := s.map.put ⟨key, h⟩
      snapshots := s.snapshots.insert key (.capture m loaded) }
    return some h

/-- Removes the row of a known entity at the next flush. -/
def remove (h : Handle) : Operation σ Unit := do
  ensureOpen
  let key := EntityKey.ofInstance ((← get).space.heap.get h)
  match (← session).map.find? key with
  | none => throw (.illegalState ("removing a detached entity " ++ key.toText))
  | some e => if !(← session).queue.isPending .remove key then enqueue (.remove e)

/-- The entries that differ from their snapshots and are not waiting to be written or removed,
each with the version of its snapshot. -/
def findDirty : List Entry → Operation σ (List (Entry × Value))
  | [] => return []
  | e :: rest => do
    let s ← session
    match s.snapshots.find? e.key with
    | none => findDirty rest
    | some snapshot =>
      if s.queue.isPending .merge e.key || s.queue.isPending .remove e.key then findDirty rest
      else do
        let i := (← get).space.heap.get e.handle
        let m ← ofWork (g.resolve i.type)
        if snapshot.isStale m i then
          note .debug "Dirty entity"
          return (e, snapshot.version m) :: (← findDirty rest)
        else findDirty rest

/-- Queues an UPDATE for every known entity that has changed, and gives their number. -/
def dirtyCheck : Operation σ Nat := do
  ensureOpen
  let dirty ← findDirty g (← session).map.values
  dirty.forM fun (e, version) => enqueue (.merge e version)
  return dirty.length

/-- Performs the queued actions. What has been written is taken note of even if one of them
fails. -/
def flushActions : Operation σ Unit := do
  let q := (← session).queue
  if q.actions.isEmpty then return
  let drained ← ofWork (g.drain q {})
  change fun s => { s with queue := ⟨drained.left⟩ }
  reconcile g drained.outcome
  ofWork drained.result
  note .info "Flushed session"

def flush : Operation σ Unit := do
  ensureOpen
  flushActions g

/-- Writes all changes and closes the session, which stays open if that fails. -/
def close : Operation σ Unit := do
  ensureOpen
  let _ ← dirtyCheck g
  flushActions g
  if (← session).active then note .warn "Closing session with an active transaction"
  change fun s => { s with map := .empty, snapshots := .empty, closed := true }
  note .info "Session closed"

end Session

end EntityMapper
