import EntityMapper.Session.Action
import EntityMapper.Store.Gateway
/-! Performing actions, and draining a queue of them up to the first failure. -/

namespace EntityMapper

/-- What a flush has written so far. -/
structure Outcome where
  /-- The entries of rows that were added, with the keys that the store made. -/
  persisted : List Entry := []
  merged : List Entry := []
  removed : List EntityKey := []

namespace Outcome

def size (o : Outcome) : Nat :=
  o.persisted.length + o.merged.length + o.removed.length

end Outcome

/-- What is left of a queue and what has been written when a drain stops. -/
structure Drained where
  result : Except Error Unit
  left : List Action
  outcome : Outcome

namespace Gateway

variable {σ : Type} (g : Gateway σ)

/-- Adds a row for a shared instance and puts the identifier that the store made into it. -/
def persist (h : Handle) : Work σ Entry := do
  let i := ((← get).heap).get h
  let id ← g.save i
  let m ← g.resolve i.type
  Work.setValue h m.id.field id
  return .ofHandle (← get).heap h

/-- Puts the version that a row has now into its entry. -/
def writeVersion (e : Entry) : Option Value → Work σ Unit
  | none => return ()
  | some v => do
    match (((← get).heap).get e.handle).type.versionField? with
    | none => return ()
    | some f => Work.setValue e.handle f.name v

/-- Performs an action and records what it wrote. An UPDATE that the store has carried out is
recorded even if its version cannot be put into the entry. -/
def perform (a : Action) (o : Outcome) : StateM (Workspace σ) (Except Error Unit × Outcome) :=
  match a with
  | .persist h _ => do
    match ← (g.persist h).run with
    | .ok e => return (.ok (), { o with persisted := o.persisted ++ [e] })
    | .error e => return (.error e, o)
  | .merge entry expected => do
    match ← (g.update entry expected).run with
    | .ok next => return (← (writeVersion entry next).run, { o with merged := o.merged ++ [entry] })
    | .error e => return (.error e, o)
  | .remove entry => do
    match ← (g.remove entry.key).run with
    | .ok _ => return (.ok (), { o with removed := o.removed ++ [entry.key] })
    | .error e => return (.error e, o)

/-- Performs actions in order up to the first failure. The action that failed is left over, unless
it was recorded. -/
def performAll : List Action → Outcome → StateM (Workspace σ) Drained
  | [], o => return ⟨.ok (), [], o⟩
  | a :: rest, o => do
    let (result, written) ← g.perform a o
    match result with
    | .ok _ => performAll rest written
    | .error e =>
      modify (Workspace.note .warn "Action failed; remaining actions stay queued")
      return ⟨.error e, if written.size = o.size then a :: rest else rest, written⟩

def drain (q : ActionQueue) (o : Outcome) : StateM (Workspace σ) Drained :=
  g.performAll q.ordered o

end Gateway

end EntityMapper
