import EntityMapper.Entity.Key
import EntityMapper.Store.Workspace
/-! Entries: shared instances with their keys, and the map that finds them by key. -/

namespace EntityMapper

/-- A shared instance with the key that it had when the entry was made. -/
structure Entry where
  key : EntityKey
  handle : Handle

namespace Entry

/-- The entry of a shared instance as it is now. -/
def ofHandle (heap : Heap) (h : Handle) : Entry :=
  ⟨.ofInstance (heap.get h), h⟩

def describe (e : Entry) : String :=
  "EntityEntry \x7b key: " ++ e.key.describe ++ " \x7d"

end Entry

/-- The entries of the instances that are known, by key. -/
abbrev IdentityMap := Assoc EntityKey Entry

namespace IdentityMap

/-- The instance of a key, if it is of a given type. -/
def handle? (m : IdentityMap) (heap : Heap) (t : EntityType) (k : EntityKey) : Option Handle :=
  ((m.find? k).map (·.handle)).filter fun h => (heap.get h).isA t

def put (m : IdentityMap) (e : Entry) : IdentityMap :=
  m.insert e.key e

/-- The instance known by the key of a given one, or else the given one, which is then shared and
kept. The flag says whether it was kept. -/
def getOrPut {σ : Type} (m : IdentityMap) (i : Instance) :
    Work σ (Handle × Bool × IdentityMap) := do
  let heap := (← get).heap
  match m.handle? heap i.type (.ofInstance i) with
  | some h => return (h, false, m)
  | none => do
    let h ← Work.share i
    return (h, true, m.put ⟨.ofInstance i, h⟩)

end IdentityMap

end EntityMapper
