import EntityMapper.Entity.Instance
import EntityMapper.Entity.Metadata
/-! Snapshots: the values of all stored fields of an entity at one moment. -/

namespace EntityMapper

/-- The values of the stored fields, in the order of the mapping. -/
structure Snapshot where
  values : List Value
  deriving Inhabited

namespace Snapshot

/-- The snapshot of an instance. A field that the instance does not have counts as missing. -/
def capture (m : Metadata) (i : Instance) : Snapshot :=
  ⟨m.persistent.map fun f => (i.fieldValue f.field).getD .null⟩

def valueOf? (s : Snapshot) (m : Metadata) (field : String) : Option Value :=
  (m.snapshotIndex? field).bind fun i => s.values[i]?

def version (s : Snapshot) (m : Metadata) : Value :=
  (m.version.bind fun v => s.valueOf? m v.field).getD .null

/-- The fields whose values differ in a later snapshot. -/
def changedFields (s : Snapshot) (m : Metadata) (later : Snapshot) : List String :=
  ((m.persistent.zip (s.values.zip later.values)).filter fun (_, a, b) => !a.equal b).map
    fun (f, _) => f.field

def equal (a b : Snapshot) : Bool :=
  a.values == b.values

/-- Whether an instance no longer has the values of the snapshot. -/
def isStale (s : Snapshot) (m : Metadata) (i : Instance) : Bool :=
  !s.equal (capture m i)

@[simp] theorem length_capture (m : Metadata) (i : Instance) :
    (capture m i).values.length = m.persistent.length := by
  simp [capture]

end Snapshot

end EntityMapper
