import EntityMapper.Entity.Instance
import EntityMapper.Value.Fingerprint
/-! Keys: the type of an entity with its identifier. -/

namespace EntityMapper

/-- What tells an entity from every other one. The empty key has no type. -/
structure EntityKey where
  type : Option EntityType
  /-- The identifier in the form in which values identify entities. -/
  id : Value

namespace EntityKey

/-- The key of an entity of a type with a given identifier. -/
def of (t : EntityType) (id : Value) : EntityKey :=
  ⟨some t, id.identity⟩

def empty : EntityKey :=
  ⟨none, .null⟩

/-- The key of an instance as it is now. -/
def ofInstance (i : Instance) : EntityKey :=
  of i.type i.idValue

def isEmpty (k : EntityKey) : Bool :=
  k.type.isNone

def name (k : EntityKey) : String :=
  (k.type.map (·.name)).getD "?"

def path? (k : EntityKey) : Option String :=
  k.type.map (·.path)

def toText (k : EntityKey) : String :=
  k.name ++ "#" ++ k.id.toText

def describe (k : EntityKey) : String :=
  "EntityKey \x7b entity: " ++ Text.quoted k.name ++ ", id: " ++ k.id.describe ++ " \x7d"

/-- Keys are equal when the types and the identifiers are; identifiers compare as values do. -/
def equal (a b : EntityKey) : Bool :=
  a.path? == b.path? && a.id.equal b.id

/-- All of a key that counts when it is looked up. -/
def fingerprint (k : EntityKey) : Option String × Fingerprint :=
  (k.path?, k.id.fingerprint)

/-- A key finds another one when both are equal and look the same. -/
instance : BEq EntityKey where
  beq a b := a.equal b && a.fingerprint == b.fingerprint

theorem beq_def (a b : EntityKey) :
    (a == b) = (a.equal b && a.fingerprint == b.fingerprint) := rfl

/-- Equal keys with exact identifiers find each other. -/
theorem beq_eq_equal (a b : EntityKey) (ha : a.id.isExact = true) : (a == b) = a.equal b := by
  rw [beq_def]
  cases h : a.equal b with
  | false => rfl
  | true =>
    simp only [equal, Bool.and_eq_true, beq_iff_eq] at h
    simp [fingerprint, h.1, Value.fingerprint_eq_of_equal ha h.2]

end EntityKey

end EntityMapper
