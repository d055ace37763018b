import EntityMapper.Entity.Instance
import EntityMapper.Row
/-! Building instances from rows. -/

namespace EntityMapper

/-- Finds what the relations of an instance hold while it is built from a row. -/
structure Linker (m : Type → Type) where
  /-- The entity of a type that a join column refers to. -/
  reference : Nat → Value → ExceptT Error m (Option Instance)
  /-- The list for a field of the owner with a given identifier. -/
  collection : EntityType → String → Nat → Value → ExceptT Error m (Option Nat)

def Linker.detached (m : Type → Type) [Monad m] : Linker m where
  reference _ _ := pure none
  collection _ _ _ _ := pure none

namespace Instance

variable {m : Type → Type} [Monad m]

/-- What a field of an instance built from a row holds. -/
def readSlot (linker : Linker m) (t : EntityType) (r : Row) (f : EntityField) :
    ExceptT Error m (Slot Instance) :=
  match f.role with
  | .column type => do return .value (← r.read f.columnName type)
  | .reference _ target joinColumn => do
    let id ← r.require joinColumn
    return .reference (← linker.reference target id)
  | .collection target _ => do
    let id ← r.require t.idColumn
    return .collection (← linker.collection t f.name target id)
  | .transient => return .transient ""

/-- An instance built from a row, field by field in the order of declaration. -/
def ofRow (linker : Linker m) (t : EntityType) (r : Row) : ExceptT Error m Instance := do
  let slots ← t.fields.mapM fun f => do return (f.name, ← readSlot linker t r f)
  return ⟨t, slots⟩

def detached (t : EntityType) (r : Row) : Except Error Instance :=
  (ofRow (Linker.detached Id) t r).run

end Instance

end EntityMapper
