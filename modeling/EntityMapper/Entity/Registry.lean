import EntityMapper.Assoc
import EntityMapper.Entity.Metadata
/-! The mappings resolved so far, and the notices that operations leave behind. -/

namespace EntityMapper

/-- How much a notice matters. -/
inductive Level where
  | trace
  | debug
  | info
  | warn
  deriving DecidableEq, Repr

/-- A notice of something that happened. -/
structure Event where
  level : Level
  message : String
  deriving DecidableEq

abbrev Registry := Assoc String Metadata

/-- What accumulates while types are resolved: mappings and notices. -/
structure Journal where
  registry : Registry := .empty
  events : List Event := []

/-- A computation that may resolve types and may fail; what it resolved stays on failure. -/
abbrev Resolving (α : Type) := ExceptT Error (StateM Journal) α

namespace Journal

def note (level : Level) (message : String) (j : Journal) : Journal :=
  { j with events := j.events ++ [⟨level, message⟩] }

def remember (m : Metadata) (j : Journal) : Journal :=
  { j with registry := j.registry.insertNew m.descriptor.path m }.note .debug
    "Resolved entity metadata"

/-- The mapping of a type: the one kept for its path, or else a new one that is then kept. A
descriptor that is no mapping leaves nothing behind. -/
def resolve (schema : Schema) (d : EntityDescriptor) : Resolving Metadata := fun j =>
  match j.registry.find? d.path with
  | some m => (.ok m, j)
  | none =>
    match Metadata.ofDescriptor schema d with
    | .ok m => (.ok m, j.remember m)
    | .error e => (.error e, j)

end Journal

end EntityMapper
