import EntityMapper.Entity.Descriptor
import EntityMapper.Value.FieldType
/-! Entity types: what the fields of an entity hold, and how they are stored. -/

namespace EntityMapper

/-- What a field of an entity holds. -/
inductive FieldRole where
  /-- A value in a column. -/
  | column (type : FieldType)
  /-- One entity of another type, or none. An exclusive target is referred to only once. -/
  | reference (exclusive : Bool) (target : Nat) (joinColumn : String)
  /-- All entities of another type that refer to this one. -/
  | collection (target : Nat) (mappedBy : Option String)
  /-- Text that is not stored. -/
  | transient
  deriving DecidableEq

/-- A field of an entity type. -/
structure EntityField where
  name : String
  role : FieldRole
  column : Option String := none
  isId : Bool := false
  isVersion : Bool := false
  deriving DecidableEq

/-- An entity type. -/
structure EntityType where
  /-- The name that tells the type from every other type. -/
  path : String
  /-- The name that queries use. -/
  name : String
  table : Option String := none
  fields : List EntityField
  deriving DecidableEq, Inhabited

/-- All entity types that know of each other; fields name their targets by position. -/
abbrev Catalogue := List EntityType

namespace EntityField

/-- The declared column, or else the name of the field. -/
def columnName (f : EntityField) : String :=
  f.column.getD f.name

/-- What is declared about the field, if it is stored. -/
def descriptor? (f : EntityField) : Option FieldDescriptor :=
  match f.role with
  | .column type => some {
      name := f.name, column := f.column, isId := f.isId, isVersion := f.isVersion
      integral := type.isIntegral }
  | .reference exclusive target joinColumn => some {
      name := f.name, column := f.column, isId := f.isId, isVersion := f.isVersion
      relation := some (if exclusive then .oneToOne else .manyToOne)
      joinColumn := some joinColumn, target := some target }
  | .collection target mappedBy => some {
      name := f.name, column := f.column, isId := f.isId, isVersion := f.isVersion
      relation := some .oneToMany, target := some target, mappedBy := mappedBy }
  | .transient => none

end EntityField

namespace EntityType

def descriptor (t : EntityType) : EntityDescriptor where
  path := t.path
  name := t.name
  table := t.table
  fields := t.fields.filterMap EntityField.descriptor?

def field? (t : EntityType) (name : String) : Option EntityField :=
  t.fields.find? (·.name == name)

def idField? (t : EntityType) : Option EntityField :=
  t.fields.find? (·.isId)

def versionField? (t : EntityType) : Option EntityField :=
  t.fields.find? (·.isVersion)

def idColumn (t : EntityType) : String :=
  (t.idField?.map (·.columnName)).getD ""

end EntityType

namespace Catalogue

def schema (c : Catalogue) : Schema :=
  c.map (·.descriptor)

def typeAt? (c : Catalogue) (path : String) : Option EntityType :=
  c.find? (·.path == path)

end Catalogue

end EntityMapper
