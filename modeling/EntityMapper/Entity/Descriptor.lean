/-! What a program declares about its entity types. -/

namespace EntityMapper

/-- How a field relates its entity to another one. -/
inductive RelationKind where
  | manyToOne
  | oneToOne
  | oneToMany
  deriving DecidableEq, Repr

/-- An owning relation keeps the identifier of its target in a column of its own table. -/
def RelationKind.isOwning : RelationKind → Bool
  | manyToOne => true
  | oneToOne => true
  | oneToMany => false

/-- What is declared about one field. -/
structure FieldDescriptor where
  name : String
  column : Option String := none
  isId : Bool := false
  isVersion : Bool := false
  /-- The field holds an integer. -/
  integral : Bool := false
  relation : Option RelationKind := none
  joinColumn : Option String := none
  /-- The position of the related entity type in the schema. -/
  target : Option Nat := none
  /-- The field of the related type that owns the relation. -/
  mappedBy : Option String := none
  deriving DecidableEq

/-- The declared column, or else the name of the field. -/
def FieldDescriptor.columnName (f : FieldDescriptor) : String :=
  f.column.getD f.name

/-- What is declared about one entity type. -/
structure EntityDescriptor where
  /-- The name that tells the type from every other type. -/
  path : String
  /-- The name that queries use. -/
  name : String
  managed : Bool := true
  table : Option String := none
  fields : List FieldDescriptor := []
  deriving DecidableEq

abbrev Schema := List EntityDescriptor

namespace EntityDescriptor

/-- The declared table, or else the name of the type. -/
def tableName (d : EntityDescriptor) : String :=
  d.table.getD d.name

def field? (d : EntityDescriptor) (name : String) : Option FieldDescriptor :=
  d.fields.find? (·.name == name)

def idField? (d : EntityDescriptor) : Option FieldDescriptor :=
  d.fields.find? (·.isId)

def versionField? (d : EntityDescriptor) : Option FieldDescriptor :=
  d.fields.find? (·.isVersion)

end EntityDescriptor

def FieldDescriptor.target? (schema : Schema) (f : FieldDescriptor) : Option EntityDescriptor :=
  f.target.bind fun i => schema[i]?

end EntityMapper
