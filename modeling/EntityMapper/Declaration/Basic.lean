import EntityMapper.Declaration.TypeText
/-! Declared types: a definition with its attributes, and the entity that it declares. -/

namespace EntityMapper

/-- What a definition defines. -/
inductive DefinitionShape where
  | named
  | enumeration
  | union
  | positional
  | unit
  deriving DecidableEq

/-- What stands after the name of an attribute item. -/
inductive ItemValue where
  | absent
  | text (s : String)
  /-- A literal of another kind. -/
  | other
  deriving DecidableEq

/-- One item of an attribute group. -/
structure AttributeItem where
  name : String
  value : ItemValue := .absent
  deriving DecidableEq

abbrev AttributeGroup := List AttributeItem

/-- A field of a definition. -/
structure FieldDefinition where
  name : String
  type : TypeText
  attributes : List AttributeGroup := []
  deriving DecidableEq

/-- A definition of a type. -/
structure TypeDefinition where
  name : String
  shape : DefinitionShape := .named
  /-- The definition has parameters. -/
  generic : Bool := false
  attributes : List AttributeGroup := []
  fields : List FieldDefinition := []
  deriving DecidableEq

/-- How a field takes part in storing an entity. -/
inductive DeclaredRole where
  | column
  | manyToOne
  | oneToOne
  | oneToMany
  /-- Not stored. -/
  | transient
  deriving DecidableEq, Repr

namespace DeclaredRole

/-- An owning role keeps the identifier of another entity in a column. -/
def isOwning : DeclaredRole → Bool
  | manyToOne => true
  | oneToOne => true
  | _ => false

def isRelation (r : DeclaredRole) : Bool :=
  r.isOwning || r == oneToMany

end DeclaredRole

/-- A field with what its attributes say. -/
structure DeclaredField where
  name : String
  type : TypeText
  role : DeclaredRole := .column
  column : Option String := none
  isId : Bool := false
  isVersion : Bool := false
  joinColumn : Option String := none
  mappedBy : Option String := none
  /-- Two different roles were given. -/
  conflict : Bool := false
  deriving DecidableEq

/-- An entity type with what its attributes say. -/
structure DeclaredEntity where
  name : String
  table : Option String
  fields : List DeclaredField
  generic : Bool
  deriving DecidableEq

namespace DeclaredField

/-- The related type of a relation: what an owning field may hold, or the items of a list. -/
def target? (f : DeclaredField) : Option TypeText :=
  match f.role with
  | .manyToOne => f.type.argumentOf? "Option"
  | .oneToOne => f.type.argumentOf? "Option"
  | .oneToMany => f.type.argumentOf? "LazyList"
  | .column => none
  | .transient => none

def isIntegral (f : DeclaredField) : Bool :=
  f.type.isIntegral

/-- The declared column, or else the name of the field. -/
def columnName (f : DeclaredField) : String :=
  f.column.getD f.name

end DeclaredField

end EntityMapper
