import EntityMapper.Entity.Descriptor
import EntityMapper.Error
import EntityMapper.Text.Ascii
/-! Mappings: descriptors that have passed every check, in the order in which statements and
snapshots list their fields. -/

namespace EntityMapper

/-- A plain field with its column. -/
structure ColumnMapping where
  field : String
  column : String
  deriving DecidableEq

/-- An owning field with its join column and the type that it refers to. -/
structure ReferenceMapping where
  field : String
  joinColumn : String
  kind : RelationKind
  target : EntityDescriptor
  deriving DecidableEq

/-- A field that holds all entities of another type that refer to this one. -/
structure CollectionMapping where
  field : String
  target : EntityDescriptor
  /-- The owning field of the other type. -/
  mappedBy : String
  deriving DecidableEq

/-- A field that is stored: its column, or the join column of an owning field. -/
structure PersistentField where
  field : String
  column : String
  isReference : Bool
  deriving DecidableEq

/-- The mapping of one entity type. -/
structure Metadata where
  descriptor : EntityDescriptor
  table : String
  id : ColumnMapping
  version : Option ColumnMapping
  /-- The plain fields, ordered by name. -/
  columns : List ColumnMapping
  /-- The owning fields in the order of their declaration. -/
  references : List ReferenceMapping
  collections : List CollectionMapping
  /-- The plain and the owning fields together, ordered by name. -/
  persistent : List PersistentField
  deriving DecidableEq

/-- Why a descriptor is no mapping. -/
inductive MappingFault where
  | notManaged
  | noIdentifier
  | severalIdentifiers
  | severalVersions
  | versionNotIntegral (field : String)
  | strayJoinColumn (field : String)
  | relationAsKey (field : String)
  | noTarget (field : String)
  | noJoinColumn (field : String)
  | collectionWithJoinColumn (field : String)
  | unknownOwner (field target mappedBy : String)
  | foreignOwner (field target mappedBy owner : String)
  | missingOwner (field owner target : String)
  | ambiguousOwner (field target owner : String)
  deriving DecidableEq

namespace MappingFault

def message : MappingFault → String
  | notManaged => "not a managed type; the type must be marked as an entity"
  | noIdentifier => "identifier is not specified"
  | severalIdentifiers => "more than one identifier field declared"
  | severalVersions => "more than one version field declared"
  | versionNotIntegral f => "version field '" ++ f ++ "' must be an integral column"
  | strayJoinColumn f =>
    "field '" ++ f ++ "' declares a join column but is not an owning reference"
  | relationAsKey f => "relationship field '" ++ f ++ "' cannot be an identifier or version"
  | noTarget f => "relationship field '" ++ f ++ "' has no target type"
  | noJoinColumn f => "owning reference '" ++ f ++ "' must declare a join column"
  | collectionWithJoinColumn f => "collection field '" ++ f ++ "' cannot declare a join column"
  | unknownOwner f target by_ =>
    "collection '" ++ f ++ "' is mapped by unknown field '" ++ target ++ "." ++ by_ ++ "'"
  | foreignOwner f target by_ owner =>
    "collection '" ++ f ++ "' is mapped by '" ++ target ++ "." ++ by_ ++
      "', which is not a reference to " ++ owner
  | missingOwner f owner target =>
    "collection '" ++ f ++ "' has no owning reference to " ++ owner ++ " on " ++ target
  | ambiguousOwner f target owner =>
    "collection '" ++ f ++ "' is ambiguous: " ++ target ++ " references " ++ owner ++
      " more than once; set mapped_by"

end MappingFault

/-- Puts an element before the first one whose name is not smaller. -/
def insertByName {α : Type} (name : α → String) (a : α) : List α → List α
  | [] => [a]
  | b :: rest => if name b < name a then b :: insertByName name a rest else a :: b :: rest

/-- Orders elements by name, keeping the order of elements with one name. Names are ordered by
code point, which is also the order of their bytes. -/
def sortByName {α : Type} (name : α → String) : List α → List α
  | [] => []
  | a :: rest => insertByName name a (sortByName name rest)

/-- One field of a mapping. -/
inductive MappedField where
  | column (c : ColumnMapping)
  | reference (r : ReferenceMapping)
  | collection (c : CollectionMapping)
  deriving DecidableEq

namespace MappedField

def column? : MappedField → Option ColumnMapping
  | column c => some c
  | _ => none

def reference? : MappedField → Option ReferenceMapping
  | reference r => some r
  | _ => none

def collection? : MappedField → Option CollectionMapping
  | collection c => some c
  | _ => none

end MappedField

namespace Metadata

/-- Whether a field is an owning reference to a given type. -/
def pointsTo (schema : Schema) (owner : EntityDescriptor) (f : FieldDescriptor) : Bool :=
  f.relation.any (·.isOwning) && (f.target? schema).any (·.path == owner.path)

/-- The field of the target that owns a collection: the one named, or else the only one that
points back. -/
def owningField (schema : Schema) (owner : EntityDescriptor) (f : FieldDescriptor)
    (target : EntityDescriptor) : Except MappingFault String :=
  match f.mappedBy with
  | some by_ =>
    match target.field? by_ with
    | none => .error (.unknownOwner f.name target.name by_)
    | some candidate =>
      if pointsTo schema owner candidate then .ok candidate.name
      else .error (.foreignOwner f.name target.name by_ owner.name)
  | none =>
    match target.fields.filter (pointsTo schema owner) with
    | [] => .error (.missingOwner f.name owner.name target.name)
    | [only] => .ok only.name
    | _ => .error (.ambiguousOwner f.name target.name owner.name)

def mapField (schema : Schema) (d : EntityDescriptor) (f : FieldDescriptor) :
    Except MappingFault MappedField :=
  match f.relation with
  | none =>
    if f.joinColumn.isSome then .error (.strayJoinColumn f.name)
    else .ok (.column ⟨f.name, f.columnName⟩)
  | some kind =>
    if f.isId || f.isVersion then .error (.relationAsKey f.name)
    else match f.target? schema with
      | none => .error (.noTarget f.name)
      | some target =>
        if kind.isOwning then
          match f.joinColumn with
          | none => .error (.noJoinColumn f.name)
          | some join => .ok (.reference ⟨f.name, join, kind, target⟩)
        else if f.joinColumn.isSome then .error (.collectionWithJoinColumn f.name)
        else (owningField schema d f target).map fun by_ => .collection ⟨f.name, target, by_⟩

/-- The identifier and version fields, each checked for its number. -/
def keyFields (d : EntityDescriptor) :
    Except MappingFault (FieldDescriptor × Option FieldDescriptor) :=
  if !d.managed then .error .notManaged
  else match d.fields.filter (·.isId) with
    | [] => .error .noIdentifier
    | [id] =>
      match d.fields.filter (·.isVersion) with
      | [] => .ok (id, none)
      | [version] =>
        if version.integral then .ok (id, some version)
        else .error (.versionNotIntegral version.name)
      | _ => .error .severalVersions
    | _ => .error .severalIdentifiers

def ofFields (d : EntityDescriptor) (id : FieldDescriptor) (version : Option FieldDescriptor)
    (fields : List MappedField) : Metadata :=
  let columns := sortByName ColumnMapping.field (fields.filterMap MappedField.column?)
  let references := fields.filterMap MappedField.reference?
  { descriptor := d
    table := d.tableName
    id := ⟨id.name, id.columnName⟩
    version := version.map fun v => ⟨v.name, v.columnName⟩
    columns := columns
    references := references
    collections := fields.filterMap MappedField.collection?
    persistent := sortByName PersistentField.field
      (columns.map (fun c => ⟨c.field, c.column, false⟩) ++
        references.map (fun r => ⟨r.field, r.joinColumn, true⟩)) }

def check (schema : Schema) (d : EntityDescriptor) : Except MappingFault Metadata := do
  let (id, version) ← keyFields d
  let fields ← d.fields.mapM (mapField schema d)
  return ofFields d id version fields

def ofDescriptor (schema : Schema) (d : EntityDescriptor) : Except Error Metadata :=
  (check schema d).mapError fun fault => .mapping d.name fault.message

def name (m : Metadata) : String :=
  m.descriptor.name

/-- The fields that an INSERT writes: all but the identifier. -/
def insertable (m : Metadata) : List PersistentField :=
  m.persistent.filter (·.field != m.id.field)

/-- The fields that an UPDATE writes: all but the identifier. -/
def updatable (m : Metadata) : List PersistentField :=
  m.insertable

/-- The position of a field among the stored ones. -/
def snapshotIndex? (m : Metadata) (field : String) : Option Nat :=
  m.persistent.findIdx? (·.field == field)

def reference? (m : Metadata) (field : String) : Option ReferenceMapping :=
  m.references.find? (·.field == field)

def collection? (m : Metadata) (field : String) : Option CollectionMapping :=
  m.collections.find? (·.field == field)

/-- The column that a search by a field compares. -/
def filterColumn? (m : Metadata) (field : String) : Option String :=
  (m.persistent.find? (·.field == field)).map (·.column)

/-- The plain field of a name, without regard to case. -/
def columnAlike? (m : Metadata) (field : List Char) : Option ColumnMapping :=
  m.columns.find? fun c => Text.alike c.field.toList field

/-- The owning field that a name or the name of its target fits, without regard to case, with its
place among the owning fields. -/
def referenceAlike? (m : Metadata) (segment : List Char) : Option (Nat × ReferenceMapping) :=
  (m.references.zipIdx.find? fun (r, _) =>
    Text.alike r.field.toList segment || Text.alike r.target.name.toList segment).map
      fun (r, i) => (i, r)

end Metadata

end EntityMapper
