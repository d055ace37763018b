import EntityMapper.Declaration.Basic
/-! Reading the attributes of a definition. -/

namespace EntityMapper

/-- Why a definition declares nothing. -/
inductive DeclarationFault where
  | enumeration
  | union
  | positional
  | unit
  | unknownOnType
  | unknownOnField
  | severalTables
  /-- A name that takes a value has none. -/
  | valueMissing
  /-- A value stands after a name that takes none. -/
  | valueUnexpected
  | notText (what : String)
  deriving DecidableEq

namespace DeclarationFault

def message : DeclarationFault → String
  | enumeration => "Entity can only be derived for structs, not enums"
  | union => "Entity can only be derived for structs, not unions"
  | positional => "Entity requires a struct with named fields, not a tuple struct"
  | unit => "Entity requires a struct with fields, not a unit struct"
  | unknownOnType => "unknown entity attribute; expected \x60table = \"...\"\x60"
  | unknownOnField =>
    "unknown entity attribute; expected one of \x60id\x60, \x60version\x60, \x60column\x60, " ++
      "\x60transient\x60, \x60many_to_one\x60, \x60one_to_one\x60, \x60one_to_many\x60, " ++
      "\x60join_column\x60, \x60mapped_by\x60"
  | severalTables => "duplicate entity attribute: table"
  | valueMissing => "expected \x60=\x60"
  | valueUnexpected => "expected \x60,\x60"
  | notText what => "expected string literal for " ++ what

end DeclarationFault

namespace AttributeItem

/-- The text given to a name that takes one. -/
def requireText (i : AttributeItem) (what : String) : Except DeclarationFault String :=
  match i.value with
  | .absent => .error .valueMissing
  | .text s => .ok s
  | .other => .error (.notText what)

/-- Gives a result for a name that takes no value. -/
def bare {α : Type} (i : AttributeItem) (a : α) : Except DeclarationFault α :=
  match i.value with
  | .absent => .ok a
  | _ => .error .valueUnexpected

end AttributeItem

namespace DeclaredField

/-- Gives the field a role; a second, different role is a conflict. -/
def setRole (f : DeclaredField) (r : DeclaredRole) : DeclaredField :=
  { f with role := r, conflict := f.conflict || (f.role != .column && f.role != r) }

def apply (f : DeclaredField) (i : AttributeItem) : Except DeclarationFault DeclaredField :=
  match i.name with
  | "id" => i.bare { f with isId := true }
  | "version" => i.bare { f with isVersion := true }
  | "transient" => i.bare (f.setRole .transient)
  | "many_to_one" => i.bare (f.setRole .manyToOne)
  | "one_to_one" => i.bare (f.setRole .oneToOne)
  | "one_to_many" => i.bare (f.setRole .oneToMany)
  | "column" => (i.requireText "column name").map fun s => { f with column := some s }
  | "join_column" => (i.requireText "join column").map fun s => { f with joinColumn := some s }
  | "mapped_by" => (i.requireText "mapped_by").map fun s => { f with mappedBy := some s }
  | _ => .error .unknownOnField

end DeclaredField

namespace FieldDefinition

def declare (d : FieldDefinition) : Except DeclarationFault DeclaredField :=
  d.attributes.foldlM (fun f group => group.foldlM DeclaredField.apply f)
    { name := d.name, type := d.type }

end FieldDefinition

namespace TypeDefinition

/-- Applies one attribute item of the type to the table found so far. -/
def applyTable (table : Option String) (i : AttributeItem) :
    Except DeclarationFault (Option String) :=
  match i.name with
  | "table" =>
    if table.isSome then .error .severalTables else (i.requireText "table name").map some
  | _ => .error .unknownOnType

/-- The fields of a definition that has named fields. -/
def declareFields (d : TypeDefinition) : Except DeclarationFault (List DeclaredField) :=
  match d.shape with
  | .named => d.fields.mapM FieldDefinition.declare
  | .enumeration => .error .enumeration
  | .union => .error .union
  | .positional => .error .positional
  | .unit => .error .unit

def declare (d : TypeDefinition) : Except DeclarationFault DeclaredEntity := do
  let fields ← d.declareFields
  let table ← d.attributes.foldlM (fun table group => group.foldlM applyTable table) none
  return ⟨d.name, table, fields, d.generic⟩

end TypeDefinition

end EntityMapper
