import EntityMapper.Declaration.Basic
import EntityMapper.Entity.Descriptor
/-! Checking a declared entity, all faults at once, and the descriptor of an entity. -/

namespace EntityMapper

/-- Why a declared entity cannot be used. -/
inductive DeclarationProblem where
  | generic
  | noIdentifier
  | severalIdentifiers
  | severalVersions
  | versionType
  | roleConflict
  | relationAsKey
  | columnOnOther
  | joinColumnOnOther
  | noJoinColumn
  | mappedByOnOther
  | owningType
  | listType
  deriving DecidableEq, Repr

namespace DeclarationProblem

def message : DeclarationProblem → String
  | generic => "Entity cannot be derived for generic structs"
  | noIdentifier => "identifier is not specified; mark one field with #[entity(id)]"
  | severalIdentifiers => "more than one identifier field declared"
  | severalVersions => "more than one version field declared"
  | versionType =>
    "version field must have an integer type: i8, i16, i32, i64 or an Option of one"
  | roleConflict =>
    "a field can have only one of \x60transient\x60, \x60many_to_one\x60, " ++
      "\x60one_to_one\x60, \x60one_to_many\x60"
  | relationAsKey => "relationship and transient fields cannot be the identifier or version"
  | columnOnOther => "\x60column\x60 applies to plain column fields only"
  | joinColumnOnOther => "\x60join_column\x60 requires \x60many_to_one\x60 or \x60one_to_one\x60"
  | noJoinColumn =>
    "owning reference must declare a join column: #[entity(join_column = \"...\")]"
  | mappedByOnOther => "\x60mapped_by\x60 requires \x60one_to_many\x60"
  | owningType => "owning reference fields must have type Option<T> where T is an entity"
  | listType => "one_to_many fields must have type LazyList<T> where T is an entity"

end DeclarationProblem

namespace DeclaredField

def problemIf (b : Bool) (p : DeclarationProblem) : List DeclarationProblem :=
  if b then [p] else []

def problems (f : DeclaredField) : List DeclarationProblem :=
  problemIf (f.isVersion && f.role == .column && !f.isIntegral) .versionType ++
  problemIf f.conflict .roleConflict ++
  problemIf (f.role != .column && (f.isId || f.isVersion)) .relationAsKey ++
  problemIf (f.role != .column && f.column.isSome) .columnOnOther ++
  problemIf (f.joinColumn.isSome && !f.role.isOwning) .joinColumnOnOther ++
  problemIf (f.role.isOwning && f.joinColumn.isNone) .noJoinColumn ++
  problemIf (f.mappedBy.isSome && f.role != .oneToMany) .mappedByOnOther ++
  problemIf (f.role.isRelation && f.target?.isNone)
    (if f.role.isOwning then .owningType else .listType)

def relation? (f : DeclaredField) : Option RelationKind :=
  match f.role with
  | .manyToOne => some .manyToOne
  | .oneToOne => some .oneToOne
  | .oneToMany => some .oneToMany
  | .column => none
  | .transient => none

/-- The descriptor of a field, the related type being looked up by its text. -/
def descriptor (locate : String → Option Nat) (f : DeclaredField) : FieldDescriptor where
  name := f.name
  column := f.column
  isId := f.isId
  isVersion := f.isVersion
  integral := f.role == .column && f.isIntegral
  relation := if f.target?.isSome then f.relation? else none
  joinColumn := f.joinColumn
  target := f.target?.bind fun t => locate (Lexeme.joined t)
  mappedBy := f.mappedBy

end DeclaredField

namespace DeclaredEntity

/-- The problems of the identifier: none declared, or each one after the first. -/
def identifierProblems (e : DeclaredEntity) : List DeclarationProblem :=
  match e.fields.filter (·.isId) with
  | [] => [.noIdentifier]
  | _ :: rest => rest.map fun _ => .severalIdentifiers

/-- Each version after the first one is a problem. -/
def versionProblems (e : DeclaredEntity) : List DeclarationProblem :=
  ((e.fields.filter (·.isVersion)).drop 1).map fun _ => .severalVersions

def problems (e : DeclaredEntity) : List DeclarationProblem :=
  DeclaredField.problemIf e.generic .generic ++ e.identifierProblems ++ e.versionProblems ++
    e.fields.flatMap DeclaredField.problems

/-- The descriptor of a declared entity; fields that are not stored are left out. -/
def descriptor (e : DeclaredEntity) (path : String) (locate : String → Option Nat) :
    EntityDescriptor where
  path := path
  name := e.name
  table := e.table
  fields := (e.fields.filter (·.role != .transient)).map (DeclaredField.descriptor locate)

end DeclaredEntity

end EntityMapper
