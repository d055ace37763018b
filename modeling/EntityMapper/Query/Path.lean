import EntityMapper.Entity.Registry
import EntityMapper.Query.Plan
/-! Paths: how a field path in a query becomes a column. -/

namespace EntityMapper

open Text

/-- What the tokens of a query are resolved against. -/
structure QueryScope where
  schema : Schema
  /-- The mapping of the root entity. -/
  root : Metadata
  source : String
  kind : QueryKind
  rootAlias : Option Token
  /-- A path that names nothing is a fault, and not a text to keep. -/
  strict : Bool

namespace QueryScope

def fault (s : QueryScope) (f : QueryFault) : Error :=
  .invalidQuery s.source f.message

/-- The name of the joined table of the owning reference at a place. -/
def joinAlias (ordinal : Nat) : Token :=
  ("join_" ++ showNat ordinal).toList

/-- The column or join column of a field of the root entity, without regard to case. -/
def column? (s : QueryScope) (field : Token) : Option Token :=
  match s.root.columnAlike? field with
  | some c => some c.column.toList
  | none =>
    (s.root.references.find? fun r => alike r.field.toList field).map (·.joinColumn.toList)

/-- The column of a field of a referenced entity: the join column for its identifier, and for
another field, in a SELECT, a column of the joined table. -/
def navigate (s : QueryScope) (qualifier : Option Token) (ordinal : Nat) (r : ReferenceMapping)
    (field : Token) : Resolving Token := do
  let target ← Journal.resolve s.schema r.target
  if alike field target.id.field.toList || alike field target.id.column.toList then
    return match qualifier with
      | some q => q ++ '.' :: r.joinColumn.toList
      | none => r.joinColumn.toList
  else match target.columnAlike? field with
    | none => throw (s.fault (.unknownTargetField target.name field))
    | some c =>
      if s.kind = .select then return joinAlias ordinal ++ '.' :: c.column.toList
      else throw (s.fault (.joinOutsideSelect r.field field))

/-- A path of the root entity that names no field. -/
def unknownPath (s : QueryScope) (core : Token) : Resolving (Option Token) :=
  if s.strict then throw (s.fault (.unknownField core s.root.name))
  else do
    modify (Journal.note .warn "Unresolved JQL path passed through")
    return none

/-- Whether a name is the root entity or its table. -/
def isRoot (s : QueryScope) (name : Token) : Bool :=
  alike name s.root.name.toList || alike name s.root.table.toList

/-- What a path becomes, or nothing when it stays as it is. -/
def resolvePath (s : QueryScope) (core : Token) : List Token → Resolving (Option Token)
  | [field] => return s.column? field
  | [qualifier, field] =>
    if some qualifier = s.rootAlias then
      match s.column? field with
      | some column => return some (qualifier ++ '.' :: column)
      | none => s.unknownPath core
    else match s.root.referenceAlike? qualifier with
      | some (ordinal, r) => return some (← s.navigate none ordinal r field)
      | none =>
        if s.strict && isName qualifier && isName field && !s.isRoot qualifier then
          throw (s.fault (.unknownQualifier qualifier s.root.name))
        else return none
  | [qualifier, relation, field] =>
    if some qualifier = s.rootAlias then
      match s.root.referenceAlike? relation with
      | some (ordinal, r) => return some (← s.navigate (some qualifier) ordinal r field)
      | none => s.unknownPath core
    else return none
  | qualifier :: _ =>
    if some qualifier = s.rootAlias && s.strict then throw (s.fault (.tooFar core)) else return none
  | [] => return none

/-- Puts the column in the place of the path that a token is; its punctuation stays. -/
def resolveToken (s : QueryScope) (t : Token) : Resolving Token := do
  let core := t.parts.core
  if core.isEmpty then return t
  match ← s.resolvePath core core.segments with
  | some column => return t.withCore column
  | none => return t

end QueryScope

end EntityMapper
