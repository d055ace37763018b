import EntityMapper.Query.Path
/-! Compiling queries over entities into statements over tables. -/

namespace EntityMapper

open Text

/-- A statement made from a query: its tokens, and values for its places. -/
structure CompiledQuery where
  tokens : List Token
  params : List Value

def CompiledQuery.sql (t : CompiledQuery) : String :=
  String.ofList (List.intercalate [' '] t.tokens)

namespace QueryPlan

/-- What the tokens of the plan are resolved against. -/
def scope (p : QueryPlan) (schema : Schema) (root : Metadata) (strict : Bool) : QueryScope :=
  ⟨schema, root, p.source, p.kind, p.rootAlias, strict⟩

/-- Whether the token at a position always stays: the keyword, the entity name and its
alias. -/
def isFixed (p : QueryPlan) (i : Nat) : Bool :=
  i == 0 || i == p.entitySlot || some i == p.aliasSlot

/-- The token at the place of the entity name. -/
def entityToken (p : QueryPlan) : Token :=
  (p.tokens[p.entitySlot]?).getD []

/-- Refuses a query that names another entity than the root. -/
def checkEntity (p : QueryPlan) (s : QueryScope) : Except Error Unit :=
  let name := p.entityToken.parts.core
  if s.strict && !s.isRoot name then
    .error (s.fault (.otherEntity s.root.name p.kind.entityKeyword name))
  else .ok ()

def resolveFrom (p : QueryPlan) (s : QueryScope) : Nat → List Token → Resolving (List Token)
  | _, [] => return []
  | i, t :: rest => do
    let t' ← if p.isFixed i then pure t else s.resolveToken t
    let rest' ← resolveFrom p s (i + 1) rest
    return t' :: rest'

/-- The clause that joins the table of an owning reference. -/
def joinClause (rootAlias : Option Token) (target : Metadata) (ordinal : Nat)
    (r : ReferenceMapping) : Token :=
  let name := QueryScope.joinAlias ordinal
  "left join ".toList ++ target.table.toList ++ ' ' :: name ++ " on ".toList ++ name ++
    '.' :: target.id.column.toList ++ " = ".toList ++
    (rootAlias.map (· ++ ['.'])).getD [] ++ r.joinColumn.toList

/-- The clauses that join the tables of owning references, the first of them at a given place. -/
def joinClauses (schema : Schema) (rootAlias : Option Token) :
    Nat → List ReferenceMapping → Resolving (List Token)
  | _, [] => return []
  | ordinal, r :: rest => do
    let target ← Journal.resolve schema r.target
    let clauses ← joinClauses schema rootAlias (ordinal + 1) rest
    return joinClause rootAlias target ordinal r :: clauses

/-- Clauses that joins are put in front of when there is no condition. -/
def trailingClauses : List String :=
  ["group", "order", "limit", "having"]

/-- Where joins go among the tokens after the entity name: before the first `where`, or else
before the first trailing clause, or else at the end. -/
def joinOffset (tokens : List Token) : Nat :=
  match tokens.findIdx? (alike · "where".toList) with
  | some i => i
  | none =>
    match tokens.findIdx? fun t => trailingClauses.any fun k => alike t k.toList with
    | some i => i
    | none => tokens.length

/-- Puts clauses into the tokens after the entity name. -/
def insertJoins (slot : Nat) (clauses tokens : List Token) : List Token :=
  let position := slot + 1 + joinOffset (tokens.drop (slot + 1))
  tokens.take position ++ clauses ++ tokens.drop position

/-- Puts a star for everything between the first token and the keyword before the entity name. -/
def widen (slot : Nat) (tokens : List Token) : List Token :=
  tokens.take 1 ++ ['*'] :: tokens.drop (slot - 1)

def statementTokens (p : QueryPlan) (s : QueryScope) : Resolving (List Token) := do
  let resolved ← p.resolveFrom s 0 p.tokens
  let tokens := resolved.set p.entitySlot s.root.table.toList
  if p.kind = .select then
    let clauses ← joinClauses s.schema p.rootAlias 0 s.root.references
    return widen p.entitySlot (insertJoins p.entitySlot clauses tokens)
  else return tokens

def compile (p : QueryPlan) (schema : Schema) (root : Metadata) (strict : Bool) :
    Resolving CompiledQuery := do
  let s := p.scope schema root strict
  p.checkEntity s
  let tokens ← p.statementTokens s
  return ⟨tokens, p.params⟩

end QueryPlan

namespace EntityQuery

def compile (schema : Schema) (strict : Bool) (root : EntityDescriptor) (q : EntityQuery) :
    Resolving CompiledQuery := do
  let m ← Journal.resolve schema root
  match QueryPlan.ofQuery q with
  | .error f => throw (.invalidQuery q.text f.message)
  | .ok plan => do
    let t ← plan.compile schema m strict
    modify (Journal.note .debug "Translated JQL")
    return t

end EntityQuery

end EntityMapper
