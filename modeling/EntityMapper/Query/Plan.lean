import EntityMapper.Query.Parameter
import EntityMapper.Text.Blank
/-! Plans: the tokens of a query with its kind, the place of the entity name and its alias. -/

namespace EntityMapper

open Text

/-- The kind of a statement, told by its first token. -/
inductive QueryKind where
  | select
  | insert
  | update
  | delete
  deriving DecidableEq, Repr

/-- Why a query cannot be compiled. -/
inductive QueryFault where
  | empty
  | unknownKind (keyword : Token)
  | noEntity (keyword : String)
  | otherEntity (expected keyword : String) (found : Token)
  | unboundParameter (name : Token)
  | unknownQualifier (qualifier : Token) (entity : String)
  | tooFar (path : Token)
  | joinOutsideSelect (reference : String) (field : Token)
  | unknownTargetField (entity : String) (field : Token)
  | unknownField (path : Token) (entity : String)
  deriving DecidableEq

namespace QueryFault

def message : QueryFault → String
  | empty => "empty query"
  | unknownKind keyword =>
    "unresolvable query type keyword '" ++ String.ofList keyword ++ "'"
  | noEntity keyword => "expected an entity name after '" ++ keyword ++ "'"
  | otherEntity expected keyword found =>
    "expected entity '" ++ expected ++ "' after '" ++ keyword ++ "', found '" ++
      String.ofList found ++ "'"
  | unboundParameter name => "no value bound for parameter ':" ++ String.ofList name ++ "'"
  | unknownQualifier qualifier entity =>
    "'" ++ String.ofList qualifier ++
      "' is neither the query alias nor a relationship of entity '" ++ entity ++ "'"
  | tooFar path =>
    "'" ++ String.ofList path ++
      "' navigates more than one relationship; only one level is supported"
  | joinOutsideSelect reference field =>
    "'" ++ reference ++ "." ++ String.ofList field ++
      "' can only be navigated in a select query"
  | unknownTargetField entity field =>
    "entity '" ++ entity ++ "' has no field '" ++ String.ofList field ++ "'"
  | unknownField path entity =>
    "'" ++ String.ofList path ++ "' does not name a field of entity '" ++ entity ++ "'"

end QueryFault

namespace QueryKind

/-- The kind that a keyword stands for, in any case of its letters. -/
def ofKeyword? (t : Token) : Option QueryKind :=
  if alike t "select".toList then some select
  else if alike t "insert".toList then some insert
  else if alike t "update".toList then some update
  else if alike t "delete".toList then some delete
  else none

def entityKeyword : QueryKind → String
  | select => "from"
  | insert => "into"
  | update => "update"
  | delete => "from"

end QueryKind

/-- Keywords that may follow the entity name and are no alias. -/
def clauseKeywords : List String :=
  ["where", "set", "left", "right", "inner", "join", "order", "group", "limit", "values",
    "having", "on", "union"]

def isAlias (t : Token) : Bool :=
  isName t && !clauseKeywords.any fun k => alike t k.toList

/-- A query in tokens. -/
structure QueryPlan where
  source : String
  kind : QueryKind
  /-- The tokens, with places instead of parameters. -/
  tokens : List Token
  /-- The position of the entity name. -/
  entitySlot : Nat
  rootAlias : Option Token
  /-- The position where the alias is declared. -/
  aliasSlot : Option Nat
  /-- The values for the places, in the order of the tokens. -/
  params : List Value

namespace QueryPlan

/-- The position after the first keyword that comes before an entity name. -/
def findEntitySlot (kind : QueryKind) (tokens : List Token) : Option Nat :=
  match tokens.findIdx? (alike · kind.entityKeyword.toList) with
  | some i => if i + 1 < tokens.length then some (i + 1) else none
  | none => none

/-- The alias and its position: the token after the entity name, or the one after a word `as`. -/
def findAlias (tokens : List Token) (slot : Nat) : Option Token × Option Nat :=
  match tokens[slot + 1]? with
  | none => (none, none)
  | some t =>
    if alike t "as".toList then ((tokens[slot + 2]?).filter isAlias, some (slot + 2))
    else if isAlias t then (some t, some (slot + 1))
    else (none, none)

def placeAll (bound : Assoc String Value) : List Token → Except Token (List Token × List Value)
  | [] => .ok ([], [])
  | t :: rest => do
    let placed ← placeParameters bound t
    let (tokens, params) ← placeAll bound rest
    return (placed.token :: tokens, placed.params ++ params)

def ofQuery (q : EntityQuery) : Except QueryFault QueryPlan :=
  let source := words q.text.toList
  match source with
  | [] => .error .empty
  | first :: _ =>
    match QueryKind.ofKeyword? first with
    | none => .error (.unknownKind first)
    | some kind =>
      match findEntitySlot kind source with
      | none => .error (.noEntity kind.entityKeyword)
      | some slot =>
        match placeAll q.params source with
        | .error name => .error (.unboundParameter name)
        | .ok (tokens, params) =>
          .ok {
            source := q.text
            kind := kind
            tokens := tokens
            entitySlot := slot
            rootAlias := (findAlias source slot).1
            aliasSlot := (findAlias source slot).2
            params := params }

end QueryPlan

end EntityMapper
