import EntityMapper.Sql.Grammar
import EntityMapper.Sql.Insertion
import EntityMapper.Sql.Schema
/-! Plans: statements whose tables and columns have been found. -/

namespace EntityMapper.Sql

/-- An UPDATE whose columns are found. -/
structure Revision where
  table : String
  conflict : Option ConflictAction
  assignments : List (Place × BoundExpr)
  condition : Option BoundExpr

namespace Revision

def changed (u : Revision) (t : Table) : List Nat :=
  u.assignments.filterMap fun (place, _) => place.or t.key

def renumbers (u : Revision) (t : Table) : Bool :=
  u.assignments.any fun (place, _) => place.isNone || place == t.key

/-- Whether a constraint is looked at: it is about what changes, or more changes follow. -/
def concerns (u : Revision) (tables : List Table) (t : Table) : Uniqueness → Bool
  | .number => u.renumbers t
  | .index ix => u.renumbers t || Reference.spreads tables t (.update (u.changed t)) ||
    ix.columns.any fun c => (u.changed t).contains c.column

/-- Whether rows may have to make room for others. -/
def replaces (u : Revision) (tables : List Table) (t : Table) : Bool :=
  (Uniqueness.all t).any fun v =>
    u.concerns tables t v && u.conflict.getD (v.action t) == .replace

/-- What is wrong with the references that have a part in the revision. Where rows may have to make
room for others, their removal counts too. -/
def fault? (u : Revision) (tables : List Table) (t : Table) : Option Fault :=
  Reference.fault? tables (tables.length + 2) t (.update (u.changed t)) (u.replaces tables t)

/-- Whether rows are changed while they are visited by an index. If a change could move rows in it
or touch others, all rows are found first and then changed in the order of their numbers. -/
def isDirect (u : Revision) (tables : List Table) (t : Table) : AccessPath → Bool
  | .index ix _ =>
    !(u.renumbers t || u.replaces tables t || Reference.matter tables t (.update (u.changed t))) &&
      !(ix.columns.any fun c => (u.changed t).contains c.column)
  | _ => false

def run (u : Revision) (params : List Cell) : Writing Unit := do
  let t ← Writing.table u.table
  let exprs := u.condition.toList ++ u.assignments.map (·.2)
  let used := (Expr.allColumns exprs).filterMap (·.column)
  let tour := Tour.ofTable t u.condition used params
  let found ← Writing.ofResult tour.records
  let tables := (← get).tables
  let direct := tour.route.steps.head?.any fun a => u.isDirect tables t a.path
  let ordered := if direct then found else found.mergeSort fun a b => a.rowid ≤ b.rowid
  ordered.forM fun r => do
    let t ← Writing.table u.table
    match t.record? r.rowid with
    | none => return ()
    | some r =>
      let f : Frame := { params := params, rows := [some r] }
      let new ← Writing.ofResult (t.assigned f u.assignments r)
      Writing.update u.conflict t.name r new

end Revision

/-- A DELETE whose columns are found. -/
structure Removal where
  table : String
  condition : Option BoundExpr

namespace Removal

/-- What is wrong with the references that have a part in the removal of rows of a table. -/
def fault? (tables : List Table) (t : Table) : Option Fault :=
  Reference.fault? tables (tables.length + 2) t .delete false

/-- Removes all rows that are meant, in the order of their numbers. -/
def run (u : Removal) (params : List Cell) : Writing Unit := do
  let t ← Writing.table u.table
  let used := (Expr.allColumns u.condition.toList).filterMap (·.column)
  let found ← Writing.ofResult (Tour.ofTable t u.condition used params).records
  (found.mergeSort fun a b => a.rowid ≤ b.rowid).forM fun r => do
    if ← Writing.change none Writing.depth t.name (.remove r) then Writing.count

end Removal

/-- A statement whose tables and columns have been found. -/
inductive Plan where
  | nothing
  | create (t : Table)
  | createIndex (t : Table) (ix : Index)
  | drop (t : Table)
  | dropIndex (t : Table) (index : String)
  | insert (i : Insertion)
  | update (u : Revision)
  | delete (u : Removal)
  | select (q : BoundQuery)
  | start
  | commit
  | rollback

/-- A plan with the names of the columns of its result and the number of its places. -/
structure Prepared where
  plan : Plan
  names : List String := []
  places : Nat := 0

namespace Plan

/-- Whether a name is kept for what a database makes for itself. -/
def isReserved (name : String) : Bool :=
  Text.alikeText (String.ofList (name.toList.take 7)) "sqlite_"

/-- The table that has an index of a name. -/
def indexOwner? (tables : List Table) (name : String) : Option (Table × Index) :=
  tables.findSome? fun t =>
    (t.indexes.find? fun ix => Text.alikeText ix.name name).map fun ix => (t, ix)

/-- Looks whether a table may be made under a name; the result is false if there is one already and
that does not matter. -/
def mayCreate (tables : List Table) (name : String) (ifMissing : Bool) : Except Fault Bool := do
  if isReserved name then throw (.reservedName name)
  if tables.any (·.isNamed name) then
    if ifMissing then return false else throw (.tableExists name)
  if (indexOwner? tables name).isSome then throw (.tableNamedLikeIndex name)
  return true

def ofIndex (tables : List Table) (unique ifMissing : Bool) (name table : String)
    (columns : List IndexedName) (condition : Option WrittenExpr) : Except Fault Plan := do
  let t ← (BoundQuery.findTable tables table).mapError fun _ => .noTable ("main." ++ table)
  if isReserved name then throw (.reservedName name)
  if tables.any (·.isNamed name) then throw (.indexNamedLikeTable name)
  if (indexOwner? tables name).isSome then
    if ifMissing then return nothing else throw (.indexExists name)
  let condition ← condition.mapM (Scope.ofTable t none).bind
  let ix ← t.indexOf name unique columns
  return createIndex t { ix with condition := condition }

def ofIndexName (tables : List Table) (name : String) (ifPresent : Bool) : Except Fault Plan :=
  match indexOwner? tables name with
  | none => if ifPresent then .ok nothing else .error (.noIndex name)
  | some (t, ix) => if ix.kept then .error .keptIndex else .ok (dropIndex t ix.name)

/-- A plan, unless something is wrong with the references that have a part in it. -/
def checked (fault : Option Fault) (p : Plan) : Except Fault Plan :=
  match fault with
  | some f => .error f
  | none => .ok p

/-- Finds the tables and columns of a statement that has no result. -/
def ofInstruction (tables : List Table) : Instruction → Except Fault Plan
  | .createTable name ifMissing columns constraints => do
    if ← mayCreate tables name ifMissing then
      return create (← Table.ofDefinition name columns constraints)
    else return nothing
  | .brokenTable name ifMissing columns constraints fault => do
    if ← mayCreate tables name ifMissing then
      let _ ← Table.ofParts name columns constraints
    throw fault
  | .createIndex unique ifMissing name table columns condition =>
    ofIndex tables unique ifMissing name table columns condition
  | .dropTable name ifPresent => do
    if ifPresent && !tables.any (·.isNamed name) then return nothing
    let t ← BoundQuery.findTable tables name
    match Reference.dropFault? tables t with
    | some f => throw f
    | none => return drop t
  | .dropIndex name ifPresent => ofIndexName tables name ifPresent
  | .insert conflict name columns rows upserts => do
    let i ← Insertion.ofWritten tables conflict name columns rows upserts
    let t ← BoundQuery.findTable tables name
    checked (i.fault? tables t) (insert i)
  | .select _ => return nothing
  | .update conflict name aliasName assignments condition => do
    let t ← BoundQuery.findTable tables name
    let s : Scope := .ofTable t aliasName
    let assignments ← t.bindAssignments s assignments
    let u : Revision := {
      table := t.name, conflict := conflict, assignments := assignments
      condition := ← condition.mapM s.bind }
    checked (u.fault? tables t) (update u)
  | .delete name aliasName condition => do
    let t ← BoundQuery.findTable tables name
    let s : Scope := .ofTable t aliasName
    let condition ← condition.mapM s.bind
    checked (Removal.fault? tables t) (delete { table := t.name, condition := condition })
  | .start => return start
  | .commit => return commit
  | .rollback => return rollback

def ofSentence (tables : List Table) (s : Sentence) : Except Fault Prepared := do
  match s.instruction with
  | .select q => do
    let (names, q) ← BoundQuery.ofText tables q
    return { plan := select q, names := names, places := s.places }
  | i => return { plan := ← ofInstruction tables i, places := s.places }

def isWrite : Plan → Bool
  | nothing | select _ | start | commit | rollback => false
  | _ => true

end Plan

end EntityMapper.Sql
