import EntityMapper.Sql.Scope
/-! Tables and indexes from the way they are declared. -/

namespace EntityMapper.Sql.Table

/-- Whether an expression can be worked out without a row and without parameters. -/
def isConstant (e : WrittenExpr) : Bool :=
  !(e.contains isOpen)
where
  /-- Whether an expression is a column or a place. -/
  isOpen : WrittenExpr → Bool
    | .column ⟨none, name, false⟩ => !(["true", "false"].any (Text.alikeText name))
    | .column _ => true
    | .place _ => true
    | _ => false

def indexColumns (t : Table) (names : List IndexedName) : Except Fault (List IndexColumn) :=
  names.mapM fun n =>
    match t.columnIndex? n.name with
    | none => throw (.noColumn n.name)
    | some i =>
      match n.collation with
      | none => return ⟨i, t.collation i, n.descending⟩
      | some c =>
        match Collation.ofName? c with
        | some c => return ⟨i, c, n.descending⟩
        | none => throw (.noCollation c)

/-- Whether two indexes have the same columns, compared in the same ways. -/
def sameColumns (a b : List IndexColumn) : Bool :=
  a.map (fun c => (c.column, c.collation)) == b.map (fun c => (c.column, c.collation))

/-- The table with an index of its own. If it has one of the same columns already, that one takes
over what is done about rows that agree. -/
def keepUnique (t : Table) (columns : List IndexColumn) (conflict : ConflictAction) :
    Except Fault Table :=
  match t.indexes.find? fun ix => sameColumns ix.columns columns with
  | some same =>
    let own := same.unique.getD .abort
    if own != .abort && conflict != .abort && own != conflict then .error .conflictingActions
    else
      let merged := if own == .abort then conflict else own
      .ok (t.withIndexes (t.indexes.map fun ix =>
        if ix.name == same.name then { ix with unique := some merged } else ix))
  | none =>
    let name := "sqlite_autoindex_" ++ t.name ++ "_" ++ showNat (t.indexes.length + 1)
    .ok (t.addIndex { name := name, columns := columns, unique := some conflict, kept := true })

/-- The table with a primary key. A single column for integers has the number of its row. -/
def keepPrimary (t : Table) (columns : List IndexColumn) (conflict : ConflictAction)
    (counting rowAllowed : Bool) : Except Fault Table := do
  if !t.primary.isEmpty then throw (.severalKeys t.name)
  let primary := columns.map (·.column)
  let isInteger (i : Nat) : Bool :=
    t.columns[i]?.any fun c => Text.alikeText c.type "integer"
  match primary with
  | [i] =>
    if isInteger i && rowAllowed then
      return { t with
        key := some i, keyConflict := conflict, primary := primary, counting := counting }
  | _ => pure ()
  if counting then throw .countingKeyType
  { t with primary := primary }.keepUnique columns conflict

def keepReference (t : Table) (single : Bool) (r : ReferenceDefinition) : Except Fault Table := do
  if !r.parents.isEmpty && r.parents.length != r.columns.length then
    throw (if single then .parentColumns (r.columns.headD "") r.table else .keyColumnCounts)
  let columns ← r.columns.mapM fun n =>
    match t.columnIndex? n with
    | some i => pure i
    | none => throw (.noForeignColumn n)
  let reference : Reference := {
    columns := columns, table := r.table, parents := r.parents
    onDelete := r.onDelete, onUpdate := r.onUpdate, deferred := r.deferred }
  return { t with references := t.references ++ [reference] }

def addColumn (t : Table) (c : ColumnDefinition) : Except Fault Table := do
  if (t.columnIndex? c.name).isSome then throw (.repeatedColumn c.name)
  let collation ← match c.collation with
    | none => pure Collation.binary
    | some n =>
      match Collation.ofName? n with
      | some k => pure k
      | none => throw (.noCollation n)
  if c.default.any fun e => !isConstant e then throw (.defaultNotConstant c.name)
  let default ← c.default.mapM (Scope.bind {})
  let i := t.columns.length
  let column : Column := {
    name := c.name, type := c.type, affinity := .ofTypeName c.type, collation := collation
    notNull := c.notNull, default := default }
  let t := { t with columns := t.columns ++ [column] }
  let own : List IndexColumn := [⟨i, collation, c.descending⟩]
  let t ← match c.primary with
    | none => pure t
    | some conflict =>
      if c.primaryAgain then throw (.severalKeys t.name)
      t.keepPrimary own conflict c.counting (!c.descending)
  let t ← match c.unique with
    | none => pure t
    | some conflict => t.keepUnique own conflict
  c.references.foldlM (fun t r => t.keepReference true r) t

def addConstraint (t : Table) : TableConstraint → Except Fault Table
  | .primary names counting conflict => do
    if !t.primary.isEmpty then throw (.severalKeys t.name)
    t.keepPrimary (← t.indexColumns names) conflict counting true
  | .unique names conflict => do t.keepUnique (← t.indexColumns names) conflict
  | .check _ => return t
  | .foreign r => t.keepReference false r

def checksOf (columns : List ColumnDefinition) (constraints : List TableConstraint) :
    List CheckDefinition :=
  columns.flatMap (·.checks) ++ constraints.filterMap fun
    | .check c => some c
    | _ => none

/-- The table of some columns and constraints, without the conditions on its rows. -/
def ofParts (name : String) (columns : List ColumnDefinition)
    (constraints : List TableConstraint) : Except Fault Table := do
  constraints.foldlM addConstraint (← columns.foldlM addColumn { name := name })

def ofDefinition (name : String) (columns : List ColumnDefinition)
    (constraints : List TableConstraint) : Except Fault Table := do
  let t ← ofParts name columns constraints
  let scope : Scope := .ofTable t none
  let checks ← (checksOf columns constraints).mapM fun c =>
    return ({ name := c.name, condition := ← scope.bind c.condition } : Check)
  return { t with checks := checks }

def indexOf (t : Table) (name : String) (unique : Bool) (names : List IndexedName) :
    Except Fault Index := do
  let columns ← t.indexColumns names
  return { name := name, columns := columns, unique := if unique then some .abort else none }

end EntityMapper.Sql.Table
