import EntityMapper.Sql.Scope
/-! References between tables: the rows that they are to, and those that they miss. -/

namespace EntityMapper.Sql

namespace Table

/-- Whether some columns are a key of the table: its primary key or the columns of an index whose
rows do not repeat, compared as the columns are. -/
def isKey (t : Table) (columns : List Nat) : Bool :=
  columns == t.key.toList || columns == t.primary || t.indexes.any fun ix =>
    ix.unique.isSome && ix.condition.isNone && ix.columns.length == columns.length &&
      ix.columns.all fun c => columns.contains c.column && c.collation == t.collation c.column

/-- The references to a table, each with the table that has it, the last one made first. -/
def referrers (tables : List Table) (t : Table) : List (Table × Reference) :=
  tables.reverse.flatMap fun child =>
    (child.references.reverse.filter fun r => t.isNamed r.table).map fun r => (child, r)

end Table

namespace Reference

/-- The columns of a table that the reference is to, if they are a key of it. -/
def parentColumns? (r : Reference) (parent : Table) : Option (List Nat) :=
  let columns := if r.parents.isEmpty then some parent.primary
    else r.parents.mapM parent.columnIndex?
  columns.filter fun c => c.length == r.columns.length && parent.isKey c

/-- The cells of a row that refer to another one. -/
def keyOf (r : Reference) (child : Record) : List Cell :=
  r.columns.map fun i => (child.cells[i]?).getD .null

/-- Whether cells name a row by its cells in some columns. -/
def names (parent : Table) (columns : List Nat) (key : List Cell) (row : Record) : Bool :=
  (columns.zip key).all fun (i, c) =>
    (c.adapt (parent.affinity i)).agrees (parent.collation i) ((row.cells[i]?).getD .null)

def refersTo (r : Reference) (parent : Table) (columns : List Nat) (child row : Record) : Bool :=
  names parent columns (r.keyOf child) row

/-- Whether a row refers to nothing that is there. A row with a missing cell refers to nothing and
misses nothing. -/
def isUnmet (r : Reference) (parent : Table) (columns : List Nat) (child : Record) : Bool :=
  let key := r.keyOf child
  !(key.any Cell.isNull) && !(parent.records.any (names parent columns key))

/-- Whether some row of a table misses what it refers to. A table that is gone leaves only
references behind that were to be looked at later. -/
def isBroken (r : Reference) (tables : List Table) (child : Table) : Bool :=
  match tables.find? (·.isNamed r.table) with
  | some parent =>
    (r.parentColumns? parent).any fun columns => child.records.any (r.isUnmet parent columns)
  | none => r.deferred && child.records.any fun c => !((r.keyOf c).any Cell.isNull)

/-- Whether some reference that is looked at now, or at the end of a transaction, is broken. -/
def anyBroken (deferred : Bool) (tables : List Table) : Bool :=
  tables.any fun t => t.references.any fun r => r.deferred == deferred && r.isBroken tables t

theorem not_isUnmet_of_null {r : Reference} {parent : Table} {columns : List Nat} {child : Record}
    (h : (r.keyOf child).any Cell.isNull = true) : r.isUnmet parent columns child = false := by
  simp [isUnmet, h]

/-- The ways in which the rows of a table are changed. -/
inductive Edit where
  | insert (single : Bool)
  /-- The columns that change. -/
  | update (columns : List Nat)
  | delete
  deriving DecidableEq

/-- Whether a change of a table is one of the columns that the reference has. -/
def changesChild (r : Reference) : Edit → Bool
  | .update columns => r.columns.any columns.contains
  | _ => true

/-- Whether a change of a table is one of the columns that the reference is to. One more row breaks
no reference. -/
def changesParent (r : Reference) (parent : Table) : Edit → Bool
  | .insert single => r.deferred || !single
  | .update columns =>
    let parents := if r.parents.isEmpty then parent.primary
      else r.parents.filterMap parent.columnIndex?
    parents.any columns.contains
  | .delete => true

/-- Whether references have a part in a change of a table. -/
def matter (tables : List Table) (t : Table) (edit : Edit) : Bool :=
  match edit with
  | .update _ =>
    (t.references.any fun r => r.changesChild edit) ||
      (Table.referrers tables t).any fun (_, r) => r.changesParent t edit
  | _ => true

/-- Whether a change of rows brings changes of other rows with it. -/
def spreads (tables : List Table) (t : Table) (edit : Edit) : Bool :=
  (t.references.any fun r => t.isNamed r.table && r.changesChild edit) ||
    (Table.referrers tables t).any fun (_, r) =>
      r.changesParent t edit && r.onUpdate != .noAction

/-- What is wrong with a reference to a table, if it is not to a key. -/
def mismatch? (t : Table) (child : Table) (r : Reference) : Option Fault :=
  if (r.parentColumns? t).isSome then none else some (.keyMismatch child.name r.table)

/-- What is wrong first with the references of a table and with those to it that have a part in a
change. -/
def checkFault? (tables : List Table) (t : Table) (edit : Edit) : Option Fault :=
  let own := t.references.reverse.findSome? fun r =>
    if r.changesChild edit || t.isNamed r.table then
      match tables.find? (·.isNamed r.table) with
      | none => some (.noTable ("main." ++ r.table))
      | some parent => r.mismatch? parent t
    else none
  own.or ((Table.referrers tables t).findSome? fun (child, r) =>
    if r.changesParent t edit then r.mismatch? t child else none)

/-- The change of rows that refer to rows that are changed. -/
def nextEdit (r : Reference) (edit : Edit) (action : ReferenceAction) : Option Edit :=
  match action with
  | .noAction | .restrict => none
  | .cascade => some (if edit == .delete then .delete else .update r.columns)
  | .setNull | .setDefault => some (.update r.columns)

/-- What is wrong with the references that have a part in a change of a table, or in changes that
follow from it; what is found last counts. The first argument bounds how far changes follow from one
another. -/
def fault? (tables : List Table) : Nat → Table → Edit → Bool → Option Fault
  | 0, _, _, _ => none
  | depth + 1, t, edit, replaces =>
    let referrers := Table.referrers tables t
    let matters := matter tables t edit
    let removal := if replaces then fault? tables depth t .delete false else none
    let check := if matters then checkFault? tables t edit else none
    match edit with
    | .insert _ => check.or removal
    | _ =>
      let whole := if matters then
          (referrers.reverse.findSome? fun (child, r) => r.mismatch? t child)
        else none
      referrers.foldl (fun found (child, r) =>
        let action := if edit == .delete then r.onDelete else r.onUpdate
        if action == .noAction || !r.changesParent t edit then found
        else
          match r.mismatch? t child with
          | some f => some f
          | none => found.or ((r.nextEdit edit action).bind fun next =>
              fault? tables depth child next false)) (check.or (removal.or whole))

/-- What is wrong with the references that have a part in changes that follow from the removal of a
table. References that are not to a key do not matter there. -/
def dropFault? (tables : List Table) (t : Table) : Option Fault :=
  (Table.referrers tables t).findSome? fun (child, r) =>
    if (r.parentColumns? t).isNone then none
    else (r.nextEdit .delete r.onDelete).bind fun next =>
      fault? tables (tables.length + 2) child next false

end Reference

end EntityMapper.Sql
