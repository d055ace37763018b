import EntityMapper.Sql.Formula
import EntityMapper.Sql.Selection
import EntityMapper.Sql.Writing
/-! Adding rows to a table. -/

namespace EntityMapper.Sql

/-- Where the rows of an INSERT come from, with columns found. -/
inductive BoundRows where
  | values (rows : List (List BoundExpr))
  | query (q : BoundQuery)

/-- An INSERT whose tables and columns are found. -/
structure Insertion where
  table : String
  conflict : Option ConflictAction
  /-- The places that the cells of a row are for. -/
  places : List Place
  rows : BoundRows
  upserts : List BoundUpsert := []

namespace Table

/-- The place of a name: a column, or the number of the row. -/
def place? (t : Table) (name : String) : Option Place :=
  match t.columnIndex? name with
  | some i => some (some i)
  | none => if Scope.namesRow name then some none else none

def bindAssignments (t : Table) (s : Scope) (assignments : List (String × WrittenExpr)) :
    Except Fault (List (Place × BoundExpr)) :=
  assignments.mapM fun (name, e) => do
    let e ← s.bind e
    match t.place? name with
    | some place => return (place, e)
    | none => throw (.noColumn name)

def assigned (t : Table) (f : Frame) (assignments : List (Place × BoundExpr)) (r : Record) :
    Except Fault Record :=
  assignments.foldlM (fun r (place, e) => do t.assign r place (← e.eval f)) r

end Table

namespace BoundUpsert

def meantBy (t : Table) (names : List String) : Except Fault (Uniqueness → Bool) := do
  if names.isEmpty then return fun _ => true
  let places ← names.mapM fun n =>
    match t.place? n with
    | some place => pure (place.filter fun i => t.key != some i)
    | none => throw (.noColumn n)
  let meant (u : Uniqueness) : Bool :=
    match u with
    | .number => places == [none]
    | .index ix => ix.condition.isNone && ix.columns.length == places.length &&
      ix.columns.all fun c => places.contains (some c.column)
  if (Uniqueness.all t).any meant then return meant else throw .noConflictTarget

/-- Finds the columns of what is done about a row that repeats another one. -/
def ofWritten (t : Table) (u : Upsert) : Except Fault BoundUpsert := do
  let target ← meantBy t u.target
  let sources : List Source :=
    [{ table := t, name := t.name }, { table := t, name := "excluded", isApart := true }]
  let s : Scope := { sources := sources }
  let assignments ← u.assignments.mapM (t.bindAssignments s)
  return { target := target, assignments := assignments, condition := ← u.condition.mapM s.bind }

end BoundUpsert

namespace Insertion

/-- Whether rows may have to make room for new ones. -/
def replaces (i : Insertion) (t : Table) : Bool :=
  let numbered := i.places.any fun place => place.isNone || place == t.key
  (Uniqueness.all t).any fun u =>
    let isMeant := match u with
      | .number => numbered
      | .index _ => true
    isMeant && !(i.upserts.any (·.target u)) && i.conflict.getD (u.action t) == .replace

/-- The ways in which rows that new ones repeat are changed. -/
def edits (i : Insertion) (t : Table) : List Reference.Edit :=
  i.upserts.filterMap fun u => u.assignments.map fun assignments =>
    .update (assignments.filterMap fun (place, _) => place.or t.key)

/-- Whether the rows are one row of expressions that no row has to make room for, and no change of
another row has to do with references. -/
def isSingle (i : Insertion) (tables : List Table) (t : Table) : Bool :=
  match i.rows with
  | .values rows => rows.length ≤ 1 && !i.replaces t &&
    !((i.edits t).any (Reference.matter tables t))
  | .query _ => false

/-- What is wrong with the references that have a part in the insertion. -/
def fault? (i : Insertion) (tables : List Table) (t : Table) : Option Fault :=
  let depth := tables.length + 2
  (Reference.fault? tables depth t (.insert (i.isSingle tables t)) (i.replaces t)).or
    ((i.edits t).findSome? fun e => Reference.fault? tables depth t e false)

def placesOf (t : Table) : Option (List String) → Except Fault (List Place)
  | none => return (List.range t.columns.length).map some
  | some names => names.mapM fun n =>
    match t.place? n with
    | some place => return place
    | none => throw (.noColumnOf t.name n)

/-- Rows of expressions, the columns in which are found. -/
def bindRows (rows : List (List WrittenExpr)) : Except Fault (List (List BoundExpr)) :=
  rows.mapM (Scope.bindAll {})

/-- Looks at the widths of rows as far as that is done before the table is looked for: the rows
after the first one up to the first whose cells are not fixed. -/
def checkFixed : List (List WrittenExpr) → Except Fault Unit
  | first :: next :: rest => do
    if next.all Expr.isFixed then
      let _ ← Scope.bindAll {} first
      if ((next :: rest).takeWhile (·.all Expr.isFixed)).any (·.length != first.length) then
        throw .rowWidths
  | _ => return ()

/-- Looks whether the rows have as many cells as they have places. -/
def checkWidth (t : Table) (columns : Option (List String)) (width : Nat) : Except Fault Unit := do
  match columns with
  | none => if width != t.columns.length then throw (.tableWidth t.name t.columns.length width)
  | some [] => return ()
  | some names => if width != names.length then throw (.valueCount width names.length)

def ofWritten (tables : List Table) (conflict : Option ConflictAction) (name : String)
    (columns : Option (List String)) (source : RowSource) (upserts : List Upsert) :
    Except Fault Insertion := do
  match source with
  | .values rows => checkFixed rows
  | _ => pure ()
  let t ← BoundQuery.findTable tables name
  let places ← placesOf t columns
  let (rows, places) ← match source with
    | .defaults => do
      if columns.isSome then throw (.valueCount 0 places.length)
      pure (BoundRows.values [[]], [])
    | .values rows => do
      let bound ← bindRows rows
      let width := (bound.head?.map List.length).getD 0
      if bound.any (·.length != width) then throw .rowWidths
      checkWidth t columns width
      pure (BoundRows.values bound, places)
    | .query q => do
      let (names, q) ← BoundQuery.ofText tables q
      checkWidth t columns names.length
      pure (BoundRows.query q, places)
  let upserts ← upserts.mapM (BoundUpsert.ofWritten t)
  return {
    table := t.name, conflict := conflict, places := places, rows := rows, upserts := upserts }

/-- The number that a new row is given, if it is given one. -/
def givenNumber? (i : Insertion) (t : Table) (cells : List Cell) : Option Cell :=
  let given := (i.places.zip cells).filter fun (place, _) => place == none || place == t.key
  (given.getLast?.map (·.2)).filter fun c => !c.isNull

def newRow (i : Insertion) (t : Table) (cells : List Cell) : Except Fault Record := do
  let number ← match i.givenNumber? t cells with
    | none => t.nextKey
    | some c =>
      match c.adapt .integer with
      | .integer n => pure n.val
      | _ => throw .keyType
  let row ← t.columns.zipIdx.mapM fun (c, j) => do
    if t.key == some j then return Cell.ofInt number
    match i.places.zip cells |>.find? fun (place, _) => place == some j with
    | some (_, cell) => return cell.adapt c.affinity
    | none => c.first
  return { rowid := number, cells := row }

/-- Whether a row that is added alone misses what it refers to. -/
def isUnmet (tables : List Table) (t : Table) (r : Record) : Bool :=
  let after := t.put r
  t.references.any fun ref =>
    let parent := if t.isNamed ref.table then some after
      else tables.find? (·.isNamed ref.table)
    !ref.deferred && parent.any fun parent =>
      (ref.parentColumns? parent).any fun columns => ref.isUnmet parent columns r

def changeInstead (params : List Cell) (t : Table) (new other : Record) (u : BoundUpsert) :
    Writing Unit := do
  match u.assignments with
  | none => return ()
  | some assignments =>
    let f : Frame := { params := params, rows := [some other, some new] }
    if ← Writing.ofResult (Expr.areMet f u.condition.toList) then
      let changed ← Writing.ofResult (t.assigned f assignments other)
      Writing.update (some .abort) t.name other changed

def add (i : Insertion) (params cells : List Cell) : Writing Unit := do
  let t ← Writing.table i.table
  let r ← Writing.ofResult (i.newRow t cells)
  if t.counting then Writing.setTable { t with sequence := max t.sequence r.rowid }
  match ← t.judge i.conflict none i.upserts (Writing.remove t.name) r with
  | .ignored => return ()
  | .changes u other => changeInstead params t r other u
  | .accepted r =>
    let t ← Writing.table i.table
    let tables := (← get).tables
    if i.isSingle tables t && isUnmet tables t r then Writing.stop .keyFailed
    Writing.setTable (t.put r)
    modify fun w => { w with changes := w.changes + 1, lastRow := r.rowid }

def run (i : Insertion) (params : List Cell) : Writing Unit := do
  match i.rows with
  | .values rows => rows.forM fun row => do
    i.add params (← Writing.ofResult (Expr.evalAll { params := params } row))
  | .query q => do
    (← Writing.ofResult (q.run params)).forM (i.add params)

end Insertion

end EntityMapper.Sql
