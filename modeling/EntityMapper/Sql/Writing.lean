import EntityMapper.Sql.Reference
/-! Changing rows one by one under the constraints of their tables. -/

namespace EntityMapper.Sql

/-- What a statement that writes has come to so far. -/
structure Work where
  tables : List Table
  /-- The number of rows that were changed. -/
  changes : Nat := 0
  /-- The number of the row that was added last. -/
  lastRow : Int := 0

/-- The end of a statement that writes before all is done. -/
structure Stop where
  fault : Fault
  /-- What becomes of the rows that were changed before. -/
  action : ConflictAction := .abort

/-- A computation that changes rows. What was changed is still known when it stops. -/
abbrev Writing := EStateM Stop Work

namespace Writing

def stop {α : Type} (f : Fault) (action : ConflictAction := .abort) : Writing α :=
  throw ⟨f, action⟩

def ofResult {α : Type} : Except Fault α → Writing α
  | .ok a => return a
  | .error f => stop f

/-- The table of a name as it is now. -/
def table (name : String) : Writing Table := do
  match (← get).tables.find? (·.isNamed name) with
  | some t => return t
  | none => stop (.noTable name)

def setTable (t : Table) : Writing Unit :=
  modify fun w => { w with tables := w.tables.map fun u => if u.isNamed t.name then t else u }

def count : Writing Unit :=
  modify fun w => { w with changes := w.changes + 1 }

end Writing

/-- A constraint that the rows of a table do not repeat each other. -/
inductive Uniqueness where
  /-- The numbers of rows. -/
  | number
  | index (ix : Index)

namespace Uniqueness

def holds (ix : Index) (r : Record) : Bool :=
  ix.condition.all fun e => (e.isMet { params := [], rows := [some r] }).toOption == some true

/-- The rows that a row repeats, apart from the one whose place it takes. -/
def repeated (t : Table) (self : Option Int) (r : Record) : Uniqueness → List Record
  | .number => t.records.filter fun o => o.rowid == r.rowid && self != some o.rowid
  | .index ix =>
    if holds ix r then
      t.records.filter fun o => self != some o.rowid && holds ix o && ix.agree o r
    else []

/-- What the table does about rows that repeat others. -/
def action (t : Table) : Uniqueness → ConflictAction
  | .number => t.keyConflict
  | .index ix => ix.unique.getD .abort

/-- What is wrong with a row that repeats another one. -/
def fault (t : Table) : Uniqueness → Fault
  | .number => .notUnique t.name [(t.key.map t.columnName).getD "rowid"]
  | .index ix => .notUnique t.name (ix.columns.map fun c => t.columnName c.column)

def all (t : Table) : List Uniqueness :=
  .number :: (t.indexes.filter (·.unique.isSome)).map .index

theorem repeated_number_iff {t : Table} {r o : Record} :
    o ∈ repeated t none r .number ↔ o ∈ t.records ∧ o.rowid = r.rowid := by
  simp [repeated]

end Uniqueness

/-- A place in a row: a column, or the number of the row. -/
abbrev Place := Option Nat

/-- What is done about a row that repeats another one, apart from the usual actions. -/
structure BoundUpsert where
  /-- The constraints that are meant. -/
  target : Uniqueness → Bool
  /-- The assignments to the row that is there, or else nothing is done. -/
  assignments : Option (List (Place × BoundExpr))
  condition : Option BoundExpr

/-- What the constraints make of a row. -/
inductive Verdict where
  | accepted (r : Record)
  | ignored
  /-- Another row is to be changed in its place. -/
  | changes (u : BoundUpsert) (other : Record)

/-- A change of one row. -/
inductive RowChange where
  | remove (r : Record)
  /-- Puts a row in the place of another one. -/
  | update (old new : Record)

namespace Table

/-- The row with a cell in one place. A column for the numbers of rows has the number of its row,
which nothing but an integer can be. -/
def assign (t : Table) (r : Record) (place : Place) (c : Cell) : Except Fault Record :=
  match place.filter fun i => t.key != some i with
  | some i => .ok { r with cells := r.cells.set i (c.adapt (t.affinity i)) }
  | none =>
    match c.adapt .integer with
    | .integer n =>
      let cells := match t.key with
        | some i => r.cells.set i (.integer n)
        | none => r.cells
      .ok { r with rowid := n.val, cells := cells }
    | _ => .error .keyType

/-- The columns of a row that are missing and must not be, each with what is done about it. -/
def missing (t : Table) (statement : Option ConflictAction) (r : Record) :
    List (Column × Nat × ConflictAction) :=
  t.columns.zipIdx.filterMap fun (c, i) =>
    match c.notNull with
    | some own =>
      if t.key == some i || !((r.cells[i]?).getD .null).isNull then none
      else some (c, i, statement.getD own)
    | none => none

/-- Looks at the columns that are missing and must not be. Columns may get what they have at first
instead; the result is nothing if the row is left out. -/
def fillMissing (t : Table) (r : Record) :
    List (Column × Nat × ConflictAction) → Writing (Option Record)
  | [] => return some r
  | (c, i, action) :: rest =>
    match action, c.default with
    | .ignore, _ => return none
    | .replace, some _ => do
      let first ← Writing.ofResult c.first
      t.fillMissing { r with cells := r.cells.set i first } rest
    | .replace, none => Writing.stop (.missingValue t.name c.name)
    | action, _ => Writing.stop (.missingValue t.name c.name) action

/-- A row without columns that are missing and must not be; nothing if it is left out. -/
def present (t : Table) (statement : Option ConflictAction) (r : Record) :
    Writing (Option Record) := do
  match ← t.fillMissing r (t.missing statement r) with
  | none => return none
  | some r =>
    match (t.missing statement r).head? with
    | some (c, _, _) => Writing.stop (.missingValue t.name c.name)
    | none => return some r

/-- Whether a row meets the conditions on the rows of its table; a row that does not may be left
out. A condition on cells that are missing is met. -/
def meetsChecks (t : Table) (statement : Option ConflictAction) (r : Record) : Writing Bool := do
  let failed ← t.checks.filterM fun c => do
    let truth := (← Writing.ofResult (c.condition.eval { params := [], rows := [some r] })).truth?
    return truth == some false
  match failed.head? with
  | none => return true
  | some c =>
    match statement.getD .abort with
    | .ignore => return false
    | .replace => Writing.stop (.checkFailed c.name)
    | action => Writing.stop (.checkFailed c.name) action

/-- Looks whether a row repeats others. The rows that it takes the place of are removed. -/
def settleRepeats (name : String) (statement : Option ConflictAction) (self : Option Int)
    (upserts : List BoundUpsert) (remove : Record → Writing Unit) (r : Record) :
    List Uniqueness → Writing Verdict
  | [] => return .accepted r
  | u :: rest => do
    let t ← Writing.table name
    match u.repeated t self r with
    | [] => settleRepeats name statement self upserts remove r rest
    | other :: more =>
      match upserts.find? (·.target u) with
      | some upsert => return .changes upsert other
      | none =>
        match statement.getD (u.action t) with
        | .ignore => return .ignored
        | .replace =>
          (other :: more).forM remove
          settleRepeats name statement self upserts remove r rest
        | action => Writing.stop (u.fault t) action

/-- What the constraints of a table make of a row; the statement may say what is done about one that
is broken. Those that have something else done about them are looked at first. -/
def judge (t : Table) (statement : Option ConflictAction) (self : Option Int)
    (upserts : List BoundUpsert) (remove : Record → Writing Unit) (r : Record) :
    Writing Verdict := do
  match ← t.present statement r with
  | none => return .ignored
  | some r =>
    if !(← t.meetsChecks statement r) then return .ignored
    let all := Uniqueness.all t
    let first := upserts.flatMap fun u => all.filter u.target
    let rest := all.filter fun u => !(upserts.any (·.target u))
    settleRepeats t.name statement self upserts remove r (first ++ rest)

end Table

namespace Reference

/-- A row with other cells where it refers to another one. -/
def withKey (r : Reference) (child : Table) (row : Record) (key : List Cell) :
    Except Fault Record :=
  (r.columns.zip key).foldlM (fun row (i, c) => child.assign row (some i) c) row

/-- What columns that refer to a row have at first. -/
def firstKey (r : Reference) (child : Table) : Except Fault (List Cell) :=
  r.columns.mapM fun i =>
    match child.columns[i]? with
    | some c => c.first
    | none => .ok .null

/-- What becomes of a row that refers to another one, which goes or gets another key. -/
def reaction (r : Reference) (child : Table) (row : Record) (key : Option (List Cell)) :
    ReferenceAction → Except Fault (Option RowChange)
  | .noAction => return none
  | .restrict => throw .keyFailed
  | .cascade =>
    match key with
    | none => return some (.remove row)
    | some key => return some (.update row (← r.withKey child row key))
  | .setNull => return some (.update row (← r.withKey child row (r.columns.map fun _ => .null)))
  | .setDefault => return some (.update row (← r.withKey child row (← r.firstKey child)))

/-- The changes of rows that refer to a row that goes, or that becomes another one. -/
def reactions (r : Reference) (parent child : Table) (old : Record) (new : Option Record) :
    Except Fault (List RowChange) := do
  match r.parentColumns? parent with
  | none => return []
  | some columns =>
    let keyIn (row : Record) : List Cell := columns.map fun i => (row.cells[i]?).getD .null
    let orders := columns.map parent.collation
    if new.any fun n => Cell.areAlike orders (keyIn old) (keyIn n) then return []
    let rows := child.records.filter fun c => r.refersTo parent columns c old
    let action := if new.isSome then r.onUpdate else r.onDelete
    let changes : List (Option RowChange) ← rows.mapM fun row =>
      r.reaction child row (new.map keyIn) action
    return changes.filterMap id

end Reference

namespace Writing

/-- Changes a row of a table, and the rows that refer to it as their references say. The first
argument bounds how far changes go on from one row to others; the result is false if the constraints
leave the row as it is. -/
def change (statement : Option ConflictAction) : Nat → String → RowChange → Writing Bool
  | 0, _, _ => stop .keyFailed
  | fuel + 1, name, c => do
    let t ← table name
    let drop (r : Record) : Writing Unit := do
      let _ ← change none fuel name (.remove r)
    let (old, new) ← match c with
      | .remove r =>
        if (t.record? r.rowid).isNone then return false
        setTable (t.remove r.rowid)
        pure (r, none)
      | .update old new =>
        if (t.record? old.rowid).isNone then return false
        match ← t.judge statement (some old.rowid) [] drop new with
        | .accepted new =>
          let t ← table name
          setTable ((t.remove old.rowid).put new)
          pure (old, some new)
        | _ => return false
    for (child, r) in Table.referrers (← get).tables t do
      let child ← table child.name
      for next in ← ofResult (r.reactions t child old new) do
        let _ ← change (some .abort) fuel child.name next
    return true

/-- The greatest number of changes that go on from one another. -/
def depth : Nat := 1000

def remove (name : String) (r : Record) : Writing Unit := do
  let _ ← change none depth name (.remove r)

/-- Puts a row in the place of another one, and counts it. -/
def update (statement : Option ConflictAction) (name : String) (old new : Record) :
    Writing Unit := do
  if ← change statement depth name (.update old new) then count

end Writing

end EntityMapper.Sql
