import EntityMapper.Row
import EntityMapper.Sql.Plan
/-! Databases in memory, and running statements on them. -/

namespace EntityMapper.Sql

/-- A database. -/
structure Database where
  tables : List Table := []
  /-- The tables as they were when the open transaction began. -/
  saved : Option (List Table) := none
  readOnly : Bool := false
  /-- The number of rows that the last INSERT, UPDATE or DELETE changed. -/
  changes : Nat := 0
  /-- The number of the row that was added last. -/
  lastRow : Int := 0

namespace Database

def prepare (d : Database) (s : Sentence) : Except Fault Prepared :=
  Plan.ofSentence d.tables s

/-- Whether tables have broken references that cannot stay so after a statement. -/
def isBroken (d : Database) (tables : List Table) : Bool :=
  Reference.anyBroken false tables || (d.saved.isNone && Reference.anyBroken true tables)

/-- Tables as a statement leaves them that fails in its middle: which numbers it gave is
forgotten. -/
def halted (before after : List Table) : List Table :=
  before.zipWith (fun old new => { new with sequence := old.sequence }) after

/-- The database after changes of rows. A statement that is stopped leaves nothing but the number of
the row that it added last, unless what stops it says otherwise. -/
def write (d : Database) (w : Writing Unit) : Except Fault Cells × Database :=
  match w.run { tables := d.tables, lastRow := d.lastRow } with
  | .ok _ s =>
    let failed := { d with changes := 0, lastRow := s.lastRow }
    if d.isBroken s.tables then (.error .keyFailed, failed)
    else (.ok [], { failed with tables := s.tables, changes := s.changes })
  | .error stop s =>
    let failed := { d with changes := 0, lastRow := s.lastRow }
    match stop.action with
    | .fail =>
      if d.isBroken s.tables then (.error .keyFailed, failed)
      else
        let tables := halted d.tables s.tables
        (.error stop.fault, { failed with tables := tables, changes := s.changes })
    | .rollback =>
      (.error stop.fault, { failed with tables := d.saved.getD d.tables, saved := none })
    | _ => (.error stop.fault, failed)

/-- The database with a change of one of its tables. -/
def alter (d : Database) (t : Table) (f : Table → Table) : Database :=
  { d with tables := d.tables.map fun u => if u.isNamed t.name then f u else u }

def createIndex (d : Database) (t : Table) (ix : Index) : Except Fault Cells × Database :=
  let repeats := t.records.any fun r =>
    !((Uniqueness.index ix).repeated t (some r.rowid) r).isEmpty
  if ix.unique.isSome && repeats then (.error ((Uniqueness.index ix).fault t), d)
  else (.ok [], d.alter t fun u => u.addIndex ix)

/-- Removes a table. The rows of a table that others refer to are removed first, and so are those of
a table with references that are looked at later while some of these are broken. -/
def drop (d : Database) (t : Table) : Except Fault Cells × Database :=
  let without (tables : List Table) : List Table := tables.filter fun u => !u.isNamed t.name
  if (Table.referrers d.tables t).isEmpty && !Reference.anyBroken true d.tables then
    let counts := t.references.any (·.deferred)
    (.ok [], { d with
      tables := without d.tables, changes := if counts then 0 else d.changes })
  else if (Table.referrers d.tables t).isEmpty && !t.references.any (·.deferred) then
    (.ok [], { d with tables := without d.tables })
  else
    match d.write (Removal.run { table := t.name, condition := none } []) with
    | (.ok _, d) => (.ok [], { d with tables := without d.tables })
    | failed => failed

def start (d : Database) : Except Fault Cells × Database :=
  if d.saved.isSome then (.error .transactionOpen, d)
  else (.ok [], { d with saved := some d.tables })

/-- Ends a transaction. It stays open while references are broken. -/
def commit (d : Database) : Except Fault Cells × Database :=
  if d.saved.isNone then (.error .nothingToCommit, d)
  else if Reference.anyBroken true d.tables then (.error .keyFailed, d)
  else (.ok [], { d with saved := none })

/-- Ends a transaction as if it had not been begun. -/
def rollback (d : Database) : Except Fault Cells × Database :=
  match d.saved with
  | some tables => (.ok [], { d with tables := tables, saved := none })
  | none => (.error .nothingToRollBack, d)

def run (d : Database) (plan : Plan) (params : List Cell) : Except Fault Cells × Database :=
  if d.readOnly && plan.isWrite then (.error .readOnly, d)
  else
    match plan with
    | .nothing => (.ok [], d)
    | .create t => (.ok [], { d with tables := d.tables ++ [t] })
    | .createIndex t ix => d.createIndex t ix
    | .drop t => d.drop t
    | .dropIndex t index =>
      (.ok [], d.alter t fun u =>
        { u with indexes := u.indexes.filter fun ix => ix.name != index })
    | .insert i => d.write (i.run params)
    | .update u => d.write (u.run params)
    | .delete u => d.write (u.run params)
    | .select q => (q.run params, d)
    | .start => d.start
    | .commit => d.commit
    | .rollback => d.rollback

/-- Runs the statements among symbols up to the first fault, at most as many as the first argument
says. -/
def runSymbols (d : Database) : Nat → List Symbol → Except Fault Unit × Database
  | 0, _ => (.ok (), d)
  | fuel + 1, symbols =>
    match Sentence.first symbols with
    | .error f => (.error f, d)
    | .ok none => (.ok (), d)
    | .ok (some (s, rest)) =>
      match d.prepare s with
      | .error f => (.error f, d)
      | .ok p =>
        match d.run p.plan [] with
        | (.error f, d) => (.error f, d)
        | (.ok _, d) => runSymbols d fuel rest

/-- Runs all statements of a text up to the first fault. -/
def runAll (d : Database) (sql : String) : Except Fault Unit × Database :=
  let symbols := Symbol.ofText sql
  d.runSymbols (symbols.length + 1) symbols

@[simp] theorem run_nothing (d : Database) (params : List Cell) :
    d.run .nothing params = (.ok [], d) := by
  simp [run, Plan.isWrite]

@[simp] theorem run_select (d : Database) (q : BoundQuery) (params : List Cell) :
    d.run (.select q) params = (q.run params, d) := by
  simp [run, Plan.isWrite]

end Database

end EntityMapper.Sql
