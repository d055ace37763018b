import EntityMapper.Scenario.Catalogue
import EntityMapper.Session.Search
import EntityMapper.Sql.Link
/-! Working with a link to a database directly. -/

namespace EntityMapper

/-- A step on a link. -/
inductive LinkStep where
  | runAll (sql : String)
  | query (sql : String) (params : List Value)
  | execute (sql : String) (params : List Value)
  | insert (sql : String) (params : List Value)
  | transact (step : TransactionStep)
  | lastRow
  | path
  /-- Opens another database in the same way and looks for a tag in it. -/
  | findTag
  deriving Inhabited

/-- What a step on a link answers. -/
inductive LinkAnswer where
  | nothing
  | rows (rs : List Row)
  | count (n : Nat)
  | value (v : Value)
  | number (n : Int)
  | text (s : String)
  | flag (b : Bool)

namespace LinkStep

/-- Whether a new database has the tag with the identifier one. -/
def tagExists (c : Sql.LinkConfig) : Except Error Bool := do
  let link ← Sql.Link.open? c
  let g : Gateway (Sql.Link Sql.Database) :=
    ⟨Sql.Database.engine.connection, SampleTypes.catalogue, false⟩
  let id : Value := .big 1 IntWidth.big.holds_one
  let found ← ((Session.findById g SampleTypes.tag id).run ⟨{}, { store := link }⟩).1
  return found.isSome

/-- Plays a step on a link that was opened in a given way. -/
def play (c : Sql.LinkConfig) (l : Sql.Link Sql.Database) :
    LinkStep → Except Error LinkAnswer × Sql.Link Sql.Database
  | runAll sql =>
    let (r, d) := Sql.Database.engine.runAll sql l.database
    (r.map fun _ => .nothing, { l with database := d })
  | query sql params =>
    let (r, l) := Sql.Database.engine.query sql params l
    (r.map .rows, l)
  | execute sql params =>
    let (r, l) := Sql.Database.engine.execute sql params l
    (r.map .count, l)
  | insert sql params =>
    let (r, l) := Sql.Database.engine.insert sql params l
    (r.map .value, l)
  | transact step =>
    let (r, l) := Sql.Database.engine.transact step l
    (r.map fun _ => .nothing, l)
  | lastRow => (.ok (.number l.database.lastRow), l)
  | path => (.ok (.text l.path), l)
  | findTag => ((tagExists c).map .flag, l)

end LinkStep

end EntityMapper
