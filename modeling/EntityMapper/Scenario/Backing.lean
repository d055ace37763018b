import EntityMapper.Sql.Link
import EntityMapper.Store.Scripted
/-! The stores that scenarios are played on: a script or a database. -/

namespace EntityMapper

/-- A script or a link to a database. -/
inductive Backing where
  | script (s : Script)
  | link (l : Sql.Link Sql.Database)

namespace Backing

def ask {α : Type} (onScript : Script → α × Script)
    (onLink : Sql.Link Sql.Database → α × Sql.Link Sql.Database) : Backing → α × Backing
  | script s =>
    let (a, s) := onScript s
    (a, .script s)
  | link l =>
    let (a, l) := onLink l
    (a, .link l)

/-- The connection over a link. -/
def onLink : Connection (Sql.Link Sql.Database) :=
  Sql.Database.engine.connection

/-- The connection to a store of either kind; one kind has a notice for transaction steps. -/
def connection (notice : Option Event) : Connection Backing where
  query c := ask (Script.connection.query c) (onLink.query c)
  execute c := ask (Script.connection.execute c) (onLink.execute c)
  insert c := ask (Script.connection.insert c) (onLink.insert c)
  transact step := ask (Script.connection.transact step) (onLink.transact step)
  notice := notice

def prepare (a : ScriptedAnswer) : Backing → Backing
  | script s => .script (s.add a)
  | link l => .link l

/-- The rows that a statement gives, past the transcript. A script has none. -/
def rows (sql : String) : Backing → Except Error (List Row) × Backing
  | script s => (.ok [], .script s)
  | link l =>
    let (r, l) := Sql.Database.engine.query sql [] l
    (r, .link l)

end Backing

end EntityMapper
