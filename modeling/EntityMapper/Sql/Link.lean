import EntityMapper.Sql.Database
import EntityMapper.Store.Connection
/-! Links: connections to databases of any kind, which keep the transaction state. -/

namespace EntityMapper.Sql

/-- How a database is opened. -/
structure LinkConfig where
  path : String := ":memory:"
  readOnly : Bool := false
  /-- Whether a database that does not exist is made. -/
  create : Bool := true
  /-- Whether the path is an address. -/
  uri : Bool := false
  /-- How many milliseconds a locked database is waited for. -/
  busyTimeout : Nat := 5000
  deriving DecidableEq

/-- A database with states of type `δ`, by how it runs statements. -/
structure Engine (δ : Type) where
  /-- Runs the first statement of a text with values for its places: the names of the columns, and
  the rows. -/
  run : String → List Value → δ → Except Error (List String × Cells) × δ
  /-- Runs all statements of a text. -/
  runAll : String → δ → Except Error Unit × δ
  /-- The number of rows that the last INSERT, UPDATE or DELETE changed. -/
  changes : δ → Nat
  /-- The number of the row that was added last. -/
  lastRow : δ → Int

/-- A link to a database. -/
structure Link (δ : Type) where
  path : String
  database : δ
  /-- Whether a transaction was begun over the link and is still open. -/
  inTransaction : Bool := false

namespace Engine

variable {δ : Type} (e : Engine δ)

def query (sql : String) (params : List Value) (l : Link δ) : Except Error (List Row) × Link δ :=
  let (r, d) := e.run sql params l.database
  (r.map fun (names, cells) =>
    let header := Header.ofNames names
    cells.map fun row => ⟨header, row.map Cell.toValue⟩, { l with database := d })

def execute (sql : String) (params : List Value) (l : Link δ) : Except Error Nat × Link δ :=
  let (r, d) := e.run sql params l.database
  (r.map fun _ => e.changes d, { l with database := d })

/-- The number of the row that was added last. -/
def lastKey (d : δ) : Value :=
  match SizedInt.ofInt? .big (e.lastRow d) with
  | some n => .integer .big n
  | none => .null

/-- The number of the row that a statement adds. -/
def insert (sql : String) (params : List Value) (l : Link δ) : Except Error Value × Link δ :=
  let (r, d) := e.run sql params l.database
  (r.map fun _ => e.lastKey d, { l with database := d })

def transact (step : TransactionStep) (l : Link δ) : Except Error Unit × Link δ :=
  let active := step == .start
  if l.inTransaction == active then
    (.error (if active then .transaction .alreadyActive "already in a transaction"
      else .transaction .notActive "not in a transaction"), l)
  else
    match e.runAll step.text l.database with
    | (.ok _, d) => (.ok (), { l with database := d, inTransaction := active })
    | (.error f, d) => (.error f, { l with database := d })

/-- The connection over a link. -/
def connection : Connection (Link δ) where
  query c := e.query c.statement.text c.params
  execute c := e.execute c.statement.text c.params
  insert c := e.insert c.statement.text c.params
  transact := e.transact
  notice := some ⟨.debug, "Transaction state changed"⟩

end Engine

namespace Database

def failure (sql : String) (message : String) : Error :=
  (Error.store .statement message).withSql sql

/-- The first parameter that a statement has no place for. -/
def stray? (p : Prepared) (params : List Value) : Option Nat :=
  if p.places < params.length then some (p.places + 1) else none

/-- Prepares the first statement of a text, ignoring what follows it. -/
def prepareText (d : Database) (sql : String) : Except Error Prepared :=
  if sql.toList.contains '\x00' then .error (failure sql "SQL contains a null byte")
  else match Sentence.first (Symbol.ofText sql) with
  | .error f => .error (failure sql f.message)
  | .ok none => .error (failure sql "empty SQL statement")
  | .ok (some (s, _)) => (d.prepare s).mapError fun f => failure sql f.message

def runText (sql : String) (params : List Value) (d : Database) :
    Except Error (List String × Cells) × Database :=
  match d.prepareText sql with
  | .error e => (.error e, d)
  | .ok p =>
    match stray? p params with
    | some i =>
      (.error (failure sql ("failed to bind parameter " ++ showNat i ++
        ": column index out of range")), d)
    | none =>
      match d.run p.plan (params.map .ofValue) with
      | (.ok cells, d) => (.ok (p.names, cells), d)
      | (.error f, d) => (.error (failure sql f.message), d)

def runTexts (sql : String) (d : Database) : Except Error Unit × Database :=
  if sql.toList.contains '\x00' then (.error (failure sql "SQL contains a null byte"), d)
  else
    let (r, d) := d.runAll sql
    (r.mapError fun f => failure sql f.message, d)

def engine : Engine Database where
  run := runText
  runAll := runTexts
  changes := changes
  lastRow := lastRow

end Database

/-- Opens a link to a new database. All databases are in memory, so that a path into a directory
leads nowhere. -/
def Link.open? (c : LinkConfig) : Except Error (Link Database) :=
  if c.path.toList.contains '\x00' then
    .error (.store .connection "invalid database path: contains a null byte")
  else if c.path.toList.contains '/' then
    .error (.store .connection
      ("failed to open database " ++ c.path ++ ": unable to open database file"))
  else .ok { path := c.path, database := { readOnly := c.readOnly } }

end EntityMapper.Sql
