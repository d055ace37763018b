import EntityMapper.Sql.Evaluation
/-! Tables and indexes: columns, rows and their orders. -/

namespace EntityMapper.Sql

/-- A column of a table. -/
structure Column where
  name : String
  type : String := ""
  affinity : Affinity := .blob
  collation : Collation := .binary
  notNull : Option ConflictAction := none
  /-- What the column has at first, if it is declared. -/
  default : Option BoundExpr := none

/-- A column of an index. -/
structure IndexColumn where
  column : Nat
  collation : Collation
  descending : Bool := false
  deriving DecidableEq

/-- An index: an order of the rows of a table. -/
structure Index where
  name : String
  columns : List IndexColumn
  /-- What is done when two rows agree in all columns; nothing if they may. -/
  unique : Option ConflictAction := none
  /-- The rows that are in the index, if not all are. -/
  condition : Option BoundExpr := none
  /-- The index is part of its table. -/
  kept : Bool := false

/-- A condition on every row of a table. -/
structure Check where
  name : String
  condition : BoundExpr

/-- A reference of columns to a table. -/
structure Reference where
  columns : List Nat
  table : String
  /-- The columns referred to, or else the primary key. -/
  parents : List String
  onDelete : ReferenceAction
  onUpdate : ReferenceAction
  deferred : Bool

/-- A table. -/
structure Table where
  name : String
  columns : List Column := []
  /-- The column that has the number of its row. -/
  key : Option Nat := none
  keyConflict : ConflictAction := .abort
  /-- The columns of the primary key. -/
  primary : List Nat := []
  /-- The numbers of rows are never used again. -/
  counting : Bool := false
  /-- The indexes, the last one made first. -/
  indexes : List Index := []
  checks : List Check := []
  references : List Reference := []
  /-- The greatest number that a row has had, if numbers are never used again. -/
  sequence : Int := 0
  /-- The rows, ordered by number. -/
  records : List Record := []

def Column.first (c : Column) : Except Fault Cell :=
  match c.default with
  | some e => return (← e.eval { params := [] }).adapt c.affinity
  | none => .ok .null

namespace Table

def isNamed (t : Table) (name : String) : Bool :=
  Text.alikeText t.name name

def columnIndex? (t : Table) (name : String) : Option Nat :=
  t.columns.findIdx? fun c => Text.alikeText c.name name

def columnName (t : Table) (i : Nat) : String :=
  (t.columns[i]?.map (·.name)).getD ""

def collation (t : Table) (i : Nat) : Collation :=
  (t.columns[i]?.map (·.collation)).getD .binary

def affinity (t : Table) (i : Nat) : Affinity :=
  (t.columns[i]?.map (·.affinity)).getD .blob

/-- A column of a source of rows. The column that has the number of its row is that number. -/
def place (t : Table) (source i : Nat) : ColumnPlace :=
  if t.key == some i then
    { source := source, column := none, affinity := .integer, collation := none }
  else
    { source := source, column := some i
      affinity := t.affinity i, collation := some (t.collation i) }

/-- The number of a row of a source of rows. -/
def rowPlace (source : Nat) : ColumnPlace :=
  { source := source, column := none, affinity := .integer, collation := none }

/-- The cell of a row in a column, or the number of the row. -/
def cellOf (r : Record) (column : Option Nat) : Cell :=
  match column with
  | some i => (r.cells[i]?).getD .null
  | none => Cell.ofInt r.rowid

/-- The table with other indexes. Those that make rows replace others come last. -/
def withIndexes (t : Table) (all : List Index) : Table :=
  let (last, first) := all.partition fun ix => ix.unique == some .replace
  { t with indexes := first ++ last }

def addIndex (t : Table) (ix : Index) : Table :=
  t.withIndexes (ix :: t.indexes)

/-- The number after the last row. Numbers end with the range of 64 bits. -/
def nextKey (t : Table) : Except Fault Int :=
  let last := (t.records.getLast?.map fun r => r.rowid + 1).getD 1
  let next := if t.counting then max last (t.sequence + 1) else last
  if next < IntWidth.big.bound then .ok next else .error .noKeysLeft

/-- The cells that the columns of the table make of given cells. -/
def adapt (t : Table) (cells : List Cell) : List Cell :=
  (t.columns.zip cells).map fun (c, cell) => cell.adapt c.affinity

def insertRecord (r : Record) : List Record → List Record
  | [] => [r]
  | s :: rest => if r.rowid < s.rowid then r :: s :: rest else s :: insertRecord r rest

def put (t : Table) (r : Record) : Table :=
  { t with records := insertRecord r t.records }

def remove (t : Table) (rowid : Int) : Table :=
  { t with records := t.records.filter (·.rowid != rowid) }

def record? (t : Table) (rowid : Int) : Option Record :=
  t.records.find? (·.rowid == rowid)

@[simp] theorem name_put (t : Table) (r : Record) : (t.put r).name = t.name := rfl

@[simp] theorem name_remove (t : Table) (rowid : Int) : (t.remove rowid).name = t.name := rfl

theorem mem_insertRecord {r s : Record} {rs : List Record} :
    s ∈ insertRecord r rs ↔ s = r ∨ s ∈ rs := by
  induction rs with
  | nil => simp [insertRecord]
  | cons a rest ih =>
    by_cases h : r.rowid < a.rowid
    · simp [insertRecord, h]
    · simp only [insertRecord, h, if_false, List.mem_cons, ih]
      constructor
      · rintro (rfl | rfl | h) <;> simp [*]
      · rintro (rfl | rfl | h) <;> simp [*]

end Table

namespace Index

/-- The cells of a row in the columns of the index. -/
def keyOf (ix : Index) (r : Record) : List Cell :=
  ix.columns.map fun c => (r.cells[c.column]?).getD .null

/-- The order of two rows of cells in the columns of the index. -/
def orderKeys : List IndexColumn → List Cell → List Cell → Ordering
  | c :: cs, x :: xs, y :: ys =>
    match x.order c.collation y with
    | .eq => orderKeys cs xs ys
    | o => if c.descending then o.swap else o
  | _, _, _ => .eq

/-- Whether one row comes before another one in the index, or is the same. -/
def precedes (ix : Index) (a b : Record) : Bool :=
  match orderKeys ix.columns (ix.keyOf a) (ix.keyOf b) with
  | .lt => true
  | .gt => false
  | .eq => a.rowid ≤ b.rowid

def arrange (ix : Index) (rs : List Record) : List Record :=
  rs.mergeSort ix.precedes

/-- Whether two rows agree in all columns of the index, none of which is missing. -/
def agree (ix : Index) (a b : Record) : Bool :=
  (ix.columns.zip ((ix.keyOf a).zip (ix.keyOf b))).all fun (c, x, y) => x.agrees c.collation y

@[simp] theorem length_keyOf (ix : Index) (r : Record) :
    (ix.keyOf r).length = ix.columns.length := by
  simp [keyOf]

theorem mem_arrange {ix : Index} {rs : List Record} {r : Record} :
    r ∈ ix.arrange rs ↔ r ∈ rs :=
  (List.mergeSort_perm rs ix.precedes).mem_iff

end Index

end EntityMapper.Sql
