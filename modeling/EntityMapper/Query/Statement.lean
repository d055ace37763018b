import EntityMapper.Entity.Metadata
import EntityMapper.Value.Show
/-! Statements that read and write single rows, with the values for their places. -/

namespace EntityMapper

/-- How a guarded UPDATE tests the version column. -/
inductive VersionTest where
  | isMissing (column : String)
  | isEqual (column : String)
  deriving DecidableEq

/-- A statement with a place for each of its values. -/
inductive Statement where
  /-- The rows with a given value in a column. -/
  | select (table column : String)
  | insert (table : String) (columns : List String)
  /-- Assigns columns in the row with a given identifier, if its version passes the test. -/
  | update (table : String) (columns : List String) (idColumn : String)
      (test : Option VersionTest)
  | delete (table idColumn : String)
  /-- A text of the caller. -/
  | native (sql : String)
  deriving DecidableEq

namespace VersionTest

def text : VersionTest → String
  | isMissing column => " and " ++ column ++ " is null"
  | isEqual column => " and " ++ column ++ " = ?"

end VersionTest

namespace Statement

/-- The text of a statement. Each place is a question mark. -/
def text : Statement → String
  | select table column => "select * from " ++ table ++ " where " ++ column ++ " = ?"
  | insert table [] => "insert into " ++ table ++ " default values"
  | insert table columns =>
    "insert into " ++ table ++ " (" ++ ", ".intercalate columns ++ ") values (" ++
      ", ".intercalate (columns.map fun _ => "?") ++ ")"
  | update table columns idColumn test =>
    "update " ++ table ++ " set " ++ ", ".intercalate (columns.map (· ++ " = ?")) ++
      " where " ++ idColumn ++ " = ?" ++ (test.map VersionTest.text).getD ""
  | delete table idColumn => "delete from " ++ table ++ " where " ++ idColumn ++ " = ?"
  | native sql => sql

end Statement

/-- A statement with the values for its places. -/
structure Command where
  statement : Statement
  params : List Value

/-- Where the values of an entity's fields come from. -/
abbrev FieldSource := String → Option Value

namespace Metadata

/-- The rows with a given value in a column. -/
def selectBy (m : Metadata) (column : String) : Statement :=
  .select m.table column

def selectById (m : Metadata) : Statement :=
  m.selectBy m.id.column

def deleteById (m : Metadata) : Statement :=
  .delete m.table m.id.column

/-- Writes a new row. The store makes the identifier; a field without value is missing. -/
def insertOf (m : Metadata) (source : FieldSource) : Command :=
  { statement := .insert m.table (m.insertable.map (·.column))
    params := m.insertable.map fun f => (source f.field).getD .null }

end Metadata

/-- An UPDATE together with the version that it writes. -/
structure UpdatePlan where
  command : Command
  nextVersion : Option Value

/-- Why no UPDATE can be made. -/
inductive UpdateFault where
  | versionNotIntegral (field : String) (held : Value)
  | nothingToUpdate

namespace UpdateFault

def message : UpdateFault → String
  | versionNotIntegral field held =>
    "version field '" ++ field ++ "' holds a non-integral value " ++ held.toText
  | nothingToUpdate => "entity has no updatable fields"

end UpdateFault

namespace Metadata

/-- The version that the row has to carry and the one after it, for a type with versions. -/
def versionStep (m : Metadata) (expected : Option Value) (source : FieldSource) :
    Except UpdateFault (Option (ColumnMapping × Value × Value)) :=
  match m.version with
  | none => .ok none
  | some version =>
    let current := expected.getD ((source version.field).getD .null)
    match current.nextVersion with
    | some next => .ok (some (version, current, next))
    | none => .error (.versionNotIntegral version.field current)

/-- The value that an UPDATE gives a field: the next version to the version field, and to any
other field what the entity holds. -/
def assignedValue (step : Option (ColumnMapping × Value × Value)) (source : FieldSource)
    (f : PersistentField) : Value :=
  match step with
  | some (version, _, next) =>
    if version.field = f.field then next else (source f.field).getD .null
  | none => (source f.field).getD .null

/-- The test of the version column, with the value for its place. -/
def versionTest (step : Option (ColumnMapping × Value × Value)) :
    Option VersionTest × List Value :=
  match step with
  | none => (none, [])
  | some (version, current, _) =>
    if current.isNull then (some (.isMissing version.column), [])
    else (some (.isEqual version.column), [current])

/-- Writes the row with a given identifier, if it still carries the expected version. The entity's
own version is expected when no other is given. -/
def updateOf (m : Metadata) (expected : Option Value) (id : Value) (source : FieldSource) :
    Except UpdateFault UpdatePlan := do
  let step ← m.versionStep expected source
  if m.updatable.isEmpty then throw .nothingToUpdate
  let (test, tested) := versionTest step
  return {
    command := {
      statement := .update m.table (m.updatable.map (·.column)) m.id.column test
      params := m.updatable.map (assignedValue step source) ++ id :: tested }
    nextVersion := step.map fun (_, _, next) => next }

end Metadata

example : (Statement.update "t" ["a", "v"] "id" (some (.isEqual "v"))).text =
    "update t set a = ?, v = ? where id = ? and v = ?" := by decide

end EntityMapper
