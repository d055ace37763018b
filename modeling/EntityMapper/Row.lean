import EntityMapper.Assoc
import EntityMapper.Value.FieldType
/-! Rows of a result: column names beside values. -/

namespace EntityMapper

/-- The header of a result: the column names with an index of where each name is. -/
structure Header where
  names : List String
  index : Assoc String Nat

namespace Header

/-- The header with given names. Of a name that repeats the leftmost position is kept. -/
def ofNames (names : List String) : Header :=
  ⟨names, names.zipIdx.foldl (fun index p => index.insertNew p.1 p.2) .empty⟩

def indexOf? (h : Header) (name : String) : Option Nat :=
  h.index.find? name

end Header

/-- A row. There may be more names than values or fewer. -/
structure Row where
  header : Header
  values : List Value

namespace Row

def ofLists (names : List String) (values : List Value) : Row :=
  ⟨.ofNames names, values⟩

def get? (r : Row) (name : String) : Option Value :=
  (r.header.indexOf? name).bind fun i => r.values[i]?

/-- The value of a column that has to be there. -/
def require (r : Row) (name : String) : Except Error Value :=
  match r.get? name with
  | some v => .ok v
  | none => .error (.type "column" ("column '" ++ name ++ "' not found") (some name))

/-- The value of a column read into a field type. -/
def read (r : Row) (name : String) (t : FieldType) : Except Error Value :=
  match r.require name with
  | .error e => .error e
  | .ok v => (t.read v).mapError (Error.inColumn name)

def pairs (r : Row) : List (String × Value) :=
  r.header.names.zip r.values

example : (Header.ofNames ["id", "name", "id"]).indexOf? "id" = some 0 := by decide

end Row

end EntityMapper
