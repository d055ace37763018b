import EntityMapper.Number.Width
import EntityMapper.Number.Reading
import EntityMapper.Document.Basic
/-! Values of columns and parameters. -/

namespace EntityMapper

/-- A value of any column type. -/
inductive Value where
  | null
  | bool (b : Bool)
  | integer (w : IntWidth) (n : SizedInt w)
  | single (x : Single)
  | double (x : Double)
  /-- A decimal of any precision, kept as text. -/
  | decimal (s : String)
  | text (s : String)
  | bytes (b : List UInt8)
  | document (d : Document)
  deriving Inhabited

namespace Value

def big (n : Int) (h : IntWidth.big.Holds n := by decide) : Value :=
  .integer .big ⟨n, h⟩

def isNull : Value → Bool
  | .null => true
  | _ => false

/-- The name of the column type of a value. -/
def typeName : Value → String
  | .null => "NULL"
  | .bool _ => "BOOLEAN"
  | .integer .tiny _ => "TINYINT"
  | .integer .small _ => "SMALLINT"
  | .integer .medium _ => "INTEGER"
  | .integer .big _ => "BIGINT"
  | .single _ => "REAL"
  | .double _ => "DOUBLE"
  | .decimal _ => "DECIMAL"
  | .text _ => "TEXT"
  | .bytes _ => "BLOB"
  | .document _ => "JSON"

def asBool : Value → Option Bool
  | .bool b => some b
  | .integer _ n => some (n.val != 0)
  | _ => none

/-- Integers and truth values as an integer of the greatest width. -/
def asInteger : Value → Option (SizedInt .big)
  | .integer _ n => some n.widen
  | .bool true => some ⟨1, IntWidth.big.holds_one⟩
  | .bool false => some ⟨0, IntWidth.big.holds_zero⟩
  | _ => none

def asDouble : Value → Option Double
  | .single x => some (x.convert .double)
  | .double x => some x
  | .integer _ n => some (.ofInt .double n.val)
  | .decimal s => Double.read s.toList
  | _ => none

def asText : Value → Option String
  | .text s => some s
  | .decimal s => some s
  | _ => none

/-- The form in which a value identifies an entity: integers and floating-point numbers take
their greatest width. -/
def identity : Value → Value
  | .integer _ n => .integer .big n.widen
  | .single x => .double (x.convert .double)
  | v => v

/-- The version after this one: one for a missing version, the successor of an integer that has
one in its width. -/
def nextVersion : Value → Option Value
  | .null => some (big 1)
  | .integer w n => n.succ?.map (.integer w)
  | _ => none

/-- Equality in structure; floating-point numbers compare as numbers do. -/
def equal : Value → Value → Bool
  | .null, .null => true
  | .bool a, .bool b => a == b
  | .integer w n, .integer v m => w == v && n.val == m.val
  | .single a, .single b => a.equal b
  | .double a, .double b => a.equal b
  | .decimal a, .decimal b => a == b
  | .text a, .text b => a == b
  | .bytes a, .bytes b => a == b
  | .document a, .document b => a.equal b
  | _, _ => false

instance : BEq Value := ⟨equal⟩

/-- Neither a floating-point number nor a document: equality of such values is identity. -/
def isExact : Value → Bool
  | .single _ | .double _ | .document _ => false
  | _ => true

theorem beq_eq (a b : Value) : (a == b) = a.equal b := rfl

theorem eq_of_equal {a b : Value} (ha : a.isExact = true) (h : a.equal b = true) : a = b := by
  cases a <;> cases b <;> simp_all [equal, isExact]
  case integer.integer w n v m =>
    obtain ⟨rfl, h⟩ := h
    cases n; cases m
    simp_all

theorem equal_self {a : Value} (ha : a.isExact = true) : a.equal a = true := by
  cases a <;> simp_all [equal, isExact]

/-- On exact values equality is identity. -/
theorem equal_iff {a b : Value} (ha : a.isExact = true) : a.equal b = true ↔ a = b :=
  ⟨eq_of_equal ha, fun h => h ▸ equal_self ha⟩

@[simp] theorem isExact_identity (v : Value) : v.identity.isExact = v.isExact := by
  cases v <;> rfl

@[simp] theorem identity_identity (v : Value) : v.identity.identity = v.identity := by
  cases v <;> rfl

example : (big 1).equal (.integer .medium ⟨1, by decide⟩) = false := by decide
example : (Value.integer .tiny ⟨127, by decide⟩).nextVersion.isNone = true := by decide

end Value

end EntityMapper
