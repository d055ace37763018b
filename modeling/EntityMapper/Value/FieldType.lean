import EntityMapper.Error
import EntityMapper.Value.Show
import EntityMapper.Document.Reader
/-! The types that a field can have, and reading a value into a field of a type. -/

namespace EntityMapper

/-- The type of what a field holds when it holds something. -/
inductive Scalar where
  | bool
  | integer (w : IntWidth)
  /-- A number from `0` to `2 ^ 32 - 1`. -/
  | count
  | single
  | double
  | text
  | bytes
  | document
  /-- A value of any type. -/
  | any
  deriving DecidableEq

/-- The type of a field: a scalar that is always there, or one that may be missing. -/
inductive FieldType where
  | required (s : Scalar)
  | optional (s : Scalar)
  deriving DecidableEq

namespace Scalar

def name : Scalar → String
  | .bool => "bool"
  | .integer .tiny => "i8"
  | .integer .small => "i16"
  | .integer .medium => "i32"
  | .integer .big => "i64"
  | .count => "u32"
  | .single => "f32"
  | .double => "f64"
  | .text => "String"
  | .bytes => "Vec<u8>"
  | .document => "JSON"
  | .any => "value"

/-- A value of a kind that the type does not take. -/
def mismatch (s : Scalar) (v : Value) : Error :=
  .type s.name v.typeName none

def outOfRange (s : Scalar) (n : Int) : Error :=
  .type s.name ("value " ++ showInt n ++ " out of range") none

def readInteger (w : IntWidth) (v : Value) : Except Error Value :=
  match v.asInteger with
  | none => .error (mismatch (.integer w) v)
  | some n =>
    match SizedInt.ofInt? w n.val with
    | some m => .ok (.integer w m)
    | none => .error (outOfRange (.integer w) n.val)

/-- Reads a number from `0` to `2 ^ 32 - 1`; it is kept as an integer of the greatest width. -/
def readCount (v : Value) : Except Error Value :=
  match v.asInteger with
  | none => .error (mismatch .count v)
  | some n => if 0 ≤ n.val && n.val < 2 ^ 32 then .ok (.integer .big n) else
      .error (outOfRange .count n.val)

/-- Reads a value into a scalar type; the result is the value that the field then shows. -/
def read : Scalar → Value → Except Error Value
  | .bool, v =>
    match v.asBool with
    | some b => .ok (.bool b)
    | none => .error (mismatch .bool v)
  | .integer w, v => readInteger w v
  | .count, v => readCount v
  | .single, .single x => .ok (.single x)
  | .single, v =>
    match v.asDouble with
    | some x => .ok (.single (x.convert .single))
    | none => .error (mismatch .single v)
  | .double, v =>
    match v.asDouble with
    | some x => .ok (.double x)
    | none => .error (mismatch .double v)
  | .text, v =>
    match v.asText with
    | some s => .ok (.text s)
    | none => .error (mismatch .text v)
  | .bytes, .bytes b => .ok (.bytes b)
  | .bytes, .text s => .ok (.bytes s.toUTF8.toList)
  | .bytes, v => .error (mismatch .bytes v)
  | .document, .document d => .ok (.document d)
  | .document, .text s =>
    match Document.read s with
    | some d => .ok (.document d)
    | none => .error (.type "valid JSON" "invalid JSON" none)
  | .document, v => .error (mismatch .document v)
  | .any, v => .ok v

/-- What a field of the type holds at first. -/
def initial : Scalar → Value
  | .bool => .bool false
  | .integer w => .integer w ⟨0, w.holds_zero⟩
  | .count => .integer .big ⟨0, IntWidth.big.holds_zero⟩
  | .single => .single (.ofBits .single 0)
  | .double => .double (.ofBits .double 0)
  | .text => .text ""
  | .bytes => .bytes []
  | .document => .document .null
  | .any => .null

/-- The values that a field of the type can show. -/
def Shows : Scalar → Value → Prop
  | .bool, .bool _ => True
  | .integer w, .integer v _ => v = w
  | .count, .integer .big n => 0 ≤ n.val ∧ n.val < 2 ^ 32
  | .single, .single _ => True
  | .double, .double _ => True
  | .text, .text _ => True
  | .bytes, .bytes _ => True
  | .document, .document _ => True
  | .any, _ => True
  | _, _ => False

end Scalar

namespace FieldType

/-- Reads a value into a field; a missing value leaves an optional field empty. -/
def read : FieldType → Value → Except Error Value
  | .required s, v => s.read v
  | .optional s, v => if v.isNull then .ok .null else s.read v

/-- What a field of the type holds at first. -/
def initial : FieldType → Value
  | .required s => s.initial
  | .optional _ => .null

/-- Whether the type is a signed integer, possibly missing. -/
def isIntegral : FieldType → Bool
  | .required (.integer _) => true
  | .optional (.integer _) => true
  | _ => false

/-- The values that a field of the type can show. -/
def Shows : FieldType → Value → Prop
  | .required s, v => s.Shows v
  | .optional s, v => v = .null ∨ s.Shows v

end FieldType

end EntityMapper
