import EntityMapper.Document.Printer
import EntityMapper.Value.Basic
/-! Fingerprints: all that tells two values apart when they are looked up. Floating-point numbers
count by their bits and documents by their text. -/

namespace EntityMapper

/-- The kind and the content of a value. -/
inductive Fingerprint where
  | null
  | bool (b : Bool)
  | integer (w : IntWidth) (n : Int)
  | single (bits : Nat)
  | double (bits : Nat)
  | decimal (s : String)
  | text (s : String)
  | bytes (b : List UInt8)
  | document (text : String)
  deriving DecidableEq

namespace Value

def fingerprint : Value → Fingerprint
  | .null => .null
  | .bool b => .bool b
  | .integer w n => .integer w n.val
  | .single x => .single x.bits.val
  | .double x => .double x.bits.val
  | .decimal s => .decimal s
  | .text s => .text s
  | .bytes b => .bytes b
  | .document d => .document d.render

/-- Equal values that are exact have one fingerprint. -/
theorem fingerprint_eq_of_equal {a b : Value} (ha : a.isExact = true) (h : a.equal b = true) :
    a.fingerprint = b.fingerprint :=
  congrArg fingerprint (eq_of_equal ha h)

end Value

end EntityMapper
