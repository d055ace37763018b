import EntityMapper.Document.Reader
import EntityMapper.Value.Show
/-! Values as documents: an object whose one member is named for the kind of the value. -/

namespace EntityMapper.Value

open Document

def ofIntegerDocument (w : IntWidth) : Document → Option Value
  | .integer n => (SizedInt.ofInt? w n).map (.integer w)
  | _ => none

def byteOfDocument : Document → Option UInt8
  | .integer n => if 0 ≤ n && n < 256 then some (UInt8.ofNat n.toNat) else none
  | _ => none

/-- A value of a kind from its content. Integers do as floating-point numbers too. -/
def ofContent (kind : String) (d : Document) : Option Value :=
  match kind, d with
  | "Null", .null => some .null
  | "Bool", .bool b => some (.bool b)
  | "TinyInt", d => ofIntegerDocument .tiny d
  | "SmallInt", d => ofIntegerDocument .small d
  | "Int", d => ofIntegerDocument .medium d
  | "BigInt", d => ofIntegerDocument .big d
  | "Float", .integer n => some (.single (.ofInt .single n))
  | "Float", .real x => some (.single (x.convert .single))
  | "Double", .integer n => some (.double (.ofInt .double n))
  | "Double", .real x => some (.double x)
  | "Decimal", .text s => some (.decimal s)
  | "Text", .text s => some (.text s)
  | "Bytes", .array items => (items.mapM byteOfDocument).map .bytes
  | "Json", d => some (.document d)
  | _, _ => none

/-- A value that starts here: the missing value as a text, or an object with one member. -/
def readTagged : List Char → Option (Value × List Char)
  | '"' :: rest =>
    match readText rest with
    | some ("Null", rest) => some (.null, rest)
    | _ => none
  | '\x7b' :: rest => do
    let ((kind, d), rest) ← readMember (readDocument (depthLimit - 1)) (skipGap rest)
    let v ← ofContent kind d
    match skipGap rest with
    | '\x7d' :: rest => return (v, rest)
    | _ => none
  | _ => none

/-- Reads a text that holds one value and blanks around it. -/
def ofTagged (s : String) : Option Value :=
  complete (readTagged (skipGap s.toList))

/-- A floating-point number in a document; one that is not finite is missing. -/
def finiteText {f : BinaryFormat} (layout : NumberLayout) (x : Binary f) : String :=
  if x.isNaN || x.isInfinite then "null" else layout.write x

/-- The content of a value as the text of a document. -/
def documentText : Value → String
  | .null => "null"
  | .bool b => showBool b
  | .integer _ n => showInt n.val
  | .single x => finiteText .documentSingle x
  | .double x => finiteText .document x
  | .decimal s => String.ofList (printText s)
  | .text s => String.ofList (printText s)
  | .bytes b => "[" ++ ",".intercalate (b.map fun n => showNat n.toNat) ++ "]"
  | .document d => d.render

def toTagged (v : Value) : String :=
  if v.isNull then "\"Null\""
  else "\x7b\"" ++ v.kindName ++ "\":" ++ v.documentText ++ "\x7d"

example : (ofTagged " \x7b\"Int\" : 7 \x7d ").map toTagged = some "\x7b\"Int\":7\x7d" := by
  decide +kernel

end EntityMapper.Value
