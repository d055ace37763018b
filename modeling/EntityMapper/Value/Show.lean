import EntityMapper.Value.Basic
import EntityMapper.Document.Printer
/-! The texts of values: plain, as they stand in messages, and with the kind of the value. -/

namespace EntityMapper

def showInt (n : Int) : String :=
  String.ofList (Document.printInt n)

def showNat (n : Nat) : String :=
  String.ofList (Nat.toDigits 10 n)

def showBool (b : Bool) : String :=
  if b then "true" else "false"

namespace Value

def toText : Value → String
  | .null => "NULL"
  | .bool b => showBool b
  | .integer _ n => showInt n.val
  | .single x => NumberLayout.plain.write x
  | .double x => NumberLayout.plain.write x
  | .decimal s => "'" ++ s ++ "'"
  | .text s => "'" ++ s ++ "'"
  | .bytes b => "<" ++ showNat b.length ++ " bytes>"
  | .document d => d.render

def kindName : Value → String
  | .null => "Null"
  | .bool _ => "Bool"
  | .integer .tiny _ => "TinyInt"
  | .integer .small _ => "SmallInt"
  | .integer .medium _ => "Int"
  | .integer .big _ => "BigInt"
  | .single _ => "Float"
  | .double _ => "Double"
  | .decimal _ => "Decimal"
  | .text _ => "Text"
  | .bytes _ => "Bytes"
  | .document _ => "Json"

def contentText : Value → String
  | .null => ""
  | .bool b => showBool b
  | .integer _ n => showInt n.val
  | .single x => NumberLayout.marked.write x
  | .double x => NumberLayout.marked.write x
  | .decimal s => Text.quoted s
  | .text s => Text.quoted s
  | .bytes b => "[" ++ ", ".intercalate (b.map fun n => showNat n.toNat) ++ "]"
  | .document d => d.describe

def describe (v : Value) : String :=
  if v.isNull then v.kindName else v.kindName ++ "(" ++ v.contentText ++ ")"

example : (Value.text "a'b").toText = "'a'b'" := by decide +kernel
example : (Value.big 7).describe = "BigInt(7)" := by decide +kernel

end Value

end EntityMapper
