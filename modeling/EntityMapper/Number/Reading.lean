import EntityMapper.Number.Shortest
import EntityMapper.Text.Ascii
import EntityMapper.Text.WordChar
/-! Reading a floating-point number from its decimal text. -/

namespace EntityMapper

open Text

namespace Decimal

/-- The number that a row of decimal digits stands for. -/
def ofDigits (cs : List Char) : Nat :=
  cs.foldl (fun n c => 10 * n + (c.toNat - '0'.toNat)) 0

/-- The binary number nearest to a decimal. Decimals far beyond either end of the range are told
by their number of digits. -/
def toDouble (negative : Bool) (d : Decimal) : Double :=
  let point : Int := (Nat.toDigits 10 d.digits).length + d.exponent
  if d.digits = 0 || point < -400 then .ofQuotient .double negative 0 1
  else if 400 < point then .infinity .double negative
  else .ofQuotient .double negative (d.digits * 10 ^ d.exponent.toNat)
    (10 ^ (-d.exponent).toNat)

/-- The exponent part of a decimal text: nothing, or a letter `e`, a sign and digits. -/
def readExponent : List Char → Option Int
  | [] => some 0
  | e :: rest =>
    if e.toLower != 'e' then none
    else
      let (negative, digits) := match rest with
        | '-' :: ds => (true, ds)
        | '+' :: ds => (false, ds)
        | ds => (false, ds)
      if digits.isEmpty || !digits.all isAsciiDigit then none
      else some (if negative then -(ofDigits digits : Int) else ofDigits digits)

/-- An unsigned decimal: digits with at most one point, at least one digit, then an exponent. -/
def readUnsigned (cs : List Char) : Option Decimal :=
  let whole := cs.takeWhile isAsciiDigit
  let rest := cs.dropWhile isAsciiDigit
  let (fraction, tail) := match rest with
    | '.' :: more => (more.takeWhile isAsciiDigit, more.dropWhile isAsciiDigit)
    | _ => ([], rest)
  if whole.isEmpty && fraction.isEmpty then none
  else (readExponent tail).map fun e => ⟨ofDigits (whole ++ fraction), e - fraction.length⟩

end Decimal

namespace Double

/-- An unsigned number text: a word for infinity, the word for no number, or a decimal. -/
def readUnsigned (negative : Bool) (cs : List Char) : Option Double :=
  if alike cs "inf".toList || alike cs "infinity".toList then some (.infinity .double negative)
  else if alike cs "nan".toList then some (.nan .double)
  else (Decimal.readUnsigned cs).map (·.toDouble negative)

/-- Reads a number text with an optional sign and nothing around it. -/
def read (cs : List Char) : Option Double :=
  match cs with
  | '-' :: rest => readUnsigned true rest
  | '+' :: rest => readUnsigned false rest
  | _ => readUnsigned false cs

example : (read "0.1".toList).map (·.bits.val) = some 0x3fb999999999999a := by decide +kernel
example : (read "5.".toList).map (·.bits.val) = some 0x4014000000000000 := by decide +kernel
example : read "1e".toList = none := by decide +kernel
example : (read "-1e400".toList).map (·.bits.val) = some 0xfff0000000000000 := by decide +kernel

end Double

end EntityMapper
