import EntityMapper.Number.Paired
import EntityMapper.Sql.Cell
/-! The numbers that texts stand for, and the texts of numbers. -/

namespace EntityMapper.Sql.Cell

open Text

def isPadding (c : Char) : Bool :=
  c == ' ' || (9 ≤ c.toNat && c.toNat ≤ 13)

/-- A number as it is written at the beginning of a text. -/
structure Numeral where
  negative : Bool := false
  whole : List Char := []
  /-- There is a point. -/
  pointed : Bool := false
  fraction : List Char := []
  /-- There is an exponent. -/
  scaled : Bool := false
  exponent : Int := 0
  /-- What follows the number. -/
  rest : List Char := []

namespace Numeral

/-- The exponent that follows a number: a letter `e`, a sign and digits. -/
def readExponent (n : Numeral) : Numeral :=
  match n.rest with
  | e :: more =>
    let (negative, more) := match more with
      | '-' :: ds => (true, ds)
      | '+' :: ds => (false, ds)
      | ds => (false, ds)
    let digits := more.takeWhile isAsciiDigit
    if e.toLower == 'e' && !digits.isEmpty && !(n.whole.isEmpty && n.fraction.isEmpty) then
      { n with
        scaled := true
        exponent := Binary.signed negative (Decimal.ofDigits digits)
        rest := more.dropWhile isAsciiDigit }
    else n
  | [] => n

/-- Reads the number at the beginning of a text, after blanks. -/
def ofText (s : String) : Numeral :=
  let cs := s.toList.dropWhile isPadding
  let (negative, cs) := match cs with
    | '-' :: rest => (true, rest)
    | '+' :: rest => (false, rest)
    | cs => (false, cs)
  let whole := cs.takeWhile isAsciiDigit
  match cs.dropWhile isAsciiDigit with
  | '.' :: more =>
    let n : Numeral := {
      negative := negative, whole := whole, pointed := true
      fraction := more.takeWhile isAsciiDigit, rest := more.dropWhile isAsciiDigit }
    n.readExponent
  | rest => ({ negative := negative, whole := whole, rest := rest } : Numeral).readExponent

def hasDigits (n : Numeral) : Bool :=
  !(n.whole.isEmpty && n.fraction.isEmpty)

def isWhole (n : Numeral) : Bool :=
  n.hasDigits && n.rest.all isPadding

/-- Whether the number is written without a point and without an exponent. -/
def isPlain (n : Numeral) : Bool :=
  !n.pointed && !n.scaled

def integer (n : Numeral) : Int :=
  Binary.signed n.negative (Decimal.ofDigits n.whole)

def toDouble (n : Numeral) : Double :=
  (Decimal.mk (Decimal.ofDigits (n.whole ++ n.fraction)) (n.exponent - n.fraction.length)).scaled
    n.negative

/-- The number as a cell: an integer if it is written as one and fits. -/
def toCell (n : Numeral) : Cell :=
  if n.isPlain then
    match SizedInt.ofInt? .big n.integer with
    | some i => .integer i
    | none => .real n.toDouble
  else .real n.toDouble

end Numeral

/-- The number that a whole text is, apart from blanks around it. -/
def numberOfText? (s : String) : Option Cell :=
  let n := Numeral.ofText s
  if n.isWhole then some n.toCell else none

/-- The number that a text begins with, or else zero. -/
def numberAtFront (s : String) : Cell :=
  (Numeral.ofText s).toCell

/-- The integer that a text begins with, or else zero. It is held within the range of 64 bits. -/
def integerAtFront (s : String) : SizedInt .big :=
  let n := (Numeral.ofText s).integer
  match SizedInt.ofInt? .big n with
  | some n => n
  | none =>
    if n < 0 then ⟨-9223372036854775808, IntWidth.holds_least⟩
    else ⟨9223372036854775807, IntWidth.holds_greatest⟩

/-- The limit of the range into which a number is brought before its digits are read: it is below
the 63rd power of two. -/
def digitLimit (power : Nat) : Double :=
  .ofQuotient .double false ((2 ^ 63 - 1024) * 10 ^ power) 1

/-- Eighteen or nineteen digits of a positive number, with a power of ten. -/
def manyDigits (x : Double) : Nat × Int :=
  let p : Paired := ⟨x, .zero .double false⟩
  let down (n : Nat) := Paired.ofQuotient 1 (10 ^ n)
  let up (n : Nat) := Paired.ofQuotient (10 ^ n) 1
  let (p, exponent) : Paired × Int :=
    if (digitLimit 0).less x then
      let (p, a) := Paired.scaleWhile ((digitLimit 100).less ·) (down 100) 4 p
      let (p, b) := Paired.scaleWhile ((digitLimit 10).less ·) (down 10) 11 p
      let (p, c) := Paired.scaleWhile ((digitLimit 0).less ·) (down 1) 11 p
      (p, 100 * a + 10 * b + c)
    else
      let least (num den : Nat) (y : Double) := y.less (.ofQuotient .double false num den)
      let (p, a) := Paired.scaleWhile (least (2 ^ 63 - 1024) (10 ^ 101)) (up 100) 4 p
      let (p, b) := Paired.scaleWhile (least (2 ^ 63 - 1024) (10 ^ 11)) (up 10) 11 p
      let (p, c) := Paired.scaleWhile (least 922337203685477478 1) (up 1) 11 p
      (p, -(100 * a + 10 * b + c : Nat))
  ((p.high.truncate?.getD 0 + p.low.truncate?.getD 0).toNat, exponent)

/-- Fifteen digits of a positive number at most, with the power of ten of the first digit. -/
def fifteenDigits (x : Double) : Nat × Int :=
  let (n, exponent) := manyDigits x
  let length := (Nat.toDigits 10 n).length
  let cut := length - 15
  let power : Int := length + exponent - 1
  let kept := n / 10 ^ cut
  let next := if cut = 0 then 0 else n / 10 ^ (cut - 1) % 10
  let rounded := if 5 ≤ next then kept + 1 else kept
  if rounded = 10 ^ 15 then (10 ^ 14, power + 1) else (rounded, power)

def withoutTrailingZeros (cs : List Char) : List Char :=
  (cs.reverse.dropWhile (· == '0')).reverse

/-- A positive number in text: fifteen digits at most, with a point always, and with a power of
ten beyond them. -/
def realText (x : Double) : List Char :=
  let (n, power) := fifteenDigits x
  let digits := withoutTrailingZeros (Nat.toDigits 10 n)
  let orZero (cs : List Char) : List Char := if cs.isEmpty then ['0'] else cs
  if power < -4 || 14 < power then
    let exponent := Nat.toDigits 10 power.natAbs
    digits.take 1 ++ '.' :: orZero (digits.drop 1) ++
      'e' :: (if power < 0 then '-' else '+') ::
        (if exponent.length < 2 then '0' :: exponent else exponent)
  else if power < 0 then '0' :: '.' :: List.replicate (-power - 1).toNat '0' ++ digits
  else
    let whole := (digits ++ List.replicate 15 '0').take (power.toNat + 1)
    whole ++ '.' :: orZero (digits.drop (power.toNat + 1))

def textOfReal (x : Double) : String :=
  if x.isNaN then ""
  else if x.isInfinite then if x.isNegative then "-Inf" else "Inf"
  else if x.magnitude = 0 then "0.0"
  else if x.isNegative then String.ofList ('-' :: realText x.negate)
  else String.ofList (realText x)

/-- The text of a cell that is no blob; a missing cell has none. -/
def text? : Cell → Option String
  | .null => none
  | .integer n => some (showInt n.val)
  | .real x => some (textOfReal x)
  | .text s => some s
  | .blob b => some (String.fromUTF8? ⟨b.toArray⟩ |>.getD "")

example : textOfReal (.ofQuotient .double false 1 10) = "0.1" := by decide +kernel
example : textOfReal (.ofInt .double (10 ^ 20)) = "1.0e+20" := by decide +kernel
example : numberOfText? " 12 " = some (.integer ⟨12, by decide⟩) := by decide +kernel
example : numberAtFront "12abc" = .integer ⟨12, by decide⟩ := by decide +kernel
example : numberOfText? "1e" = none := by decide +kernel

end EntityMapper.Sql.Cell
