import EntityMapper.Number.Binary
/-! The shortest decimal that reads back as a given binary number, and ways to lay it out. -/

namespace EntityMapper

/-- The number `digits * 10 ^ exponent`. -/
structure Decimal where
  digits : Nat
  exponent : Int
  deriving DecidableEq, Repr

/-- Which of two equally near neighbours is taken. -/
inductive Tie where
  | upper
  | even
  deriving DecidableEq

namespace Shortest

/-- The numbers that round to one binary number, all scaled by the same factor, together with
the grid of multiples of a power of ten. -/
structure Candidates where
  value : Nat
  lower : Nat
  upper : Nat
  /-- The ends of the interval round to the number too. -/
  closed : Bool
  /-- The distance of neighbours on the grid. -/
  step : Nat

/-- The interval around `mantissa * 2 ^ exponent` on the grid of multiples of `10 ^ k`. -/
def candidates (f : BinaryFormat) (mantissa : Nat) (exponent k : Int) : Candidates :=
  let scale := 10 ^ (-k).toNat * 2 ^ (exponent - 2).toNat
  let narrow := mantissa == 2 ^ f.fractionBits && f.leastExponent < exponent
  { value := 4 * mantissa * scale
    lower := (4 * mantissa - if narrow then 1 else 2) * scale
    upper := (4 * mantissa + 2) * scale
    closed := mantissa % 2 == 0
    step := 10 ^ k.toNat * 2 ^ (2 - exponent).toNat }

/-- Whether a positive multiple of the grid lies in the interval. -/
def Candidates.admits (c : Candidates) (d : Nat) : Bool :=
  let x := d * c.step
  0 < d && (if c.closed then c.lower ≤ x && x ≤ c.upper else c.lower < x && x < c.upper)

/-- The multiple of the grid nearest to the value among its neighbours in the interval. -/
def Candidates.nearest? (tie : Tie) (c : Candidates) : Option Nat :=
  let d := c.value / c.step
  let r := 2 * (c.value % c.step)
  let above := c.admits (d + 1)
  if c.admits d then
    if above && (c.step < r || (c.step == r && (tie == .upper || d % 2 == 1))) then some (d + 1)
    else some d
  else if above then some (d + 1)
  else none

/-- A power of ten above `mantissa * 2 ^ exponent`. -/
def topPower (mantissa : Nat) (exponent : Int) : Int :=
  (Nat.toDigits 10 (mantissa * 2 ^ exponent.toNat)).length
    - (Nat.toDigits 10 (2 ^ (-exponent).toNat)).length + 1

/-- The decimal with the fewest digits that rounds to `mantissa * 2 ^ exponent`, and of those the
nearest: the coarsest grid with a multiple in the interval decides. -/
def decimal (f : BinaryFormat) (tie : Tie) (mantissa : Nat) (exponent : Int) : Decimal :=
  let top := topPower mantissa exponent
  ((List.range 24).findSome? fun (i : Nat) =>
    ((candidates f mantissa exponent (top - i)).nearest? tie).map fun d => ⟨d, top - i⟩).getD
      ⟨0, 0⟩

example : decimal .double .even 0x1999999999999a (-56) = ⟨1, -1⟩ := by decide +kernel
example : decimal .double .even 1 (-1074) = ⟨5, -324⟩ := by decide +kernel

end Shortest

/-- How a number is laid out as text. -/
structure NumberLayout where
  tie : Tie
  /-- Positional when the point stands after more places than this. -/
  pointAbove : Option Int
  /-- Positional when the point stands after at most so many places. -/
  pointUpTo : Option Int
  /-- Whole numbers end in `.0`. -/
  wholeSuffix : Bool
  /-- A positive power of ten carries a plus sign. -/
  plusSign : Bool

namespace NumberLayout

/-- Values in messages: positional without an exponent, whole numbers without a point. -/
def plain : NumberLayout := ⟨.upper, none, none, false, false⟩

/-- Values shown with their kind: a point always, an exponent from `10 ^ 16` on and below
`10 ^ -4`. -/
def marked : NumberLayout := ⟨.upper, some (-4), some 16, true, false⟩

def document : NumberLayout := ⟨.even, some (-5), some 16, true, true⟩

def documentSingle : NumberLayout := ⟨.even, some (-6), some 13, true, true⟩

/-- The positional form of `digits * 10 ^ exponent`. -/
def positional (layout : NumberLayout) (digits : List Char) (exponent : Int) : List Char :=
  let point := digits.length + exponent
  if 0 ≤ exponent then
    digits ++ List.replicate exponent.toNat '0' ++ if layout.wholeSuffix then ['.', '0'] else []
  else if 0 < point then digits.take point.toNat ++ '.' :: digits.drop point.toNat
  else '0' :: '.' :: List.replicate (-point).toNat '0' ++ digits

/-- The form with one digit before the point and a power of ten. -/
def scientific (layout : NumberLayout) (digits : List Char) (exponent : Int) : List Char :=
  let power := digits.length + exponent - 1
  let sign := if power < 0 then ['-'] else if layout.plusSign then ['+'] else []
  let tail := digits.drop 1
  digits.take 1 ++ (if tail.isEmpty then [] else '.' :: tail) ++
    'e' :: sign ++ Nat.toDigits 10 power.natAbs

def writeDecimal (layout : NumberLayout) (d : Decimal) : List Char :=
  let digits := Nat.toDigits 10 d.digits
  let point := digits.length + d.exponent
  if layout.pointAbove.all (· < point) && layout.pointUpTo.all (point ≤ ·) then
    layout.positional digits d.exponent
  else layout.scientific digits d.exponent

def write (layout : NumberLayout) {f : BinaryFormat} (x : Binary f) : String :=
  match x.unpack with
  | .nan => "NaN"
  | .infinite s => if s then "-inf" else "inf"
  | .finite s m q =>
    let body :=
      if m = 0 then (if layout.wholeSuffix then ['0', '.', '0'] else ['0'])
      else layout.writeDecimal (Shortest.decimal f layout.tie m q)
    String.ofList (if s then '-' :: body else body)

example : plain.write (Binary.ofInt .double (-1500)) = "-1500" := by decide +kernel
example : document.write (Binary.ofBits .double 0x4341c37937e08000) = "1e+16" := by decide +kernel
example : marked.write (Binary.ofQuotient .double false 15 100000000) = "1.5e-7" := by
  decide +kernel

end NumberLayout

end EntityMapper
