import EntityMapper.Number.Arithmetic
import EntityMapper.Number.Reading
/-! Numbers held as sums of two floating-point numbers, and how they are scaled by powers of ten.
The products of halves of a mantissa are rounded too, so that the last place of a scaled number
need not be the nearest one. -/

namespace EntityMapper

/-- A number held as a sum. -/
structure Paired where
  high : Double
  /-- What the first summand lacks. -/
  low : Double
  deriving DecidableEq

namespace Paired

/-- The number without the last 26 bits of its pattern. -/
def upperHalf (x : Double) : Double :=
  .ofBits .double (x.bits.val / 2 ^ 26 * 2 ^ 26)

/-- The product, its first summand taken from the halves of the mantissas. -/
def scale (p factor : Paired) : Paired :=
  let hx := upperHalf p.high
  let tx := p.high.sub hx
  let hy := upperHalf factor.high
  let ty := factor.high.sub hy
  let main := hx.mul hy
  let cross := (hx.mul ty).add (tx.mul hy)
  let c := main.add cross
  let rest := ((main.sub c).add cross).add (tx.mul ty)
  let lacking := ((p.high.mul factor.low).add (p.low.mul factor.high)).add rest
  let high := c.add lacking
  ⟨high, (c.sub high).add lacking⟩

def ofQuotient (num den : Nat) : Paired :=
  let high := Binary.ofQuotient .double false num den
  match high.unpack with
  | .finite _ m q =>
    let left : Int := num * 2 ^ (-q).toNat
    let right : Int := m * 2 ^ q.toNat * den
    ⟨high, .ofQuotient .double (left < right) (left - right).natAbs (den * 2 ^ (-q).toNat)⟩
  | _ => ⟨high, .zero .double false⟩

/-- The powers of ten by which numbers are scaled up, the greatest one first. -/
def upwards : List (Nat × Paired) :=
  [(100, ofQuotient (10 ^ 100) 1), (10, ofQuotient (10 ^ 10) 1), (1, ofQuotient 10 1)]

/-- The powers of ten by which numbers are scaled down, the least one first. -/
def downwards : List (Nat × Paired) :=
  [(100, ofQuotient 1 (10 ^ 100)), (10, ofQuotient 1 (10 ^ 10)), (1, ofQuotient 1 10)]

/-- The number scaled several times by the same factor. -/
def scaleTimes (factor : Paired) : Nat → Paired → Paired
  | 0, p => p
  | n + 1, p => scaleTimes factor n (p.scale factor)

/-- The number scaled by powers of ten that make up an exponent. -/
def scaleBy (exponent : Nat) : List (Nat × Paired) → Paired → Paired
  | [], p => p
  | (power, factor) :: rest, p =>
    scaleBy (exponent % power) rest (scaleTimes factor (exponent / power) p)

def shift (exponent : Int) (p : Paired) : Paired :=
  scaleBy exponent.natAbs (if exponent < 0 then downwards else upwards) p

/-- The number scaled by one power of ten as long as a test of its first summand holds, at most as
often as the first argument says. The result has the number of times. -/
def scaleWhile (test : Double → Bool) (factor : Paired) : Nat → Paired → Paired × Nat
  | 0, p => (p, 0)
  | fuel + 1, p =>
    if test p.high then
      let (q, n) := scaleWhile test factor fuel (p.scale factor)
      (q, n + 1)
    else (p, 0)

/-- A whole number below the 64th power of two. -/
def ofNat (n : Nat) : Paired :=
  let high := Binary.ofInt .double n
  match high.truncate? with
  | some m =>
    if m < 2 ^ 64 then ⟨high, .ofInt .double (n - m)⟩ else ⟨high, .zero .double false⟩
  | none => ⟨high, .zero .double false⟩

/-- The nearest single number; one that is out of range is infinite. -/
def toDouble (p : Paired) : Double :=
  let sum := p.high.add p.low
  if sum.isNaN then .infinity .double false else sum

end Paired

namespace Decimal

/-- The first digits of a decimal, as many as keep the number below the 64th power of two. -/
def leading (d : Decimal) : Decimal :=
  go d.digits d.exponent
where
  /-- Drops the last digit as long as the digits before it are enough. -/
  go (n : Nat) (e : Int) : Decimal :=
    if h : (2 ^ 64 - 10) / 10 ≤ n / 10 then go (n / 10) (e + 1) else ⟨n, e⟩
  termination_by n
  decreasing_by omega

/-- The decimal with an exponent that is nearer to zero, by zeros at the end of its digits. -/
def balanced : Nat → Decimal → Decimal
  | 0, d => d
  | fuel + 1, d =>
    if 0 < d.exponent && d.digits < (2 ^ 64 - 2048) / 10 then
      balanced fuel ⟨10 * d.digits, d.exponent - 1⟩
    else if d.exponent < 0 && d.digits % 10 == 0 then
      balanced fuel ⟨d.digits / 10, d.exponent + 1⟩
    else d

/-- The floating-point number that scaling the first digits gives. -/
def scaled (negative : Bool) (d : Decimal) : Double :=
  if d.digits = 0 then .zero .double negative
  else
    let d := balanced 20 d.leading
    let exponent := max (-20000) (min 20000 d.exponent)
    let x := ((Paired.ofNat d.digits).shift exponent).toDouble
    if negative then x.negate else x

example : (Decimal.scaled false ⟨2, 251⟩).bits.val = 0x741bef1c9657a685 := by decide +kernel
example : (Decimal.scaled true ⟨8, -215⟩).bits.val = 0x937b9408eefea838 := by decide +kernel
example : (Decimal.scaled false ⟨1, -1⟩).bits.val = 0x3fb999999999999a := by decide +kernel
example : (Decimal.scaled false ⟨1, 400⟩).isInfinite = true := by decide +kernel

end Decimal

end EntityMapper
