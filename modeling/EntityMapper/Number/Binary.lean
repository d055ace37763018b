import EntityMapper.Number.Width

/-! Binary floating-point numbers as bit patterns, with exact rounding to the nearest. -/

namespace EntityMapper

/-- An interchange format: a sign bit, an exponent field and a fraction field. -/
structure BinaryFormat where
  fractionBits : Nat
  exponentBits : Nat
  deriving DecidableEq

namespace BinaryFormat

def single : BinaryFormat := ⟨23, 8⟩

def double : BinaryFormat := ⟨52, 11⟩

def width (f : BinaryFormat) : Nat :=
  f.fractionBits + f.exponentBits + 1

def leastExponent (f : BinaryFormat) : Int :=
  2 - 2 ^ (f.exponentBits - 1) - f.fractionBits

def infinityBits (f : BinaryFormat) : Nat :=
  (2 ^ f.exponentBits - 1) * 2 ^ f.fractionBits

def signBit (f : BinaryFormat) : Nat :=
  2 ^ (f.fractionBits + f.exponentBits)

end BinaryFormat

/-- A number of a binary format, given by its bit pattern. -/
structure Binary (f : BinaryFormat) where
  bits : Fin (2 ^ f.width)
  deriving DecidableEq

/-- What a bit pattern stands for. -/
inductive Unpacked where
  | nan
  | infinite (negative : Bool)
  /-- The number `mantissa * 2 ^ exponent` with its sign. -/
  | finite (negative : Bool) (mantissa : Nat) (exponent : Int)
  deriving DecidableEq

namespace Binary

variable {f : BinaryFormat}

/-- The number with a given pattern; bits beyond the format are dropped. -/
def ofBits (f : BinaryFormat) (n : Nat) : Binary f :=
  ⟨⟨n % 2 ^ f.width, Nat.mod_lt _ (Nat.two_pow_pos _)⟩⟩

def isNegative (x : Binary f) : Bool :=
  f.signBit ≤ x.bits.val

def magnitude (x : Binary f) : Nat :=
  x.bits.val % f.signBit

def unpack (x : Binary f) : Unpacked :=
  let scale := 2 ^ f.fractionBits
  let field := x.magnitude / scale
  let fraction := x.magnitude % scale
  if field = 2 ^ f.exponentBits - 1 then
    if fraction = 0 then .infinite x.isNegative else .nan
  else if field = 0 then .finite x.isNegative fraction f.leastExponent
  else .finite x.isNegative (fraction + scale) (f.leastExponent + (field - 1 : Nat))

def isNaN (x : Binary f) : Bool :=
  f.infinityBits < x.magnitude

def isInfinite (x : Binary f) : Bool :=
  x.magnitude == f.infinityBits

/-- Numbers are equal when they stand for the same value; the two zeros do. -/
def equal (x y : Binary f) : Bool :=
  !x.isNaN && !y.isNaN && (x.bits == y.bits || (x.magnitude == 0 && y.magnitude == 0))

/-- A quotient rounded to a whole number, a half going to the even neighbour. -/
def divideToEven (num den : Nat) : Nat :=
  let q := num / den
  let r := num % den
  if 2 * r < den then q
  else if den < 2 * r then q + 1
  else q + q % 2

/-- The greatest `k` with `2 ^ k ≤ num / den`, for positive numbers. -/
def floorLog (num den : Nat) : Int :=
  let k : Int := num.log2 - den.log2
  if den * 2 ^ k.toNat ≤ num * 2 ^ (-k).toNat then k else k - 1

/-- The number nearest to a quotient, ties going to the even pattern; a quotient beyond the
range becomes infinite. -/
def ofQuotient (f : BinaryFormat) (negative : Bool) (num den : Nat) : Binary f :=
  let sign := if negative then f.signBit else 0
  if num = 0 then ofBits f sign
  else
    let q := max (floorLog num den - f.fractionBits) f.leastExponent
    let m := divideToEven (num * 2 ^ (-q).toNat) (den * 2 ^ q.toNat)
    let pattern := (q - f.leastExponent).toNat * 2 ^ f.fractionBits + m
    ofBits f (sign + min pattern f.infinityBits)

/-- The number nearest to `mantissa * 2 ^ exponent`. -/
def ofScaled (f : BinaryFormat) (negative : Bool) (mantissa : Nat) (exponent : Int) : Binary f :=
  ofQuotient f negative (mantissa * 2 ^ exponent.toNat) (2 ^ (-exponent).toNat)

def ofInt (f : BinaryFormat) (n : Int) : Binary f :=
  ofQuotient f (n < 0) n.natAbs 1

def infinity (f : BinaryFormat) (negative : Bool) : Binary f :=
  ofBits f ((if negative then f.signBit else 0) + f.infinityBits)

def nan (f : BinaryFormat) : Binary f :=
  ofBits f (f.infinityBits + 2 ^ (f.fractionBits - 1))

def convert (g : BinaryFormat) (x : Binary f) : Binary g :=
  match x.unpack with
  | .nan => nan g
  | .infinite s => infinity g s
  | .finite s m q => ofScaled g s m q

/-- The product of two magnitudes, rounded; an infinite or missing operand counts as zero. -/
def product (x y : Binary f) : Binary f :=
  match x.unpack, y.unpack with
  | .finite _ m q, .finite _ n r => ofScaled f false (m * n) (q + r)
  | _, _ => ofBits f 0

/-- The quotient of two magnitudes, rounded; an infinite or missing operand counts as zero. -/
def quotient (x y : Binary f) : Binary f :=
  match x.unpack, y.unpack with
  | .finite _ m q, .finite _ n r =>
    ofQuotient f false (m * 2 ^ (q - r).toNat) (n * 2 ^ (r - q).toNat)
  | _, _ => ofBits f 0

def negate (x : Binary f) : Binary f :=
  ofBits f (x.bits.val + f.signBit)

end Binary

abbrev Single := Binary .single

abbrev Double := Binary .double

example : (Binary.ofInt .double 1).bits.val = 0x3ff0000000000000 := by decide
example : (Binary.ofQuotient .double false 1 10).bits.val = 0x3fb999999999999a := by decide
example : ((Binary.ofQuotient .double false 1 10).convert .single).bits.val = 0x3dcccccd := by
  decide
example : (Binary.nan .double).equal (Binary.nan .double) = false := by decide

end EntityMapper
