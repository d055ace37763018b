import EntityMapper.Number.Binary
/-! Arithmetic on binary floating-point numbers: each result is the exact one, rounded to the
nearest. -/

namespace EntityMapper.Binary

variable {f : BinaryFormat}

def zero (f : BinaryFormat) (negative : Bool) : Binary f :=
  ofQuotient f negative 0 1

def signed (negative : Bool) (m : Nat) : Int :=
  if negative then -m else m

/-- The sum. Opposite numbers make up the positive zero. -/
def add (x y : Binary f) : Binary f :=
  match x.unpack, y.unpack with
  | .nan, _ => nan f
  | _, .nan => nan f
  | .infinite s, .infinite t => if s == t then infinity f s else nan f
  | .infinite s, _ => infinity f s
  | _, .infinite t => infinity f t
  | .finite s m q, .finite t n r =>
    let low := min q r
    let total := signed s m * 2 ^ (q - low).toNat + signed t n * 2 ^ (r - low).toNat
    if total = 0 then zero f (s && t) else ofScaled f (total < 0) total.natAbs low

def sub (x y : Binary f) : Binary f :=
  x.add y.negate

def mul (x y : Binary f) : Binary f :=
  match x.unpack, y.unpack with
  | .nan, _ => nan f
  | _, .nan => nan f
  | .infinite s, .infinite t => infinity f (s != t)
  | .infinite s, .finite t n _ => if n = 0 then nan f else infinity f (s != t)
  | .finite s m _, .infinite t => if m = 0 then nan f else infinity f (s != t)
  | .finite s m q, .finite t n r => ofScaled f (s != t) (m * n) (q + r)

def div (x y : Binary f) : Binary f :=
  match x.unpack, y.unpack with
  | .nan, _ => nan f
  | _, .nan => nan f
  | .infinite _, .infinite _ => nan f
  | .infinite s, .finite t _ _ => infinity f (s != t)
  | .finite s _ _, .infinite t => zero f (s != t)
  | .finite s m q, .finite t n r =>
    if n = 0 then if m = 0 then nan f else infinity f (s != t)
    else ofQuotient f (s != t) (m * 2 ^ (q - r).toNat) (n * 2 ^ (r - q).toNat)

def less (x y : Binary f) : Bool :=
  let d := x.sub y
  !d.isNaN && d.isNegative && d.magnitude != 0

/-- The whole number that is left when the digits after the point are dropped. -/
def truncate? (x : Binary f) : Option Int :=
  match x.unpack with
  | .finite s m q => some (signed s (m * 2 ^ q.toNat / 2 ^ (-q).toNat))
  | _ => none

example : ((ofInt .double 1).add (ofQuotient .double true 1 10)).bits.val = 0x3feccccccccccccd := by
  decide
example : ((ofInt .double 3).mul (ofInt .double (-2))).truncate? = some (-6) := by decide
example : ((infinity .double false).sub (infinity .double false)).isNaN = true := by decide
example : (ofQuotient .double true 7 2).truncate? = some (-3) := by decide +kernel

end EntityMapper.Binary
