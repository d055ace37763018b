import EntityMapper.Sql.Table
/-! Estimates of numbers of rows and of costs, on a scale on which ten is a factor of two. -/

namespace EntityMapper.Sql

/-- Ten times the logarithm of a number to the base two. -/
abbrev Estimate := Int

namespace Estimate

/-- The estimate of the numbers from one to seven. -/
def ofDigit : Nat → Estimate
  | 0 | 1 => 0
  | 2 => 10
  | 3 => 16
  | 4 => 20
  | 5 => 23
  | 6 => 26
  | _ => 28

/-- What the three digits after the first one add. -/
def ofEighths (n : Nat) : Estimate :=
  ([0, 2, 3, 5, 6, 7, 8, 9][n % 8]?).getD 0

/-- The estimate of a number, from its four leading digits. -/
def ofNat (n : Nat) : Estimate :=
  if n < 8 then ofDigit n
  else
    let shift := n.log2 - 3
    30 + 10 * (shift : Int) + ofEighths (n / 2 ^ shift)

/-- What the smaller of two estimates adds to the greater one, by their difference. -/
def increments : List Estimate :=
  [10, 10, 9, 9, 8, 8, 7, 7, 7, 6, 6, 6, 5, 5, 5, 4, 4, 4, 4, 3, 3, 3, 3, 3, 3, 2, 2, 2, 2, 2, 2, 2]

def plus (a b : Estimate) : Estimate :=
  let high := max a b
  let gap := (high - min a b).toNat
  high + (if 49 < gap then 0 else if 31 < gap then 1 else (increments[gap]?).getD 0)

def searching (n : Estimate) : Estimate :=
  if n ≤ 10 then 0 else ofNat n.toNat - 33

theorem plus_comm (a b : Estimate) : plus a b = plus b a := by
  simp [plus, Int.max_comm, Int.min_comm]

example : ofNat 20 = 43 ∧ ofNat 28 = 48 ∧ ofNat 1048576 = 200 ∧ searching 200 = 43 := by decide

end Estimate

/-- The number of rows that a table is taken to have. -/
def Table.rowEstimate : Estimate := 200

namespace Column

/-- The digits at the front of the first number in a text. -/
def firstNumber (cs : List Char) : Nat :=
  Decimal.ofDigits ((cs.dropWhile fun c => !c.isDigit).takeWhile Char.isDigit)

/-- What follows the first occurrence of a part in a text, without regard to case. -/
def after? (part : List Char) : List Char → Option (List Char)
  | [] => none
  | c :: rest =>
    if Text.alike ((c :: rest).take part.length) part then some ((c :: rest).drop part.length)
    else after? part rest

def declaredLength (type : String) : Nat :=
  match after? "char".toList type.toList with
  | some rest => firstNumber rest
  | none =>
    match after? "blob".toList type.toList with
    | some ('(' :: rest) => firstNumber rest
    | _ => 16

/-- The size of a column in units of four bytes. -/
def width (c : Column) : Nat :=
  if c.type.isEmpty then 1
  else
    match c.affinity with
    | .text | .blob => min 255 (declaredLength c.type / 4 + 1)
    | _ => 1

end Column

namespace Table

def rowWidth (t : Table) : Estimate :=
  let width := (t.columns.map Column.width).foldl (· + ·) 0
  Estimate.ofNat (4 * (width + if t.key.isSome then 0 else 1))

end Table

namespace Index

def rowWidth (ix : Index) (t : Table) : Estimate :=
  let widths := ix.columns.map fun c => (t.columns[c.column]?.map Column.width).getD 1
  Estimate.ofNat (4 * (widths.foldl (· + ·) 0 + 1))

/-- The number of entries that agree in a number of columns at the front. -/
def agreeing (ix : Index) (count : Nat) : Estimate :=
  if count = 0 then Table.rowEstimate
  else if ix.columns.length < count then 0
  else if count = ix.columns.length && ix.unique.isSome then 0
  else ([33, 32, 30, 28, 26][count - 1]?).getD 23

/-- Whether the columns of the index determine a row even if some are missing. -/
def isStrict (ix : Index) (t : Table) : Bool :=
  ix.unique.isSome &&
    ix.columns.all fun c => t.columns[c.column]?.any fun d => d.notNull.isSome

end Index

end EntityMapper.Sql
