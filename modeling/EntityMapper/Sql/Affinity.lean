import EntityMapper.Sql.Numeral
/-! The affinity of a column for one kind of cell. -/

namespace EntityMapper.Sql

/-- The kind of cell that a column turns other cells into where it can. -/
inductive Affinity where
  | integer
  | real
  | numeric
  | text
  | blob
  deriving DecidableEq

namespace Affinity

/-- Whether a text has another one in it, without regard to case. -/
def hasPart (part : List Char) : List Char → Bool
  | [] => part.isEmpty
  | c :: rest => Text.alike ((c :: rest).take part.length) part || hasPart part rest

/-- `hasPart` on strings. -/
def mentions (s part : String) : Bool :=
  hasPart part.toList s.toList

def ofTypeName (s : String) : Affinity :=
  if mentions s "int" then integer
  else if mentions s "char" || mentions s "clob" || mentions s "text" then text
  else if mentions s "blob" || s.isEmpty then blob
  else if mentions s "real" || mentions s "floa" || mentions s "doub" then real
  else numeric

/-- The affinity that a type written in an expression asks for. -/
def ofCastName (s : String) : Affinity :=
  if s.isEmpty then numeric else ofTypeName s

def isNumeric : Affinity → Bool
  | integer | real | numeric => true
  | text | blob => false

@[simp] theorem ofTypeName_empty : ofTypeName "" = blob := by decide

end Affinity

namespace Cell

/-- A real number that is an integer strictly within the range of 64 bits. -/
def wholeOfReal? (x : Double) : Option (SizedInt .big) :=
  match (Cell.real x).magnitude? with
  | some (.quotient num den) =>
    if num % den == 0 && (num / den).natAbs < 2 ^ 63 - 1 then SizedInt.ofInt? .big (num / den)
    else none
  | _ => none

/-- The real cell of a column for reals. Such a column keeps whole numbers as integers, so its
zero has no sign. -/
def realInPlace (x : Double) : Cell :=
  .real (if x.magnitude = 0 then .ofInt .double 0 else x)

/-- The cell that a column of an affinity makes of a cell. -/
def adapt (a : Affinity) (c : Cell) : Cell :=
  match a, c with
  | .blob, c => c
  | .text, .integer n => .text (showInt n.val)
  | .text, .real x => .text (textOfReal x)
  | .text, c => c
  | .real, .integer n => .real (.ofInt .double n.val)
  | .real, .text s =>
    match numberOfText? s with
    | some (.integer n) => .real (.ofInt .double n.val)
    | some (.real x) => realInPlace x
    | some c => c
    | none => .text s
  | .real, .real x => realInPlace x
  | .real, c => c
  | _, .text s =>
    match numberOfText? s with
    | some (.real x) => ((wholeOfReal? x).map .integer).getD (.real x)
    | some c => c
    | none => .text s
  | _, .real x => ((wholeOfReal? x).map .integer).getD (.real x)
  | _, c => c

/-- The text in a cell, a blob read as one. -/
def textOf (c : Cell) : String :=
  (text? c).getD ""

/-- The whole part of a real number, held within the range of 64 bits. -/
def integerOfReal (x : Double) : SizedInt .big :=
  let held (n : Int) : SizedInt .big :=
    (SizedInt.ofInt? .big n).getD
      (if n < 0 then ⟨-9223372036854775808, IntWidth.holds_least⟩
        else ⟨9223372036854775807, IntWidth.holds_greatest⟩)
  match x.truncate? with
  | some n => held n
  | none => held (if x.isNegative then -2 ^ 63 else 2 ^ 63)

/-- The integer that a cell counts as in arithmetic on bits. -/
def integerOf : Cell → SizedInt .big
  | .null => ⟨0, IntWidth.big.holds_zero⟩
  | .integer n => n
  | .real x => integerOfReal x
  | .text s => integerAtFront s
  | .blob b => integerAtFront (textOf (.blob b))

/-- The number that a cell counts as in arithmetic. -/
def numberOf : Cell → Cell
  | .text s => numberAtFront s
  | .blob b => numberAtFront (textOf (.blob b))
  | c => c

def doubleOf (c : Cell) : Double :=
  match c.numberOf with
  | .integer n => .ofInt .double n.val
  | .real x => x
  | _ => .zero .double false

def cast (a : Affinity) (c : Cell) : Cell :=
  match c, a with
  | .null, _ => .null
  | .blob b, .blob => .blob b
  | c, .blob => .blob (textOf c).toUTF8.toList
  | .blob b, .text => .text (textOf (.blob b))
  | c, .text => c.adapt .text
  | c, .integer => .integer c.integerOf
  | c, .real => .real c.doubleOf
  | .text s, .numeric => (numberAtFront s).adapt .numeric
  | .blob b, .numeric => (numberAtFront (textOf (.blob b))).adapt .numeric
  | c, .numeric => c

/-- A cell as a truth value: a number other than zero. -/
def truth? (c : Cell) : Option Bool :=
  match c.numberOf with
  | .null => none
  | .integer n => some (n.val != 0)
  | .real x => some (x.magnitude != 0)
  | _ => some false

example : (Cell.text " 12 ").adapt .integer = .integer ⟨12, by decide⟩ := by decide +kernel
example : (Cell.text "1.50").adapt .numeric = .real (.ofQuotient .double false 3 2) := by
  decide +kernel
example : (Cell.real (.ofBits .double (2 ^ 63))).adapt .real = .real (.ofBits .double 0) := by
  decide +kernel
example : (Cell.text "12abc").cast .integer = .integer ⟨12, by decide⟩ := by decide +kernel
example : truth? (.text "1abc") = some true := by decide +kernel

end Cell

end EntityMapper.Sql
