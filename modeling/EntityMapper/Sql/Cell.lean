import EntityMapper.Document.Printer
import EntityMapper.Number.Arithmetic
import EntityMapper.Value.Show
/-! Cells: what a table holds in one place, and their order. -/

namespace EntityMapper.Sql

/-- What a table holds in one place. A real cell is never the pattern that stands for no number. -/
inductive Cell where
  | null
  | integer (n : SizedInt .big)
  | real (x : Double)
  | text (s : String)
  | blob (b : List UInt8)
  deriving DecidableEq, Inhabited

/-- A way to compare texts. -/
inductive Collation where
  | binary
  /-- Without regard to the case of ASCII letters. -/
  | caseless
  /-- Without regard to spaces at the end. -/
  | trimmed
  deriving DecidableEq

namespace Collation

/-- The order of elements that have a decidable less-than and equality. -/
def orderBy {α : Type} [LT α] [DecidableEq α] [DecidableLT α] (a b : α) : Ordering :=
  if a < b then .lt else if a = b then .eq else .gt

def withoutSpaces (s : String) : String :=
  String.ofList (s.toList.reverse.dropWhile (· == ' ')).reverse

def key : Collation → String → String
  | binary, s => s
  | caseless, s => String.ofList (s.toList.map Char.toLower)
  | trimmed, s => withoutSpaces s

/-- The order of texts, by the code points of what is compared. -/
def order (c : Collation) (s t : String) : Ordering :=
  orderBy (c.key s) (c.key t)

/-- The way to compare that has a given name. -/
def ofName? (name : String) : Option Collation :=
  if Text.alikeText name "binary" then some binary
  else if Text.alikeText name "nocase" then some caseless
  else if Text.alikeText name "rtrim" then some trimmed
  else none

end Collation

namespace Cell

/-- A real cell, or a missing one for the pattern that stands for no number. -/
def ofDouble (x : Double) : Cell :=
  if x.isNaN then .null else .real x

/-- An integer cell, or a real one beyond the range of 64 bits. -/
def ofInt (n : Int) : Cell :=
  match SizedInt.ofInt? .big n with
  | some n => .integer n
  | none => .real (.ofInt .double n)

def ofBool (b : Bool) : Cell :=
  .integer (if b then ⟨1, IntWidth.big.holds_one⟩ else ⟨0, IntWidth.big.holds_zero⟩)

def ofValue : Value → Cell
  | .null => .null
  | .bool b => ofBool b
  | .integer _ n => .integer n.widen
  | .single x => ofDouble (x.convert .double)
  | .double x => ofDouble x
  | .decimal s => .text s
  | .text s => .text s
  | .bytes b => .blob b
  | .document d => .text d.render

/-- The value that a cell reads back as. Integers take 32 bits if they fit and else 64. -/
def toValue : Cell → Value
  | .null => .null
  | .integer n =>
    match SizedInt.ofInt? .medium n.val with
    | some m => .integer .medium m
    | none => .integer .big n
  | .real x => .double x
  | .text s => .text s
  | .blob b => .bytes b

def isNull : Cell → Bool
  | .null => true
  | _ => false

/-- A number as a quotient, or an infinity by its sign. -/
inductive Magnitude where
  | infinite (negative : Bool)
  | quotient (num : Int) (den : Nat)

def magnitude? : Cell → Option Magnitude
  | .integer n => some (.quotient n.val 1)
  | .real x =>
    match x.unpack with
    | .nan => none
    | .infinite s => some (.infinite s)
    | .finite s m q => some (.quotient (Binary.signed s (m * 2 ^ q.toNat)) (2 ^ (-q).toNat))
  | _ => none

def Magnitude.order : Magnitude → Magnitude → Ordering
  | .infinite a, .infinite b => if a == b then .eq else if a then .lt else .gt
  | .infinite a, .quotient .. => if a then .lt else .gt
  | .quotient .., .infinite b => if b then .gt else .lt
  | .quotient a m, .quotient b n => compare (a * n) (b * m)

/-- The order of cells: missing ones, numbers, texts as they are compared, bytes. -/
def order (c : Collation) (a b : Cell) : Ordering :=
  match a, b with
  | .null, .null => .eq
  | .null, _ => .lt
  | _, .null => .gt
  | .text s, .text t => c.order s t
  | .blob s, .blob t => Collation.orderBy s t
  | .text _, .blob _ => .lt
  | .blob _, .text _ => .gt
  | a, b =>
    match a.magnitude?, b.magnitude? with
    | some m, some n => m.order n
    | some _, none => .lt
    | none, some _ => .gt
    | none, none => .eq

/-- Whether two cells are equal, neither of them missing. -/
def agrees (c : Collation) (a b : Cell) : Bool :=
  !a.isNull && !b.isNull && a.order c b == .eq

@[simp] theorem ofValue_null : ofValue .null = .null := rfl

@[simp] theorem toValue_null : toValue .null = .null := rfl

@[simp] theorem ofValue_text (s : String) : ofValue (.text s) = .text s := rfl

@[simp] theorem toValue_text (s : String) : toValue (.text s) = .text s := rfl

example : Collation.caseless.order "Ada" "aDA" = .eq := by decide +kernel
example : Collation.trimmed.order "a  " "a" = .eq := by decide +kernel
example : (ofInt 3).order .binary (.real (.ofQuotient .double false 7 2)) = .lt := by
  decide +kernel

end Cell

end EntityMapper.Sql
