import EntityMapper.Sql.Affinity
import EntityMapper.Sql.Pattern
import EntityMapper.Sql.Syntax
/-! Functions on cells. -/

namespace EntityMapper.Sql

/-- A function of the cells of one row. -/
inductive ScalarFunction where
  | absolute
  | characters
  | firstPresent
  | glob
  | hexadecimal
  | choice
  | position
  | length
  | like
  | lower
  | upper
  | trimLeft
  | trimRight
  | trim
  | greatest
  | least
  | nullIf
  | byteLength
  | quote
  | replace
  | round
  | sign
  | part
  | typeName
  | codePoint
  | concat
  | join
  /-- A hint, which gives its first argument. -/
  | hint
  deriving DecidableEq

/-- A function of the cells of many rows. -/
inductive AggregateFunction where
  | count
  | sum
  | total
  | average
  | least
  | greatest
  | join
  deriving DecidableEq

/-- A function with how it treats rows. -/
inductive Function where
  | scalar (f : ScalarFunction)
  | aggregate (f : AggregateFunction) (distinct : Bool)
  deriving DecidableEq

namespace ScalarFunction

/-- The functions by name, with the numbers of arguments that they take. -/
def table : List (String × ScalarFunction × Nat × Option Nat) :=
  [("abs", absolute, 1, some 1), ("char", characters, 0, none),
    ("coalesce", firstPresent, 2, none), ("ifnull", firstPresent, 2, some 2),
    ("glob", glob, 2, some 2), ("hex", hexadecimal, 1, some 1),
    ("iif", choice, 2, none), ("if", choice, 2, none), ("instr", position, 2, some 2),
    ("length", length, 1, some 1), ("like", like, 2, some 3), ("lower", lower, 1, some 1),
    ("upper", upper, 1, some 1), ("ltrim", trimLeft, 1, some 2), ("rtrim", trimRight, 1, some 2),
    ("trim", trim, 1, some 2), ("max", greatest, 2, none), ("min", least, 2, none),
    ("nullif", nullIf, 2, some 2), ("octet_length", byteLength, 1, some 1),
    ("quote", quote, 1, some 1), ("replace", replace, 3, some 3), ("round", round, 1, some 2),
    ("sign", sign, 1, some 1), ("substr", part, 2, some 3), ("substring", part, 2, some 3),
    ("typeof", typeName, 1, some 1), ("unicode", codePoint, 1, some 1),
    ("concat", concat, 1, none), ("concat_ws", join, 2, none), ("likely", hint, 1, some 1),
    ("unlikely", hint, 1, some 1), ("likelihood", hint, 2, some 2)]

def compares : ScalarFunction → Bool
  | greatest | least | nullIf => true
  | _ => false

end ScalarFunction

namespace AggregateFunction

/-- The functions by name, with the numbers of arguments that they take. -/
def table : List (String × AggregateFunction × Nat × Nat) :=
  [("count", count, 0, 1), ("sum", sum, 1, 1), ("total", total, 1, 1), ("avg", average, 1, 1),
    ("min", least, 1, 1), ("max", greatest, 1, 1), ("group_concat", join, 1, 2),
    ("string_agg", join, 2, 2)]

end AggregateFunction

namespace Function

/-- The function of a name for a number of arguments. -/
def find (f : FunctionName) (count : Nat) : Except Fault Function :=
  let alike {α : Type} (entry : String × α) : Bool := Text.alikeText entry.1 f.name
  let aggregate := AggregateFunction.table.find? fun e =>
    alike e && e.2.2.1 ≤ count && count ≤ e.2.2.2
  let scalar := ScalarFunction.table.find? fun e =>
    alike e && e.2.2.1 ≤ count && e.2.2.2.all (count ≤ ·)
  let known := AggregateFunction.table.any alike || ScalarFunction.table.any alike
  match aggregate, scalar with
  | some (_, g, _, _), _ =>
    if f.distinct && count != 1 then .error .distinctArguments
    else if f.star && g != .count then .error (.argumentCount f.name)
    else .ok (.aggregate g f.distinct)
  | none, some (_, g, _, _) =>
    if f.star then .error (.argumentCount f.name) else .ok (.scalar g)
  | none, none =>
    .error (if f.isRow then .misusedRow
      else if known then .argumentCount f.name
      else if Text.alikeText f.name "match" then .noMatching
      else .noFunction f.name)

end Function

namespace Cell

def charsOf (c : Cell) : List Char :=
  (textOf c).toList

def ofChars (cs : List Char) : Cell :=
  .text (String.ofList cs)

def bytesOf : Cell → List UInt8
  | .blob b => b
  | c => (textOf c).toUTF8.toList

def hexText (b : List UInt8) : List Char :=
  b.flatMap fun x =>
    let digits := (Nat.toDigits 16 x.toNat).map Char.toUpper
    if digits.length < 2 then '0' :: digits else digits

/-- The first place of a list in another one, counted from a given number; zero if there is
none. -/
def firstPlace {α : Type} [DecidableEq α] (part : List α) (count : Nat) : List α → Nat
  | [] => if part.isEmpty then count else 0
  | a :: l => if part.isPrefixOf (a :: l) then count else firstPlace part (count + 1) l

/-- A list with every occurrence of a part replaced, from left to right. The first argument bounds
its length. -/
def replaceAll (part other : List Char) : Nat → List Char → List Char
  | 0, cs => cs
  | _ + 1, [] => []
  | fuel + 1, c :: cs =>
    if (c :: cs).take part.length == part then
      other ++ replaceAll part other fuel ((c :: cs).drop part.length)
    else c :: replaceAll part other fuel cs

/-- A part of a list by its first place, counted from one or from the end, and its length, which
may be counted backwards. -/
def slice {α : Type} (start : Int) (length : Option Int) (l : List α) : List α :=
  let size : Int := l.length
  let backwards := length.any (· < 0)
  let count : Int := (length.map fun n => (n.natAbs : Int)).getD (size + 1)
  let (first, count) : Int × Int :=
    if start < 0 then
      if start + size < 0 then (0, max 0 (count + start + size)) else (start + size, count)
    else if 0 < start then (start - 1, count)
    else (0, if 0 < count then count - 1 else count)
  let (first, count) : Int × Int :=
    if backwards then
      if first < count then (0, first) else (first - count, count)
    else (first, count)
  (l.drop first.toNat).take count.toNat

def trimFront (set : List Char) (cs : List Char) : List Char :=
  cs.dropWhile set.contains

def trimBack (set : List Char) (cs : List Char) : List Char :=
  (trimFront set cs.reverse).reverse

/-- A cell as it is written in a statement. -/
def written : Cell → String
  | .null => "NULL"
  | .text s => String.ofList ('\'' :: s.toList.flatMap (fun c =>
      if c == '\'' then ['\'', '\''] else [c]) ++ ['\''])
  | .blob b => String.ofList ('X' :: '\'' :: hexText b ++ ['\''])
  | c => textOf c

/-- A real number with a number of digits after its point, halves away from zero. -/
def rounded (x : Double) (places : Nat) : Double :=
  match (Cell.real x).magnitude? with
  | some (.quotient num den) =>
    if (2 ^ 52 : Int) * den ≤ num.natAbs then x
    else
      let scale := 10 ^ places
      let n := (2 * num.natAbs * scale + den) / (2 * den)
      let d : Decimal := ⟨n, -(places : Int)⟩
      d.scaled x.isNegative
  | _ => x

/-- The least or greatest of cells that are all there. -/
def extreme (c : Collation) (wanted : Ordering) : List Cell → Cell
  | [] => .null
  | a :: rest => rest.foldl (fun best b => if b.order c best == wanted then b else best) a

def kindName : Cell → String
  | .null => "null"
  | .integer _ => "integer"
  | .real _ => "real"
  | .text _ => "text"
  | .blob _ => "blob"

end Cell

namespace ScalarFunction

open Cell

def absoluteOf (c : Cell) : Except Fault Cell :=
  match c with
  | .null => .ok .null
  | .integer n => if n.val == -2 ^ 63 then .error .overflow else .ok (ofInt n.val.natAbs)
  | c =>
    let x := c.doubleOf
    .ok (ofDouble (if x.isNegative then x.negate else x))

/-- Whether a text is like a pattern, both in cells. -/
def likeCell (pattern text : Cell) (escape : Option Cell) : Except Fault Cell :=
  match escape with
  | none =>
    if pattern.isNull || text.isNull then .ok .null
    else .ok (ofBool (PatternPart.alike (textOf pattern) (textOf text) none))
  | some e =>
    if e.isNull then .ok .null
    else match charsOf e with
    | [c] =>
      if pattern.isNull || text.isNull then .ok .null
      else .ok (ofBool (PatternPart.alike (textOf pattern) (textOf text) (some c)))
    | _ => .error .escapeLength

def partOf (c start : Cell) (length : Option Cell) : Cell :=
  if c.isNull || start.isNull || length.any (·.isNull) then .null
  else
    let count := length.map fun l => l.integerOf.val
    match c with
    | .blob b => .blob (slice start.integerOf.val count b)
    | c => ofChars (slice start.integerOf.val count (charsOf c))

def trimmed (front back : Bool) (c : Cell) (set : Option Cell) : Cell :=
  if c.isNull || set.any (·.isNull) then .null
  else
    let set := (set.map charsOf).getD [' ']
    let cs := if front then trimFront set (charsOf c) else charsOf c
    ofChars (if back then trimBack set cs else cs)

/-- A number rounded to a number of digits after its point. -/
def roundedCell (c : Cell) (places : Cell) : Cell :=
  match c.numberOf, places with
  | .null, _ => .null
  | _, .null => .null
  | .integer n, _ => .real (.ofInt .double n.val)
  | c, p => ofDouble (rounded c.doubleOf (min 30 p.integerOf.val.toNat))

/-- The sign of a number; what is no number has none. -/
def signOf (c : Cell) : Cell :=
  match c.adapt .numeric with
  | .integer n => ofInt n.val.sign
  | .real x => ofInt (if x.magnitude = 0 then 0 else if x.isNegative then -1 else 1)
  | _ => .null

def apply (c : Collation) (f : ScalarFunction) (args : List Cell) : Except Fault Cell :=
  let unlessNull (result : Cell) : Except Fault Cell :=
    .ok (if args.any (·.isNull) then .null else result)
  match f, args with
  | absolute, [a] => absoluteOf a
  | characters, cs => .ok (ofChars (cs.map fun c => Char.ofNat c.integerOf.val.toNat))
  | firstPresent, cs => .ok ((cs.find? fun c => !c.isNull).getD .null)
  | glob, [p, s] => unlessNull (ofBool (PatternPart.globs (textOf p) (textOf s)))
  | hexadecimal, [a] => .ok (ofChars (hexText (bytesOf a)))
  | position, [.blob s, .blob p] => .ok (ofInt (firstPlace p 1 s))
  | position, [s, p] => unlessNull (ofInt (firstPlace (charsOf p) 1 (charsOf s)))
  | length, [.blob b] => .ok (ofInt b.length)
  | length, [a] => unlessNull (ofInt ((charsOf a).takeWhile (· != '\x00')).length)
  | like, [p, s] => likeCell p s none
  | like, [p, s, e] => likeCell p s (some e)
  | lower, [a] => unlessNull (ofChars ((charsOf a).map Char.toLower))
  | upper, [a] => unlessNull (ofChars ((charsOf a).map Char.toUpper))
  | trimLeft, [a] => .ok (trimmed true false a none)
  | trimLeft, [a, s] => .ok (trimmed true false a (some s))
  | trimRight, [a] => .ok (trimmed false true a none)
  | trimRight, [a, s] => .ok (trimmed false true a (some s))
  | trim, [a] => .ok (trimmed true true a none)
  | trim, [a, s] => .ok (trimmed true true a (some s))
  | greatest, cs => unlessNull (extreme c .gt cs)
  | least, cs => unlessNull (extreme c .lt cs)
  | nullIf, [a, b] => .ok (if a.order c b == .eq then .null else a)
  | byteLength, [a] => unlessNull (ofInt (bytesOf a).length)
  | quote, [a] => .ok (.text a.written)
  | replace, [a, old, new] =>
    unlessNull (if (charsOf old).isEmpty then .text (textOf a)
      else ofChars (replaceAll (charsOf old) (charsOf new) (charsOf a).length (charsOf a)))
  | round, [a] => .ok (roundedCell a (ofInt 0))
  | round, [a, places] => .ok (roundedCell a places)
  | sign, [a] => .ok (signOf a)
  | part, [a, start] => .ok (partOf a start none)
  | part, [a, start, n] => .ok (partOf a start (some n))
  | typeName, [a] => .ok (.text a.kindName)
  | codePoint, [a] => .ok (((charsOf a).head?.map fun ch => ofInt ch.toNat).getD .null)
  | concat, cs => .ok (.text (String.join (cs.map textOf)))
  | join, s :: cs =>
    .ok (if s.isNull then .null
      else .text ((textOf s).intercalate ((cs.filter fun a => !a.isNull).map textOf)))
  | hint, a :: _ => .ok a
  | _, _ => .ok .null

end ScalarFunction

/-- A sum that is kept exactly as long as it can be. -/
structure RunningSum where
  whole : Int := 0
  /-- The sum in floating point with what rounding lost of it. -/
  inexact : Option (Double × Double) := none
  /-- The sum of integers went beyond 64 bits. -/
  overflown : Bool := false

namespace RunningSum

open Cell

/-- A number added to a sum and to what rounding lost of it. -/
def addReal (s : Double × Double) (x : Double) : Double × Double :=
  let (sum, lost) := s
  let next := sum.add x
  let size (y : Double) := if y.isNegative then y.negate else y
  let error := if (size x).less (size sum) then (sum.sub next).add x else (x.sub next).add sum
  (next, lost.add error)

/-- An integer added to a sum, in two parts if it has more digits than a real number. -/
def addInteger (s : Double × Double) (n : Int) : Double × Double :=
  if n.natAbs < 2 ^ 52 then addReal s (.ofInt .double n)
  else
    let small := n.tmod 16384
    addReal (addReal s (.ofInt .double (n - small))) (.ofInt .double small)

/-- The sum in floating point from its exact value. -/
def start (n : Int) : Double × Double :=
  let zero : Double × Double := (.zero .double false, .zero .double false)
  if n.natAbs < 2 ^ 52 then (.ofInt .double n, .zero .double false) else addInteger zero n

/-- The integer that a cell is, or that a text is written as. -/
def wholeOf? : Cell → Option (SizedInt .big)
  | .integer n => some n
  | .text s =>
    match numberOfText? s with
    | some (.integer n) => some n
    | _ => none
  | _ => none

def add (s : RunningSum) (c : Cell) : RunningSum :=
  match wholeOf? c, s.inexact with
  | some n, none =>
    if (SizedInt.ofInt? .big (s.whole + n.val)).isSome then { s with whole := s.whole + n.val }
    else { s with inexact := some (addInteger (start s.whole) n.val), overflown := true }
  | some n, some x => { s with inexact := some (addInteger x n.val) }
  | none, none => { s with inexact := some (addReal (start s.whole) c.doubleOf) }
  | none, some x => { s with inexact := some (addReal x c.doubleOf), overflown := false }

def ofList (cs : List Cell) : RunningSum :=
  cs.foldl add {}

def toDouble (s : RunningSum) : Double :=
  match s.inexact with
  | none => .ofInt .double s.whole
  | some (sum, lost) => if lost.isNaN || lost.isInfinite then sum else sum.add lost

/-- The sum: an integer if all that was added was one. -/
def toCell (s : RunningSum) : Except Fault Cell :=
  if s.overflown then .error .overflow
  else if s.inexact.isSome then .ok (ofDouble s.toDouble)
  else .ok (ofInt s.whole)

end RunningSum

namespace AggregateFunction

open Cell

/-- What the function gives for its arguments on many rows. -/
def apply (c : Collation) (f : AggregateFunction) (rows : List (List Cell)) : Except Fault Cell :=
  let present := (rows.filterMap List.head?).filter fun c => !c.isNull
  match f with
  | count => .ok (ofInt (rows.filter fun row => row.head?.all fun c => !c.isNull).length)
  | sum => if present.isEmpty then .ok .null else (RunningSum.ofList present).toCell
  | total => .ok (ofDouble (RunningSum.ofList present).toDouble)
  | average =>
    let sum := (RunningSum.ofList present).toDouble
    .ok (if present.isEmpty then .null else ofDouble (sum.div (.ofInt .double present.length)))
  | least => .ok (extreme c .lt present)
  | greatest => .ok (extreme c .gt present)
  | join =>
    let pairs := rows.filter fun row => row.head?.any fun c => !c.isNull
    let parts := pairs.zipIdx.flatMap fun (row, i) =>
      let own := (row.head?.map textOf).getD ""
      if i = 0 then [own] else [(row[1]?.map textOf).getD ",", own]
    .ok (if pairs.isEmpty then .null else .text (String.join parts))

end AggregateFunction

example : (ScalarFunction.part.apply .binary
    [.text "entity", Cell.ofInt (-3), Cell.ofInt 2]).toOption = some (.text "it") := by
  decide +kernel
example : (AggregateFunction.count.apply .binary [[.null], [.text "a"]]).toOption =
    some (Cell.ofInt 1) := by decide +kernel

end EntityMapper.Sql
