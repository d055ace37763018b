import EntityMapper.Document.Basic
import EntityMapper.Number.Reading
/-! Reading a document from its text. -/

namespace EntityMapper.Document

open Text

def isGap (c : Char) : Bool :=
  c == ' ' || c == '\n' || c == '\t' || c == '\r'

def skipGap (cs : List Char) : List Char :=
  cs.dropWhile isGap

def depthLimit : Nat := 127

def hexDigit? (c : Char) : Option Nat :=
  if isAsciiDigit c then some (c.toNat - '0'.toNat)
  else if 'a' ≤ c && c ≤ 'f' then some (c.toNat - 'a'.toNat + 10)
  else if 'A' ≤ c && c ≤ 'F' then some (c.toNat - 'A'.toNat + 10)
  else none

def readUnit : List Char → Option (Nat × List Char)
  | a :: b :: c :: d :: rest => do
    let n := 4096 * (← hexDigit? a) + 256 * (← hexDigit? b) + 16 * (← hexDigit? c)
    return (n + (← hexDigit? d), rest)
  | _ => none

/-- The character of an escape after its backslash. Two units of a pair make one character; a
unit of a pair alone is refused. -/
def readEscape : List Char → Option (Char × List Char)
  | '"' :: rest => some ('"', rest)
  | '\\' :: rest => some ('\\', rest)
  | '/' :: rest => some ('/', rest)
  | 'b' :: rest => some ('\x08', rest)
  | 'f' :: rest => some ('\x0c', rest)
  | 'n' :: rest => some ('\n', rest)
  | 'r' :: rest => some ('\r', rest)
  | 't' :: rest => some ('\t', rest)
  | 'u' :: rest => do
    let (n, rest) ← readUnit rest
    if 0xdc00 ≤ n && n ≤ 0xdfff then none
    else if 0xd800 ≤ n && n ≤ 0xdbff then
      match rest with
      | '\\' :: 'u' :: more => do
        let (m, more) ← readUnit more
        if 0xdc00 ≤ m && m ≤ 0xdfff then
          some (Char.ofNat (0x10000 + (n - 0xd800) * 0x400 + (m - 0xdc00)), more)
        else none
      | _ => none
    else some (Char.ofNat n, rest)
  | _ => none

/-- The characters up to the closing quote. The first argument bounds the number of steps. -/
def readChars : Nat → List Char → Option ((List Char) × List Char)
  | 0, _ => none
  | _, [] => none
  | n + 1, c :: rest =>
    if c = '"' then some ([], rest)
    else if c = '\\' then do
      let (d, rest) ← readEscape rest
      let (ds, rest) ← readChars n rest
      return (d :: ds, rest)
    else if c.toNat < 0x20 then none
    else do
      let (ds, rest) ← readChars n rest
      return (c :: ds, rest)

def readText (cs : List Char) : Option (String × List Char) :=
  (readChars (cs.length + 1) cs).map fun (ds, rest) => (String.ofList ds, rest)

/-- A number text in parts. -/
structure NumberText where
  negative : Bool
  whole : List Char
  fraction : List Char
  /-- The sign and digits of the power of ten. -/
  power : Option (Bool × List Char)

/-- Splits a number text off, without its leading sign. A leading zero stands alone, and digits
follow a point, an `e` and its sign. -/
def readNumberText (negative : Bool) (cs : List Char) : Option (NumberText × List Char) := do
  let whole := cs.takeWhile isAsciiDigit
  let rest := cs.dropWhile isAsciiDigit
  if whole.isEmpty || (whole.head? = some '0' && 1 < whole.length) then none
  let (fraction, rest) ← match rest with
    | '.' :: more =>
      let digits := more.takeWhile isAsciiDigit
      if digits.isEmpty then none else some (digits, more.dropWhile isAsciiDigit)
    | _ => some ([], rest)
  match rest with
  | [] => return (⟨negative, whole, fraction, none⟩, [])
  | e :: more =>
    if e = 'e' || e = 'E' then
      let (minus, more) := match more with
        | '+' :: ds => (false, ds)
        | '-' :: ds => (true, ds)
        | ds => (false, ds)
      let digits := more.takeWhile isAsciiDigit
      if digits.isEmpty then none
      else return (⟨negative, whole, fraction, some (minus, digits)⟩, more.dropWhile isAsciiDigit)
    else return (⟨negative, whole, fraction, none⟩, rest)

/-- The significand takes digits while it stays below this bound. -/
def significandBound : Nat := 2 ^ 64

/-- Takes digits into a significand as long as they fit; gives the digits left over. -/
def takeDigits (significand : Nat) : List Char → Nat × List Char
  | [] => (significand, [])
  | c :: rest =>
    let next := 10 * significand + (c.toNat - '0'.toNat)
    if next < significandBound then takeDigits next rest else (significand, c :: rest)

def tenPower (n : Nat) : Double :=
  .ofQuotient .double false (10 ^ n) 1

/-- A significand times a power of ten, rounded after each floating-point step: one product or
quotient by a power up to `10 ^ 308`, after as many quotients by `10 ^ 308` as it takes. Refused
when it is too great. The first argument bounds the number of steps. -/
def scaleByTen : Nat → Double → Int → Option Double
  | 0, _, _ => some (.ofBits .double 0)
  | n + 1, x, e =>
    if e.natAbs ≤ 308 then
      if 0 ≤ e then
        let y := x.product (tenPower e.natAbs)
        if y.isInfinite then none else some y
      else some (x.quotient (tenPower e.natAbs))
    else if x.magnitude = 0 then some x
    else if 0 ≤ e then none
    else scaleByTen n (x.quotient (tenPower 308)) (e + 308)

def exponentBound : Int := 2 ^ 31 - 1

/-- The floating-point reading of a number text: a significand of at most 64 bits, further digits
only moving the point. -/
def NumberText.toReal (t : NumberText) : Option Double := do
  let (significand, dropped) := takeDigits 0 t.whole
  let (significand, ignored) := takeDigits significand t.fraction
  let shift : Int := dropped.length - (t.fraction.length - ignored.length : Nat)
  let magnitude ← match t.power with
    | none => scaleByTen 4 (.ofInt .double significand) shift
    | some (minus, digits) =>
      let power : Int := Decimal.ofDigits digits
      if exponentBound < power then
        if significand ≠ 0 && !minus then none else some (Binary.ofBits .double 0)
      else
        let power := if minus then -power else power
        scaleByTen 4 (.ofInt .double significand) (shift + power)
  return if t.negative then magnitude.negate else magnitude

/-- The document of a number text: an integer when it is written as one and in range. -/
def NumberText.toDocument (t : NumberText) : Option Document :=
  let n := Decimal.ofDigits t.whole
  if t.fraction.isEmpty && t.power.isNone then
    if !t.negative && n < 2 ^ 64 then some (.integer n)
    else if t.negative && 0 < n && n ≤ 2 ^ 63 then some (.integer (-n))
    else t.toReal.map .real
  else t.toReal.map .real

def readWord (word : List Char) (d : Document) (cs : List Char) : Option (Document × List Char) :=
  if word.isPrefixOf cs then some (d, cs.drop word.length) else none

/-- Items separated by commas up to the closing bracket, after at least one item. The first
argument bounds their number. -/
def readItems (item : List Char → Option (Document × List Char)) :
    Nat → List Char → Option ((List Document) × List Char)
  | 0, _ => none
  | n + 1, cs => do
    let (d, rest) ← item (skipGap cs)
    match skipGap rest with
    | ',' :: more => do
      let (ds, more) ← readItems item n more
      return (d :: ds, more)
    | ']' :: more => return ([d], more)
    | _ => none

def readMember (item : List Char → Option (Document × List Char)) :
    List Char → Option ((String × Document) × List Char)
  | '"' :: cs => do
    let (name, rest) ← readText cs
    match skipGap rest with
    | ':' :: more => do
      let (d, more) ← item (skipGap more)
      return ((name, d), more)
    | _ => none
  | _ => none

/-- Members separated by commas up to the closing brace, after at least one member. The first
argument bounds their number. -/
def readMembers (item : List Char → Option (Document × List Char)) :
    Nat → List Char → Option ((List (String × Document)) × List Char)
  | 0, _ => none
  | n + 1, cs => do
    let (m, rest) ← readMember item (skipGap cs)
    match skipGap rest with
    | ',' :: more => do
      let (ms, more) ← readMembers item n more
      return (m :: ms, more)
    | '\x7d' :: more => return ([m], more)
    | _ => none

/-- A document that starts here. The first argument bounds the nesting. -/
def readDocument : Nat → List Char → Option (Document × List Char)
  | _, [] => none
  | depth, c :: rest =>
    if c = 'n' then readWord "null".toList .null (c :: rest)
    else if c = 't' then readWord "true".toList (.bool true) (c :: rest)
    else if c = 'f' then readWord "false".toList (.bool false) (c :: rest)
    else if c = '"' then (readText rest).map fun (s, rest) => (.text s, rest)
    else if c = '-' then do
      let (t, rest) ← readNumberText true rest
      return (← t.toDocument, rest)
    else if isAsciiDigit c then do
      let (t, rest) ← readNumberText false (c :: rest)
      return (← t.toDocument, rest)
    else match depth with
      | 0 => none
      | depth + 1 =>
        if c = '[' then
          match skipGap rest with
          | ']' :: more => some (.array [], more)
          | _ => (readItems (readDocument depth) (rest.length + 1) rest).map
              fun (ds, rest) => (.array ds, rest)
        else if c = '\x7b' then
          match skipGap rest with
          | '\x7d' :: more => some (.object [], more)
          | _ => (readMembers (readDocument depth) (rest.length + 1) rest).map
              fun (ms, rest) => (ofMembers ms, rest)
        else none

def complete {α : Type} (r : Option (α × List Char)) : Option α :=
  match r with
  | some (a, rest) => if (skipGap rest).isEmpty then some a else none
  | none => none

/-- Reads a text that holds one document and blanks around it. -/
def read (s : String) : Option Document :=
  complete (readDocument depthLimit (skipGap s.toList))

end EntityMapper.Document
