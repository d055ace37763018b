import EntityMapper.Sql.Symbol
import EntityMapper.Sql.Syntax
/-! Readers of parts of statements. A fault names the first symbol that nothing can go on with. -/

namespace EntityMapper.Sql

def reservedWords : List String :=
  ["add", "all", "alter", "and", "as", "autoincrement", "between", "case", "check", "collate",
    "commit", "constraint", "create", "default", "deferrable", "delete", "distinct", "drop",
    "else", "escape", "except", "exists", "foreign", "from", "group", "having", "in", "index",
    "insert", "intersect", "into", "is", "isnull", "join", "limit", "not", "nothing", "notnull",
    "null", "on", "or", "order", "primary", "references", "returning", "select", "set", "table",
    "then", "to", "transaction", "union", "unique", "update", "using", "values", "when", "where"]

/-- Words that can be names but no alias without a word before it. -/
def joinWords : List String :=
  ["cross", "full", "indexed", "inner", "left", "natural", "outer", "right"]

/-- A reader of a part of a statement: it takes symbols from the front. -/
abbrev Parse (α : Type) := StateT (List Symbol) (Except Fault) α

namespace Parse

/-- The fault of a statement that cannot go on with its next symbol. -/
def faultAt : List Symbol → Fault
  | [] => .incomplete
  | s :: _ => if s.kind == .unknown then .unknownSymbol s.text else .syntaxNear s.text

def fail {α : Type} : Parse α := do
  throw (faultAt (← get))

def peek : Parse (Option Symbol) := do
  return (← get).head?

def sees (p : Symbol → Bool) : Parse Bool := do
  return (← peek).any p

/-- Whether the symbol after the next one satisfies a test. -/
def seesSecond (p : Symbol → Bool) : Parse Bool := do
  return (← get)[1]?.any p

def seesWord (w : String) : Parse Bool :=
  sees (·.isWord w)

def seesMark (m : String) : Parse Bool :=
  sees (·.isMark m)

def skip : Parse Unit :=
  modify List.tail

/-- Takes the next symbol if it satisfies a test. -/
def accept (p : Symbol → Bool) : Parse Bool := do
  let found ← sees p
  if found then skip
  return found

/-- Takes the next symbol, which has to satisfy a test. -/
def expect (p : Symbol → Bool) : Parse Unit := do
  if !(← accept p) then fail

def acceptWord (w : String) : Parse Bool :=
  accept (·.isWord w)

def expectWord (w : String) : Parse Unit :=
  expect (·.isWord w)

/-- Takes one of several keywords if one comes next. -/
def acceptAnyWord (ws : List String) : Parse Bool :=
  accept fun s => ws.any (s.isWord ·)

def acceptMark (m : String) : Parse Bool :=
  accept (·.isMark m)

def expectMark (m : String) : Parse Unit :=
  expect (·.isMark m)

def nameOf? (s : Symbol) (excluded : List String) : Option String :=
  match s.kind with
  | .word => if excluded.any (Text.alikeText s.text) then none else some s.text
  | .name n _ => some n
  | .text n => some n
  | _ => none

def name : Parse String := do
  match (← peek).bind (nameOf? · reservedWords) with
  | some n =>
    skip
    return n
  | none => fail

/-- A name that is no word for a join, if one comes next. -/
def plainName? : Parse (Option String) := do
  match (← peek).bind (nameOf? · (reservedWords ++ joinWords)) with
  | some n =>
    skip
    return some n
  | none => return none

/-- A name that is no word for a join. -/
def plainName : Parse String := do
  match ← plainName? with
  | some n => return n
  | none => fail

/-- An alias, with or without the word before it. -/
def aliasName? : Parse (Option String) := do
  if ← acceptWord "as" then some <$> name else plainName?

/-- One or more parts with commas between them, at most as many as the first argument says. -/
def separated {α : Type} (part : Parse α) : Nat → Parse (List α)
  | 0 => fail
  | fuel + 1 => do
    let a ← part
    if ← acceptMark "," then return a :: (← separated part fuel) else return [a]

def list {α : Type} (part : Parse α) : Parse (List α) := do
  separated part ((← get).length + 1)

def inParens {α : Type} (part : Parse α) : Parse α := do
  expectMark "("
  let a ← part
  expectMark ")"
  return a

/-- The text that symbols are written as, with the comments after it. -/
def written (symbols : List Symbol) : String :=
  let text := String.join (symbols.map fun s => s.text ++ s.gap)
  String.ofList (text.toList.reverse.dropWhile Symbol.inGap).reverse

/-- A part with the symbols that it is written as. -/
def withSymbols {α : Type} (part : Parse α) : Parse (α × List Symbol) := do
  let before ← get
  let a ← part
  return (a, before.take (before.length - (← get).length))

def afterWord {α : Type} (w : String) (part : Parse α) : Parse (Option α) := do
  if ← acceptWord w then some <$> part else return none

/-- The number that a symbol is written as, with a minus before it or none. A hexadecimal number
is a pattern of 64 bits. -/
def numberCell (negative : Bool) (text : String) : Cell :=
  let digits := text.toList.filter (· != '_')
  match digits with
  | '0' :: x :: hexadecimal =>
    if x == 'x' || x == 'X' then
      let n := hexadecimal.foldl (fun n c => 16 * n + (Document.hexDigit? c).getD 0) 0
      let n : Int := Int.bmod n (2 ^ 64)
      Cell.ofInt (if negative then -n else n)
    else decimal digits
  | _ => decimal digits
where
  /-- A number in decimal digits. -/
  decimal (digits : List Char) : Cell :=
    (Cell.numberOfText? (String.ofList (if negative then '-' :: digits else digits))).getD .null

/-- Whether a hexadecimal number has more than 64 bits. The least integer is written in no such
way. -/
def isTooBig (negative : Bool) (text : String) : Bool :=
  match text.toList.filter (· != '_') with
  | '0' :: x :: digits =>
    let digits := digits.dropWhile (· == '0')
    (x == 'x' || x == 'X') &&
      (16 < digits.length || (negative && digits == '8' :: List.replicate 15 '0'))
  | _ => false

/-- The number that a symbol is written as, if it is not too big. -/
def numberLiteral (negative : Bool) (text : String) : Parse Cell :=
  if isTooBig negative text then
    throw (.numberTooBig (if negative then "-" ++ text else text))
  else return numberCell negative text

/-- The text of a number symbol, if one comes next. -/
def number? : Parse (Option String) := do
  match ← peek with
  | some ⟨.number, text, _⟩ =>
    skip
    return some text
  | _ => return none

/-- The text of a number with a sign or none. -/
def signedNumber : Parse String := do
  let sign ← if ← acceptMark "-" then pure "-"
    else if ← acceptMark "+" then pure "+"
    else pure ""
  match ← number? with
  | some text => return sign ++ text
  | none => fail

example : numberCell true "9223372036854775808" = .integer ⟨-9223372036854775808, by decide⟩ := by
  decide +kernel
example : numberCell false "0xff" = .integer ⟨255, by decide⟩ := by decide +kernel

end Parse

end EntityMapper.Sql
