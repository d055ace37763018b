import EntityMapper.Document.Reader
import EntityMapper.Text.WordChar
/-! The symbols of a statement text. -/

namespace EntityMapper.Sql

/-- What a symbol is. -/
inductive SymbolKind where
  /-- A bare word: a keyword or a name. -/
  | word
  /-- A name in quotes. A loose one may also stand for the text between its quotes. -/
  | name (s : String) (loose : Bool)
  | text (s : String)
  | number
  | bytes (b : List UInt8)
  /-- A place for a parameter: the next one, or the one with a number or with a name. -/
  | place (number : Option Nat)
  | namedPlace
  | mark
  /-- Characters that form no symbol. -/
  | unknown
  deriving DecidableEq

/-- A symbol with the text that it is written as and the blanks after it. -/
structure Symbol where
  kind : SymbolKind
  text : String
  gap : String
  deriving DecidableEq

namespace Symbol

def isGap (c : Char) : Bool :=
  c == ' ' || c == '\t' || c == '\n' || c == '\r' || c == '\x0c'

/-- Characters that a run of blank ones goes on with. -/
def inGap (c : Char) : Bool :=
  isGap c || c == '\x0b'

def beginsWord (c : Char) : Bool :=
  c.isAlpha || c == '_' || 0x80 ≤ c.toNat

def inWord (c : Char) : Bool :=
  beginsWord c || c.isDigit || c == '$'

/-- The characters of a comment that follow its first two, when the comment ends with a star and
a stroke. -/
def commentBody : List Char → List Char
  | '*' :: '/' :: _ => ['*', '/']
  | c :: rest => c :: commentBody rest
  | [] => []

/-- The number of blank characters and characters of comments at the start. -/
def gapLength : Nat → List Char → Nat
  | 0, _ => 0
  | fuel + 1, cs =>
    match cs with
    | '-' :: '-' :: rest =>
      let n := 2 + (rest.takeWhile (· != '\n')).length
      n + gapLength fuel (cs.drop n)
    | '/' :: '*' :: c :: rest =>
      let n := 2 + (commentBody (c :: rest)).length
      n + gapLength fuel (cs.drop n)
    | c :: rest =>
      if isGap c then
        let n := 1 + (rest.takeWhile inGap).length
        n + gapLength fuel (cs.drop n)
      else if c == '\ufeff' then 1 + gapLength fuel rest
      else 0
    | [] => 0

/-- What stands between quotes, in which the closing quote is written twice, with the number of
characters up to and with the quote that closes. -/
def quotedBody (quote : Char) : List Char → Option (List Char × Nat)
  | [] => none
  | c :: rest =>
    if c == quote then
      match rest with
      | d :: more =>
        if d == quote then (quotedBody quote more).map fun (s, n) => (quote :: s, n + 2)
        else some ([], 1)
      | [] => some ([], 1)
    else (quotedBody quote rest).map fun (s, n) => (c :: s, n + 1)

def hexBytes : List Char → Option (List UInt8)
  | [] => some []
  | a :: b :: rest => do
    let high ← Document.hexDigit? a
    let low ← Document.hexDigit? b
    return UInt8.ofNat (16 * high + low) :: (← hexBytes rest)
  | [_] => none

/-- Digits and the lines that may stand between them. -/
def inDigits (c : Char) : Bool :=
  c.isDigit || c == '_'

def numberLength (cs : List Char) : Nat :=
  match cs with
  | '0' :: x :: d :: more =>
    if (x == 'x' || x == 'X') && (Document.hexDigit? d).isSome then
      3 + (more.takeWhile fun c => (Document.hexDigit? c).isSome || c == '_').length
    else decimalLength cs
  | cs => decimalLength cs
where
  /-- The length of a number with digits, a point and an exponent. -/
  decimalLength (cs : List Char) : Nat :=
    let whole := (cs.takeWhile inDigits).length
    let rest := cs.drop whole
    let fraction := match rest with
      | '.' :: more => 1 + (more.takeWhile inDigits).length
      | _ => 0
    let exponent := match rest.drop fraction with
      | e :: more =>
        if e == 'e' || e == 'E' then
          let sign := match more with
            | '+' :: _ => 1
            | '-' :: _ => 1
            | _ => 0
          let digits := more.drop sign
          if digits.head?.any Char.isDigit then 1 + sign + (digits.takeWhile inDigits).length
          else 0
        else 0
      | [] => 0
    whole + fraction + exponent

/-- Whether every line in a number stands between two digits. -/
def linesSeparate : List Char → Bool
  | a :: '_' :: b :: rest =>
    (Document.hexDigit? a).isSome && (Document.hexDigit? b).isSome && linesSeparate (b :: rest)
  | _ :: rest => rest.head? != some '_' && linesSeparate rest
  | [] => true

/-- The length of the name of a place after its first mark, and whether it is one; the first
argument tells whether some of it was seen. A name may have pairs of colons, and end with
parentheses around what is not blank. -/
def placeName : Bool → List Char → Nat × Bool
  | named, [] => (0, named)
  | named, ':' :: ':' :: rest =>
    let (n, whole) := placeName named rest
    (n + 2, whole)
  | named, c :: rest =>
    if c == '(' && named then
      let inside := rest.takeWhile fun d => !(inGap d || d == ')')
      match rest.drop inside.length with
      | ')' :: _ => (inside.length + 2, true)
      | _ => (inside.length + 1, false)
    else if inWord c then
      let (n, whole) := placeName true rest
      (n + 1, whole)
    else (0, named)

/-- A symbol in quotes, or else nothing but characters that form no symbol. -/
def quotedSymbol (quote : Char) (kind : List Char → SymbolKind) (cs : List Char) :
    SymbolKind × Nat :=
  match quotedBody quote cs with
  | some (s, n) => (kind s, n + 1)
  | none => (.unknown, cs.length + 1)

/-- The kind and the length of the symbol that begins here. -/
def first : List Char → SymbolKind × Nat
  | [] => (.unknown, 0)
  | c :: rest =>
    let cs := c :: rest
    if c == '\'' then quotedSymbol '\'' (fun s => .text (String.ofList s)) rest
    else if c == '"' then quotedSymbol '"' (fun s => .name (String.ofList s) true) rest
    else if c == '\x60' then quotedSymbol '\x60' (fun s => .name (String.ofList s) false) rest
    else if c == '[' then
      let s := rest.takeWhile (· != ']')
      if s.length < rest.length then (.name (String.ofList s) false, s.length + 2)
      else (.unknown, cs.length)
    else if c == '?' then
      let digits := rest.takeWhile Char.isDigit
      (.place ((String.ofList digits).toNat?), digits.length + 1)
    else if c.isDigit || (c == '.' && rest.head?.any Char.isDigit) then
      let n := numberLength cs
      let tail := (cs.drop n).takeWhile inWord
      if tail.isEmpty && linesSeparate (cs.take n) then (.number, n)
      else (.unknown, n + tail.length)
    else if c == '$' || c == '@' || c == '#' || c == ':' then
      let (n, whole) := placeName false rest
      (if whole then .namedPlace else .unknown, n + 1)
    else if (c == 'x' || c == 'X') && rest.head? == some '\'' then
      let digits := (rest.drop 1).takeWhile (· != '\'')
      match hexBytes digits, (rest.drop (1 + digits.length)).head? with
      | some b, some _ => (.bytes b, digits.length + 3)
      | _, _ => (.unknown, digits.length + 3)
    else if beginsWord c then (.word, (cs.takeWhile inWord).length)
    else
      let pair := String.ofList (cs.take 2)
      if pair == "->" then (.mark, if cs[2]? == some '>' then 3 else 2)
      else if ["==", "<=", "<>", "<<", ">=", ">>", "!=", "||"].contains pair then (.mark, 2)
      else if "();+-*/%=<>|,&~.".toList.contains c then (.mark, 1)
      else (.unknown, 1)

/-- The symbols of a text that begins with one, at most as many as the first argument says. -/
def scan : Nat → List Char → List Symbol
  | 0, _ => []
  | fuel + 1, cs =>
    if cs.isEmpty then []
    else
      let (kind, n) := first cs
      let rest := cs.drop n
      let gap := gapLength rest.length rest
      ⟨kind, String.ofList (cs.take n), String.ofList (rest.take gap)⟩ :: scan fuel (rest.drop gap)

def ofText (s : String) : List Symbol :=
  let cs := s.toList
  scan cs.length (cs.drop (gapLength cs.length cs))

/-- Whether the symbol is a given keyword, in any case of its letters. -/
def isWord (s : Symbol) (keyword : String) : Bool :=
  s.kind == .word && Text.alikeText s.text keyword

def isMark (s : Symbol) (mark : String) : Bool :=
  s.kind == .mark && s.text == mark

example : (ofText "@a(b) $c::d :").map (·.kind) = [.namedPlace, .namedPlace, .unknown] := by
  decide +kernel
example : (ofText "a \x0b b\x0b").map (·.kind) = [.word, .word, .unknown] := by decide +kernel
example : (ofText "a<='x''y' -- c").map (·.kind) = [.word, .mark, .text "x'y"] := by
  decide +kernel

end Symbol

end EntityMapper.Sql
