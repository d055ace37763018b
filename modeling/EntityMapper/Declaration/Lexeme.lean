import EntityMapper.Text.Blank
import EntityMapper.Text.WordChar
/-! The lexemes of a declaration: names, numbers, literals, labels and marks. Comments are blank. -/

namespace EntityMapper

open Text

/-- A part of a declaration that is not blank. -/
inductive Lexeme where
  /-- A name or a number. -/
  | word (w : List Char)
  /-- A text or a character as it is written, quotes included. -/
  | literal (s : List Char)
  /-- A name after an apostrophe. -/
  | label (w : List Char)
  | mark (m : List Char)
  deriving DecidableEq

namespace Lexeme

def text : Lexeme → List Char
  | word w => w
  | literal s => s
  | label w => '\'' :: w
  | mark m => m

/-- The length of a quoted text up to the quote that ends it. A backslash takes the character
after it along. -/
def quotedLength (quote : Char) : List Char → Nat
  | [] => 0
  | [_] => 1
  | c :: d :: rest =>
    if c == quote then 1
    else if c == '\\' then 2 + quotedLength quote rest
    else 1 + quotedLength quote (d :: rest)

/-- The length of a raw text up to the quote that is followed by a number of hash marks, which
are counted too. -/
def rawLength (hashes : Nat) : List Char → Nat
  | [] => 0
  | c :: rest =>
    if c == '"' && hashes ≤ (rest.takeWhile (· == '#')).length then 1 + hashes
    else 1 + rawLength hashes rest

/-- The length of a comment after its opening. The first argument counts the comments that are
open around it. -/
def commentLength : Nat → List Char → Nat
  | depth, '*' :: '/' :: rest =>
    match depth with
    | 0 => 2
    | depth + 1 => 2 + commentLength depth rest
  | depth, '/' :: '*' :: rest => 2 + commentLength (depth + 1) rest
  | depth, _ :: rest => 1 + commentLength depth rest
  | _, [] => 0

/-- A blank character or a mark of the direction of writing. -/
def isGap (c : Char) : Bool :=
  isBlank c || c == '\u200e' || c == '\u200f'

/-- The length of the blank characters and comments that a text begins with. The first argument
bounds their number. -/
def gapLength : Nat → List Char → Nat
  | n + 1, '/' :: '/' :: rest =>
    let line := (rest.takeWhile (· != '\n')).length
    2 + line + gapLength n (rest.drop line)
  | n + 1, '/' :: '*' :: rest =>
    let comment := commentLength 0 rest
    2 + comment + gapLength n (rest.drop comment)
  | n + 1, c :: rest => if isGap c then 1 + gapLength n rest else 0
  | _, _ => 0

/-- Characters of names that are no word characters: dots between syllables, old digits and letters
of mathematics. -/
def nameMarks : List CodeRange := CodeRange.ofPairs
  [(0xb7, 0xb7), (0x387, 0x387), (0x1369, 0x1371), (0x19da, 0x19da), (0x2118, 0x2118),
    (0x212e, 0x212e), (0x30fb, 0x30fb), (0xff65, 0xff65)]

def inName (c : Char) : Bool :=
  isWordChar c || CodeRange.covers nameMarks c.toNat

/-- The word at the beginning, or the literal that the word introduces, with its length. -/
def firstWord (cs : List Char) : Lexeme × Nat :=
  let w := cs.takeWhile inName
  let rest := cs.drop w.length
  let start := String.ofList w
  let hashes := (rest.takeWhile (· == '#')).length
  let after := rest.drop hashes
  let literalTo (n : Nat) : Lexeme × Nat := (literal (cs.take n), n)
  if w.head?.any isAsciiDigit then
    match rest with
    | '.' :: d :: more =>
      let n := w.length + 1 + ((d :: more).takeWhile inName).length
      if isAsciiDigit d then (word (cs.take n), n) else (word w, w.length)
    | _ => (word w, w.length)
  else if (start == "b" || start == "c") && rest.head? == some '"' then
    literalTo (w.length + 1 + quotedLength '"' (rest.drop 1))
  else if start == "b" && rest.head? == some '\'' then
    literalTo (w.length + 1 + quotedLength '\'' (rest.drop 1))
  else if (start == "r" || start == "br" || start == "cr") && after.head? == some '"' then
    literalTo (w.length + hashes + 1 + rawLength hashes (after.drop 1))
  else if start == "r" && hashes == 1 then
    let n := w.length + 1 + (after.takeWhile inName).length
    (word (cs.take n), n)
  else (word w, w.length)

def first : List Char → Lexeme × Nat
  | [] => (mark [], 0)
  | c :: rest =>
    if c == '"' then
      let n := 1 + quotedLength '"' rest
      (literal ((c :: rest).take n), n)
    else if c == '\'' then
      match rest with
      | '\\' :: _ =>
        let n := 1 + quotedLength '\'' rest
        (literal ((c :: rest).take n), n)
      | d :: '\'' :: _ => (literal ['\'', d, '\''], 3)
      | _ =>
        let w := rest.takeWhile inName
        (label w, 1 + w.length)
    else if inName c then firstWord (c :: rest)
    else if c == ':' && rest.head? == some ':' then (mark [':', ':'], 2)
    else if c == '-' && rest.head? == some '>' then (mark ['-', '>'], 2)
    else (mark [c], 1)

/-- The lexemes of a text, at most as many as the first argument says. -/
def scan : Nat → List Char → List Lexeme
  | 0, _ => []
  | fuel + 1, cs =>
    let rest := cs.drop (gapLength cs.length cs)
    if rest.isEmpty then []
    else
      let (l, n) := first rest
      l :: scan fuel (rest.drop n)

def ofText (cs : List Char) : List Lexeme :=
  scan cs.length cs

def joined (ls : List Lexeme) : String :=
  String.ofList ((ls.flatMap text).filter (· != ' '))

@[simp] theorem ofText_nil : ofText [] = [] := rfl

@[simp] theorem joined_nil : joined [] = "" := rfl

example : ofText "a /* > */ b'>' 'c' 'd".toList =
    [word ['a'], literal "b'>'".toList, literal "'c'".toList, label ['d']] := by decide +kernel
example : ofText "r#\"a\"b\"# 1.5 r#i".toList =
    [literal "r#\"a\"b\"#".toList, word "1.5".toList, word "r#i".toList] := by decide +kernel

end Lexeme

end EntityMapper
