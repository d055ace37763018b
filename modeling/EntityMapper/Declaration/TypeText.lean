import EntityMapper.Declaration.Lexeme
/-! The types of declared fields, read from their lexemes as far as a mapping depends on them: the
path of a type and the arguments of its last segment. -/

namespace EntityMapper

open Text

/-- A kind of brackets. -/
inductive Brackets where
  | round
  | square
  | curly
  /-- Around the arguments of a name. -/
  | arguments
  /-- Around the labels that a type begins with. -/
  | binder
  deriving DecidableEq

namespace Brackets

def opening : Brackets → Char
  | round => '('
  | square => '['
  | curly => '\x7b'
  | arguments => '<'
  | binder => '<'

def closing : Brackets → Char
  | round => ')'
  | square => ']'
  | curly => '\x7d'
  | arguments => '>'
  | binder => '>'

end Brackets

/-- A part of a type: a lexeme or a list in brackets. -/
inductive TypePart where
  | leaf (l : Lexeme)
  | list (kind : Brackets) (parts : List TypePart)

namespace TypePart

def isMark (m : List Char) : TypePart → Bool
  | leaf l => l == .mark m
  | list .. => false

/-- A list whose closing bracket is still to come. -/
structure Unclosed where
  kind : Option Brackets := none
  /-- The parts up to now, the last one first. -/
  parts : List TypePart := []
  /-- Marks for less and greater are no brackets here. -/
  verbatim : Bool := false

namespace Unclosed

/-- The list with one more part. What stands after the semicolon of an array is a value. -/
def add (u : Unclosed) (p : TypePart) : Unclosed :=
  { u with
    parts := p :: u.parts
    verbatim := u.verbatim || (u.kind == some .square && p.isMark [';']) }

/-- The list that a lexeme opens inside of another one. Values are written in curly brackets and
after an exclamation mark. -/
def opened? (u : Unclosed) (l : Lexeme) : Option Unclosed :=
  let invoked := u.parts.head?.any (isMark ['!'])
  match l with
  | .mark ['('] => some { kind := some .round, verbatim := u.verbatim || invoked }
  | .mark ['['] => some { kind := some .square, verbatim := u.verbatim || invoked }
  | .mark ['\x7b'] => some { kind := some .curly, verbatim := true }
  | .mark ['<'] =>
    if u.verbatim then none
    else
      match u.parts with
      | leaf (.word ['f', 'o', 'r']) :: _ => some { kind := some .binder }
      | _ => some { kind := some .arguments }
  | _ => none

def closed? (u : Unclosed) (l : Lexeme) : Option Brackets :=
  u.kind.filter fun k => l == .mark [k.closing]

end Unclosed

/-- Reads lexemes in a list that lies inside of others. -/
def read (u : Unclosed) (around : List Unclosed) : List Lexeme → Option (List TypePart)
  | [] => if around.isEmpty then some u.parts.reverse else none
  | l :: rest =>
    match u.closed? l, around with
    | some k, v :: around => read (v.add (list k u.parts.reverse)) around rest
    | _, _ =>
      match u.opened? l with
      | some v => read v (u :: around) rest
      | none => read (u.add (leaf l)) around rest

/-- The parts that lexemes make up, if all brackets are closed. -/
def ofLexemes? (ls : List Lexeme) : Option (List TypePart) :=
  read {} [] ls

def splitAt {α : Type} (separates : α → Bool) : List α → List (List α)
  | [] => [[]]
  | a :: rest =>
    if separates a then [] :: splitAt separates rest
    else (splitAt separates rest).modifyHead (a :: ·)

/-- The arguments of a list, which a separator may end. -/
def argumentsOf {α : Type} (separates : α → Bool) (as : List α) : List (List α) :=
  match (splitAt separates as).reverse with
  | [] :: rest => rest.reverse
  | parts => parts.reverse

/-- Arguments with commas between them, and behind the last one if that is asked for. -/
def joinArguments (ended : Bool) : List (List Lexeme) → List Lexeme
  | [] => []
  | [a] => if ended then a ++ [.mark [',']] else a
  | a :: rest => a ++ .mark [','] :: joinArguments ended rest

def isLabel : List Lexeme → Bool
  | [.label _] => true
  | _ => false

/-- The lexemes of a list of arguments with the labels first. A comma that stood behind the last
argument of the two kinds stays there. -/
def labelsFirst (pieces : List (List Lexeme)) : List Lexeme :=
  let comma : List Lexeme := [.mark [',']]
  let arguments := (argumentsOf (· == comma) pieces).map List.flatten
  let ended := pieces.getLast? == some comma
  let (labels, others) := arguments.partition isLabel
  joinArguments (ended || (!others.isEmpty && arguments.getLast?.any isLabel)) (labels ++ others)

mutual

def lexemes : TypePart → List Lexeme
  | leaf l => [l]
  | list kind parts =>
    let inner := pieces parts
    .mark [kind.opening] ::
      (if kind == .arguments then labelsFirst inner else inner.flatten) ++ [.mark [kind.closing]]

def pieces : List TypePart → List (List Lexeme)
  | [] => []
  | p :: rest => p.lexemes :: pieces rest

end

/-- Whether a word is a number or a truth value. -/
def isLiteral (w : List Char) : Bool :=
  (w.head?.any isAsciiDigit) || w == "true".toList || w == "false".toList

/-- Whether the parts after a name say that it names a part of the argument list. -/
def namesPart (rest : List TypePart) : Bool :=
  let rest := match rest with
    | list .arguments _ :: more => more
    | rest => rest
  rest.head?.any fun p => p.isMark ['='] || p.isMark [':']

def isTypeArgument : List TypePart → Bool
  | [] => false
  | leaf (.label _) :: rest => rest.head?.any (isMark ['+'])
  | leaf (.literal _) :: _ => false
  | list .curly _ :: _ => false
  | leaf (.mark ['-']) :: _ => false
  | leaf (.word w) :: rest => !isLiteral w && !namesPart rest
  | _ => true

end TypePart

/-- What stands after the name of a path segment. -/
inductive PathArguments where
  | none
  | angled (arguments : List (List TypePart))
  | parenthesized

/-- A segment of a path. -/
structure PathSegment where
  name : List Char
  arguments : PathArguments

/-- A type that is named by a path. -/
structure TypePath where
  /-- The path starts from a type in brackets. -/
  qualified : Bool
  /-- The path starts with a double colon. -/
  rooted : Bool
  segments : List PathSegment

namespace TypePath

/-- Words that start a type that is no path. -/
def otherStarts : List String :=
  ["fn", "unsafe", "extern", "for", "impl", "dyn", "_"]

def angled (parts : List TypePart) : PathArguments :=
  .angled (TypePart.argumentsOf (TypePart.isMark [',']) parts)

/-- The arguments at the start of some parts, with what follows. -/
def readArguments : List TypePart → PathArguments × List TypePart
  | .list .arguments ps :: rest => (angled ps, rest)
  | .leaf (.mark [':', ':']) :: .list .arguments ps :: rest => (angled ps, rest)
  | .list .round _ :: rest =>
    (.parenthesized, if rest.head?.any (TypePart.isMark ['-', '>']) then [] else rest)
  | rest => (.none, rest)

/-- The segments that make up all the parts. The first argument bounds their number. -/
def readSegments : Nat → List TypePart → Option (List PathSegment)
  | 0, _ => none
  | n + 1, .leaf (.word w) :: rest =>
    let (arguments, rest) := readArguments rest
    match rest with
    | [] => some [⟨w, arguments⟩]
    | .leaf (.mark [':', ':']) :: more => do return ⟨w, arguments⟩ :: (← readSegments n more)
    | _ => none
  | _, _ => none

/-- The path that makes up all the parts of a type. -/
def ofParts? (ps : List TypePart) : Option TypePath :=
  match ps with
  | .list .arguments _ :: .leaf (.mark [':', ':']) :: rest =>
    (readSegments rest.length rest).map fun segments => ⟨true, false, segments⟩
  | .leaf (.mark [':', ':']) :: rest =>
    (readSegments rest.length rest).map fun segments => ⟨false, true, segments⟩
  | .leaf (.word w) :: rest =>
    if otherStarts.any (·.toList == w) then none
    else (readSegments (rest.length + 1) (.leaf (.word w) :: rest)).map fun segments =>
      ⟨false, false, segments⟩
  | _ => none

/-- The only segment of a path that is a bare name. -/
def bareName? (p : TypePath) : Option (List Char) :=
  match p.qualified, p.rooted, p.segments with
  | false, false, [⟨w, .none⟩] => some w
  | _, _, _ => none

/-- The only argument of the last segment, if it has a given name and the argument is a type. -/
def argumentOf? (wrapper : String) (p : TypePath) : Option (List TypePart) := do
  let last ← p.segments.getLast?
  if last.name ≠ wrapper.toList then none
  match last.arguments with
  | .angled [a] => if TypePart.isTypeArgument a then some a else none
  | _ => none

end TypePath

abbrev TypeText := List Lexeme

namespace TypeText

/-- The argument of a type whose last segment is a given name with exactly one argument, which is
a type. Labels come first in its lists of arguments. -/
def argumentOf? (wrapper : String) (t : TypeText) : Option TypeText := do
  let path ← TypePath.ofParts? (← TypePart.ofLexemes? t)
  let argument ← path.argumentOf? wrapper
  return (TypePart.pieces argument).flatten

/-- The names of the signed integer types that a version may have. -/
def integralNames : List String :=
  ["i8", "i16", "i32", "i64"]

/-- Whether the type is a signed integer, bare or inside one `Option`. -/
def isIntegral (t : TypeText) : Bool :=
  let inner := (t.argumentOf? "Option").getD t
  (((TypePart.ofLexemes? inner).bind TypePath.ofParts?).bind TypePath.bareName?).any fun w =>
    integralNames.any (·.toList == w)

/-- Whether parameters between a name and its body declare any. -/
def declaresAny : List Lexeme → Bool
  | .mark ['<'] :: rest => rest.head? != some (.mark ['>'])
  | _ => false

end TypeText

example : TypeText.isIntegral (Lexeme.ofText "std::option::Option< i32 >".toList) = true := by
  decide +kernel
example : TypeText.isIntegral (Lexeme.ofText "<T as X>::i32".toList) = false := by decide +kernel
example : (TypeText.argumentOf? "Option" (Lexeme.ofText "Option<A<T, 'a, 3>>".toList)).map
    Lexeme.joined = some "A<'a,T,3>" := by decide +kernel

end EntityMapper
