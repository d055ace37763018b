import EntityMapper.Document.Basic
import EntityMapper.Number.Shortest
import EntityMapper.Text.Quoted
/-! The compact text of a document. -/

namespace EntityMapper.Document

/-- The written form of one character inside a document's text. -/
def escapeChar (c : Char) : List Char :=
  if c = '"' then ['\\', '"']
  else if c = '\\' then ['\\', '\\']
  else if c = '\x08' then ['\\', 'b']
  else if c = '\x0c' then ['\\', 'f']
  else if c = '\n' then ['\\', 'n']
  else if c = '\r' then ['\\', 'r']
  else if c = '\t' then ['\\', 't']
  else if c.toNat < 0x20 then
    ['\\', 'u', '0', '0'] ++ (if c.toNat < 0x10 then ['0'] else []) ++ Nat.toDigits 16 c.toNat
  else [c]

def printText (s : String) : List Char :=
  '"' :: s.toList.flatMap escapeChar ++ ['"']

def printInt (n : Int) : List Char :=
  if n < 0 then '-' :: Nat.toDigits 10 n.natAbs else Nat.toDigits 10 n.natAbs

mutual

def print : Document → List Char
  | .null => ['n', 'u', 'l', 'l']
  | .bool true => ['t', 'r', 'u', 'e']
  | .bool false => ['f', 'a', 'l', 's', 'e']
  | .integer n => printInt n
  | .real x => (NumberLayout.document.write x).toList
  | .text s => printText s
  | .array [] => ['[', ']']
  | .array (d :: rest) => '[' :: print d ++ printItems rest ++ [']']
  | .object [] => ['\x7b', '\x7d']
  | .object ((k, d) :: rest) =>
    '\x7b' :: printText k ++ ':' :: print d ++ printMembers rest ++ ['\x7d']

/-- The items after the first, each after a comma. -/
def printItems : List Document → List Char
  | [] => []
  | d :: rest => ',' :: print d ++ printItems rest

/-- The members after the first, each after a comma. -/
def printMembers : List (String × Document) → List Char
  | [] => []
  | (k, d) :: rest => ',' :: printText k ++ ':' :: print d ++ printMembers rest

end

def render (d : Document) : String :=
  String.ofList d.print

mutual

/-- A document shown with the kind of every part. -/
def describe : Document → String
  | .null => "Null"
  | .bool b => "Bool(" ++ (if b then "true" else "false") ++ ")"
  | .integer n => "Number(" ++ String.ofList (printInt n) ++ ")"
  | .real x => "Number(" ++ NumberLayout.document.write x ++ ")"
  | .text s => "String(" ++ Text.quoted s ++ ")"
  | .array items => "Array [" ++ ", ".intercalate (describeItems items) ++ "]"
  | .object members => "Object \x7b" ++ ", ".intercalate (describeMembers members) ++ "\x7d"

def describeItems : List Document → List String
  | [] => []
  | d :: rest => describe d :: describeItems rest

def describeMembers : List (String × Document) → List String
  | [] => []
  | (k, d) :: rest => (Text.quoted k ++ ": " ++ describe d) :: describeMembers rest

end

example : (Document.ofMembers [("b", .integer 1), ("a", .array [.null, .bool true])]).render =
    "\x7b\"a\":[null,true],\"b\":1\x7d" := by decide +kernel

end EntityMapper.Document
