import EntityMapper.Assoc
import EntityMapper.Query.Token
import EntityMapper.Text.Quoted
import EntityMapper.Text.WordChar
import EntityMapper.Value.Show
/-! Named parameters of a query. A parameter is a colon and a name; the colon stands at the start
of a token or after a character that is neither a colon nor part of a word. -/

namespace EntityMapper

open Text

/-- A query over an entity type, with values for its parameters. -/
structure EntityQuery where
  text : String
  params : Assoc String Value := .empty

namespace EntityQuery

/-- A parameter name without the colon that it may be given with. -/
def bareName (name : String) : String :=
  match name.toList with
  | ':' :: rest => String.ofList rest
  | _ => name

def bind (q : EntityQuery) (name : String) (v : Value) : EntityQuery :=
  { q with params := q.params.insert (bareName name) v }

def describe (q : EntityQuery) : String :=
  "JqlQuery \x7b query: " ++ quoted q.text ++ ", parameters: \x7b" ++
    ", ".intercalate (q.params.entries.map fun (k, v) => quoted k ++ ": " ++ v.describe) ++
    "\x7d \x7d"

end EntityQuery

/-- A part of a token: a character as it stands, or a parameter. -/
inductive Piece where
  | plain (c : Char)
  | parameter (name : Token)
  deriving DecidableEq

namespace Piece

def admits (c : Char) : Bool :=
  c != ':' && !isWordChar c

def beginsName : Token → Bool
  | [] => false
  | c :: _ => isNameStart c

mutual

/-- The pieces of a token from some place on. The flag says whether a parameter may begin there. -/
def scan (free : Bool) : Token → List Piece
  | [] => []
  | c :: rest =>
    if free && c == ':' && beginsName rest then
      .parameter (rest.takeWhile isWordChar) :: skipName rest
    else .plain c :: scan (admits c) rest

def skipName : Token → List Piece
  | [] => []
  | c :: rest => if isWordChar c then skipName rest else .plain c :: scan (admits c) rest

end

def ofToken (t : Token) : List Piece :=
  scan true t

/-- The text that stands for a piece in a statement. -/
def placed : Piece → Char
  | plain c => c
  | parameter _ => '?'

def name? : Piece → Option Token
  | plain _ => none
  | parameter name => some name

end Piece

/-- A token with places instead of parameters, and the values for the places. -/
structure PlacedToken where
  token : Token
  params : List Value

/-- The values of names in order; the first name without a value is given back. -/
def lookUpAll (bound : Assoc String Value) : List Token → Except Token (List Value)
  | [] => .ok []
  | name :: rest =>
    match bound.find? (String.ofList name) with
    | none => .error name
    | some v => (lookUpAll bound rest).map (v :: ·)

/-- Puts a place for each parameter of a token; the first name without a value is given back. -/
def placeParameters (bound : Assoc String Value) (t : Token) : Except Token PlacedToken :=
  let pieces := Piece.ofToken t
  (lookUpAll bound (pieces.filterMap Piece.name?)).map fun params =>
    ⟨pieces.map Piece.placed, params⟩

example : Piece.ofToken "a::b,:c".toList =
    [.plain 'a', .plain ':', .plain ':', .plain 'b', .plain ',', .parameter ['c']] := by decide

end EntityMapper
