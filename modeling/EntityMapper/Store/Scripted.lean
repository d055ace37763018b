import EntityMapper.Store.Connection
/-! Stores that answer from a script. -/

namespace EntityMapper

/-- A prepared answer: what it says to each kind of statement, if it says anything. -/
structure ScriptedAnswer where
  /-- Says to any statement that it fails. -/
  failure : Option Error := none
  /-- Column names with the values of each row. -/
  rows : Option (List String × List (List Value)) := none
  affected : Option Nat := none
  key : Option Value := none

/-- The answers that are left, and the identifier that the next new row gets when no answer says
otherwise. -/
structure Script where
  answers : List ScriptedAnswer := []
  nextKey : Nat := 1

namespace Script

def add (s : Script) (a : ScriptedAnswer) : Script :=
  { s with answers := s.answers ++ [a] }

/-- The next answer, which is then used up. When none is left the answer says nothing. -/
def take (s : Script) : ScriptedAnswer × Script :=
  match s.answers with
  | [] => ({}, s)
  | a :: rest => (a, { s with answers := rest })

/-- Fails if the next answer says so, or else does what the given function makes of it. -/
def answer {α : Type} (f : ScriptedAnswer → Script → α × Script) (s : Script) :
    Except Error α × Script :=
  let (a, s) := s.take
  match a.failure with
  | some e => (.error e, s)
  | none =>
    let (r, s) := f a s
    (.ok r, s)

def query (_ : Command) : Script → Except Error (List Row) × Script :=
  answer fun a s =>
    match a.rows with
    | some (columns, rows) =>
      let header := Header.ofNames columns
      (rows.map fun values => ⟨header, values⟩, s)
    | none => ([], s)

def execute (_ : Command) : Script → Except Error Nat × Script :=
  answer fun a s => (a.affected.getD 1, s)

def insert (_ : Command) : Script → Except Error Value × Script :=
  answer fun a s =>
    match a.key with
    | some v => (v, s)
    | none =>
      (if h : IntWidth.big.Holds s.nextKey then .big s.nextKey h else .null,
        { s with nextKey := s.nextKey + 1 })

def transact (_ : TransactionStep) : Script → Except Error Unit × Script :=
  answer fun _ s => ((), s)

/-- The connection to a store that answers from a script. -/
def connection : Connection Script where
  query := query
  execute := execute
  insert := insert
  transact := transact

end Script

end EntityMapper
