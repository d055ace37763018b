import EntityMapper.Entity.Registry
import EntityMapper.Query.Statement
import EntityMapper.Row
/-! Connections to a store, and the transcript of what is said over one. -/

namespace EntityMapper

/-- A step that opens or ends a transaction. -/
inductive TransactionStep where
  | start
  | commit
  | rollback
  deriving DecidableEq

def TransactionStep.text : TransactionStep → String
  | start => "BEGIN"
  | commit => "COMMIT"
  | rollback => "ROLLBACK"

/-- A store whose states are of type `σ`, by what it answers. -/
structure Connection (σ : Type) where
  /-- The rows that a statement gives. -/
  query : Command → σ → Except Error (List Row) × σ
  /-- The number of rows that a statement changes. -/
  execute : Command → σ → Except Error Nat × σ
  /-- The identifier of the row that a statement adds. -/
  insert : Command → σ → Except Error Value × σ
  transact : TransactionStep → σ → Except Error Unit × σ
  /-- What is noted when a transaction step has succeeded. -/
  notice : Option Event := none

/-- A statement with the answer to it. -/
inductive Exchange where
  | query (command : Command) (answer : Except Error (List Row))
  | execute (command : Command) (answer : Except Error Nat)
  | insert (command : Command) (answer : Except Error Value)
  | transact (step : TransactionStep) (answer : Except Error Unit)

namespace Exchange

def command : Exchange → Command
  | query c _ => c
  | execute c _ => c
  | insert c _ => c
  | transact step _ => ⟨.native step.text, []⟩

/-- Whether the store carried out a write: it added a row, or it changed at least one. -/
def isAcceptedWrite : Exchange → Bool
  | insert _ (.ok _) => true
  | execute _ (.ok n) => 0 < n
  | _ => false

end Exchange

end EntityMapper
