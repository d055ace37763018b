/-! The ways an operation can fail, and how each is worded. -/

namespace EntityMapper

/-- What went wrong at the store or with what it gave. -/
inductive StoreFault where
  | connection
  | statement
  /-- A write by identifier found no row. -/
  | noRowsAffected
  /-- A guarded write found no row: the row was changed or deleted in the meantime. -/
  | optimisticLock
  | nonUniqueResult
  | generatedKey
  | hydration
  deriving DecidableEq, Repr

/-- What went wrong with a transaction. -/
inductive TransactionFault where
  | alreadyActive
  | notActive
  | failed
  deriving DecidableEq, Repr

/-- A failure of any operation. -/
inductive Error where
  | mapping (entity message : String)
  | sessionClosed
  | illegalState (message : String)
  | dataAccess (fault : StoreFault) (message : String) (sql : Option String)
      (source : Option Error)
  | transaction (fault : TransactionFault) (message : String)
  | invalidQuery (query message : String)
  | type (expected actual : String) (column : Option String)
  deriving Inhabited

namespace StoreFault

def name : StoreFault → String
  | connection => "connection"
  | statement => "statement"
  | noRowsAffected => "no rows affected"
  | optimisticLock => "optimistic lock"
  | nonUniqueResult => "non-unique result"
  | generatedKey => "generated key"
  | hydration => "hydration"

end StoreFault

namespace Error

def store (fault : StoreFault) (message : String) : Error :=
  .dataAccess fault message none none

/-- Names the statement of a store failure that names none yet. -/
def withSql (sql : String) : Error → Error
  | .dataAccess fault message none source => .dataAccess fault message (some sql) source
  | e => e

def storeFault : Error → Option StoreFault
  | .dataAccess fault _ _ _ => some fault
  | _ => none

def isOptimisticLock (e : Error) : Bool :=
  e.storeFault == some .optimisticLock

def sql : Error → Option String
  | .dataAccess _ _ sql _ => sql
  | _ => none

def source : Error → Option Error
  | .dataAccess _ _ _ source => source
  | _ => none

def inColumn (column : String) : Error → Error
  | .type expected actual _ => .type expected actual (some column)
  | e => e

def message : Error → String
  | .mapping entity message => "Mapping error for entity '" ++ entity ++ "': " ++ message
  | .sessionClosed => "Current session is closed"
  | .illegalState message => "Illegal state: " ++ message
  | .dataAccess _ message (some sql) _ =>
    "Data access error: " ++ message ++ " (sql: " ++ sql ++ ")"
  | .dataAccess _ message none _ => "Data access error: " ++ message
  | .transaction _ message => "Transaction error: " ++ message
  | .invalidQuery query message =>
    "Query translation error: " ++ message ++ " in '" ++ query ++ "'"
  | .type expected actual (some column) =>
    "Type error in column '" ++ column ++ "': expected " ++ expected ++ ", found " ++ actual
  | .type expected actual none => "Type error: expected " ++ expected ++ ", found " ++ actual

@[simp] theorem storeFault_withSql (sql : String) (e : Error) :
    (e.withSql sql).storeFault = e.storeFault := by
  cases e with
  | dataAccess fault message sql source => cases sql <;> rfl
  | _ => rfl

/-- The first statement named stays. -/
theorem withSql_withSql (a b : String) (e : Error) : (e.withSql a).withSql b = e.withSql a := by
  cases e with
  | dataAccess fault message sql source => cases sql <;> rfl
  | _ => rfl

end Error

end EntityMapper
