import EntityMapper.Session.Basic
/-! Transactions of a session. -/

namespace EntityMapper

/-- The failure of a transaction step at the store. -/
def Error.ofTransaction (cause : Error) : Error :=
  .transaction .failed cause.message

namespace Session

open Operation

variable {σ : Type} (g : Gateway σ)

def transact (step : TransactionStep) : Operation σ Unit :=
  ofWork ((g.transact step).adapt Error.ofTransaction)

def ensureActive : Operation σ Unit := do
  if !(← session).active then throw (.transaction .notActive "transaction is not started")

def begin : Operation σ Unit := do
  ensureOpen
  if (← session).active then
    throw (.transaction .alreadyActive "transaction was already started")
  transact g .start
  change fun s => { s with active := true }
  note .info "Transaction started"

/-- Performs the queued actions and ends the transaction, keeping what was written. -/
def commit : Operation σ Unit := do
  ensureOpen
  ensureActive
  flushActions g
  transact g .commit
  change fun s => { s with active := false }
  note .info "Transaction committed"

/-- Drops the queued actions and ends the transaction, undoing what was written. -/
def rollback : Operation σ Unit := do
  ensureOpen
  ensureActive
  change fun s => { s with queue := {} }
  transact g .rollback
  change fun s => { s with active := false }
  note .info "Transaction rolled back"

end Session

end EntityMapper
