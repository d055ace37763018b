import EntityMapper.Proofs.Computation
import EntityMapper.Proofs.Entity.Resolution
import EntityMapper.Store.Gateway
/-! Statements of a gateway: what one exchange with the store leaves of a workspace. -/

namespace EntityMapper

namespace Workspace

variable {σ : Type} (w : Workspace σ)

section Notes

variable (level : Level) (message : String)

@[simp] theorem heap_note : (w.note level message).heap = w.heap := rfl
@[simp] theorem store_note : (w.note level message).store = w.store := rfl
@[simp] theorem transcript_note : (w.note level message).transcript = w.transcript := rfl
@[simp] theorem registry_note :
    (w.note level message).journal.registry = w.journal.registry := rfl

end Notes

section Exchanges

variable (e : Exchange) (store : σ)

@[simp] theorem heap_exchanged : (w.exchanged e store).heap = w.heap := rfl
@[simp] theorem journal_exchanged : (w.exchanged e store).journal = w.journal := rfl
@[simp] theorem transcript_exchanged :
    (w.exchanged e store).transcript = w.transcript ++ [e] := rfl

end Exchanges

end Workspace

namespace Gateway

variable {σ : Type} (g : Gateway σ)

@[simp] theorem note_apply (level : Level) (message : String) (w : Workspace σ) :
    Work.note level message w = (.ok (), w.note level message) := rfl

def announced (w : Workspace σ) : Workspace σ :=
  w.note (if g.showStatements then .info else .debug) "Executing SQL"

theorem announce_apply (w : Workspace σ) : g.announce w = (.ok (), g.announced w) := rfl

/-- What is left of a workspace when a statement was carried out in it. -/
theorem execute_apply (c : Command) (w : Workspace σ) :
    g.execute c w =
      ((g.connection.execute c w.store).1.mapError (Error.withSql c.statement.text),
        (g.announced w).exchanged (.execute c (g.connection.execute c w.store).1)
          (g.connection.execute c w.store).2) := by
  simp [Gateway.execute, announce_apply]
  rfl

theorem query_apply (c : Command) (w : Workspace σ) :
    g.query c w =
      ((g.connection.query c w.store).1.mapError (Error.withSql c.statement.text),
        (g.announced w).exchanged (.query c (g.connection.query c w.store).1)
          (g.connection.query c w.store).2) := by
  simp [Gateway.query, announce_apply]
  rfl

theorem insert_apply (c : Command) (w : Workspace σ) :
    g.insert c w =
      ((g.connection.insert c w.store).1.mapError (Error.withSql c.statement.text),
        (g.announced w).exchanged (.insert c (g.connection.insert c w.store).1)
          (g.connection.insert c w.store).2) := by
  simp [Gateway.insert, announce_apply]
  rfl

theorem transact_frame (step : TransactionStep) (w : Workspace σ) :
    (g.transact step w).2.heap = w.heap ∧
      (g.transact step w).2.store = (g.connection.transact step w.store).2 := by
  simp only [transact, bind_apply, announce_apply]
  split <;> exact ⟨rfl, rfl⟩

theorem registry_transact (step : TransactionStep) (w : Workspace σ) :
    (g.transact step w).2.journal.registry = w.journal.registry := by
  simp only [transact, bind_apply, announce_apply]
  split <;> rfl

theorem resolve_apply (t : EntityType) (w : Workspace σ) :
    g.resolve t w = ((Journal.resolve g.catalogue.schema t.descriptor w.journal).1,
      { w with journal := (Journal.resolve g.catalogue.schema t.descriptor w.journal).2 }) := rfl

theorem resolve_frame (t : EntityType) (w : Workspace σ) :
    (g.resolve t w).2.heap = w.heap ∧ (g.resolve t w).2.store = w.store :=
  ⟨rfl, rfl⟩

theorem resolveKey_frame (k : EntityKey) (w : Workspace σ) :
    (g.resolveKey k w).2.heap = w.heap ∧ (g.resolveKey k w).2.store = w.store := by
  unfold resolveKey
  cases k.type <;> exact ⟨rfl, rfl⟩

theorem transact_answer (step : TransactionStep) (w : Workspace σ) :
    (g.transact step w).1 = (g.connection.transact step w.store).1 := by
  simp only [transact, bind_apply, announce_apply]
  split <;> rfl

/-- A type that was resolved is resolved the same way later on. -/
theorem resolve_again {t : EntityType} {m : Metadata} {w v u : Workspace σ}
    (h : g.resolve t w = (.ok m, v)) (hu : v.journal.Grows u.journal) :
    g.resolve t u = (.ok m, u) := by
  rw [resolve_apply] at h
  obtain ⟨hm, hv⟩ := Prod.mk.inj h
  subst hv
  have hk := hu _ _ (Journal.find?_resolve (Prod.ext hm rfl))
  rw [resolve_apply, Journal.resolve_of_find? hk]

theorem find?_of_resolve {g : Gateway σ} {t : EntityType} {m : Metadata} {w v : Workspace σ}
    (h : g.resolve t w = (.ok m, v)) : v.journal.registry.find? t.path = some m := by
  rw [resolve_apply] at h
  obtain ⟨hm, rfl⟩ := Prod.mk.inj h
  exact Journal.find?_resolve (Prod.ext hm rfl)

@[simp] theorem transcript_resolve (t : EntityType) (w : Workspace σ) :
    (g.resolve t w).2.transcript = w.transcript := rfl

@[simp] theorem transcript_resolveKey (k : EntityKey) (w : Workspace σ) :
    (g.resolveKey k w).2.transcript = w.transcript := by
  unfold resolveKey
  cases k.type <;> rfl

theorem transcript_sent {w v : Workspace σ} (h : v.transcript = w.transcript) (x : Exchange)
    (store : σ) : ((g.announced v).exchanged x store).transcript = w.transcript ++ [x] := by
  simp [announced, h]

theorem setValue_apply (h : Handle) (field : String) (v : Value) (w : Workspace σ) :
    Work.setValue h field v w = match (w.heap.get h).setValue field v with
      | .ok i => (.ok (), { w with heap := w.heap.set h i })
      | .error e => (.error e, w) := rfl

@[simp] theorem transcript_setValue (h : Handle) (field : String) (v : Value) (w : Workspace σ) :
    (Work.setValue h field v w).2.transcript = w.transcript := by
  rw [setValue_apply]
  cases (w.heap.get h).setValue field v <;> rfl

end Gateway

end EntityMapper
