import EntityMapper.Proofs.Flush.Draining
import EntityMapper.Proofs.Flush.Splitting
import EntityMapper.Proofs.Store.Reading
import Mathlib.Order.Defs.Unbundled
/-! Asking: all that is done over a connection apart from transaction steps is one statement after
another. -/

namespace EntityMapper

variable {σ α : Type}

/-- The second state of a store comes from the first by statements that are no transaction
steps. -/
inductive Connection.Asked (c : Connection σ) (s : σ) : σ → Prop
  | refl : Asked c s s
  | query {t} (h : Asked c s t) (cmd : Command) : Asked c s (c.query cmd t).2
  | execute {t} (h : Asked c s t) (cmd : Command) : Asked c s (c.execute cmd t).2
  | insert {t} (h : Asked c s t) (cmd : Command) : Asked c s (c.insert cmd t).2

namespace Connection.Asked

variable {c : Connection σ} {s t u : σ}

theorem of_eq (h : t = s) : c.Asked s t :=
  h ▸ .refl

theorem trans (h : c.Asked s t) (h' : c.Asked t u) : c.Asked s u := by
  induction h' with
  | refl => exact h
  | query _ cmd ih => exact ih.query cmd
  | execute _ cmd ih => exact ih.execute cmd
  | insert _ cmd ih => exact ih.insert cmd

theorem of_queried {ok : Command → Prop} (h : c.Queried ok s t) : c.Asked s t := by
  induction h with
  | refl => exact .refl
  | query _ _ ih => exact ih.query _

/-- States stand in every preorder in which each single statement leaves them. -/
theorem rel {R : σ → σ → Prop} [IsPreorder σ R] (hquery : ∀ cmd s, R s (c.query cmd s).2)
    (hexecute : ∀ cmd s, R s (c.execute cmd s).2) (hinsert : ∀ cmd s, R s (c.insert cmd s).2)
    (h : c.Asked s t) : R s t := by
  induction h with
  | refl => exact Std.Refl.refl s
  | query _ cmd ih => exact IsTrans.trans _ _ _ ih (hquery cmd _)
  | execute _ cmd ih => exact IsTrans.trans _ _ _ ih (hexecute cmd _)
  | insert _ cmd ih => exact IsTrans.trans _ _ _ ih (hinsert cmd _)

end Connection.Asked

namespace Gateway

variable (g : Gateway σ)

/-- Work makes no transaction step. -/
def Plain (x : Work σ α) : Prop :=
  ∀ w, g.connection.Asked w.store (x w).2.store

variable {g}

namespace Plain

theorem of_reads {ok : Command → Prop} {x : Work σ α} (h : x.Reads g.connection ok) : g.Plain x :=
  fun w => .of_queried (h w).store

theorem of_store {x : Work σ α} (h : ∀ w, (x w).2.store = w.store) : g.Plain x :=
  fun w => .of_eq (h w)

end Plain

variable (g)

theorem asked_persist (h : Handle) (w : Workspace σ) :
    g.connection.Asked w.store (g.persist h w).2.store := by
  obtain ⟨-, hstore⟩ := g.resolve_frame (w.heap.get h).type w
  rw [persist_apply]
  rcases hr : g.resolve (w.heap.get h).type w with ⟨e | m, v⟩ <;> rw [hr] at hstore
  · exact .of_eq hstore
  have hsent := (Connection.Asked.of_eq (c := g.connection) hstore).insert
    (m.insertOf (w.heap.get h).fieldValue)
  dsimp only
  split
  · exact hsent
  split
  · exact hsent
  split
  · exact hsent
  · exact hsent

theorem asked_update (e : Entry) (expected : Value) (w : Workspace σ) :
    g.connection.Asked w.store (g.update e expected w).2.store := by
  obtain ⟨-, hstore⟩ := g.resolveKey_frame e.key w
  rw [update_apply]
  rcases hr : g.resolveKey e.key w with ⟨f | m, v⟩ <;> rw [hr] at hstore
  · exact .of_eq hstore
  dsimp only
  split
  · exact .of_eq hstore
  rename_i plan _
  have hsent := (Connection.Asked.of_eq (c := g.connection) hstore).execute plan.command
  split
  · exact hsent
  split
  · exact hsent
  · exact hsent

theorem asked_remove (k : EntityKey) (w : Workspace σ) :
    g.connection.Asked w.store (g.remove k w).2.store := by
  obtain ⟨-, hstore⟩ := g.resolveKey_frame k w
  rw [remove_apply]
  rcases hr : g.resolveKey k w with ⟨f | m, v⟩ <;> rw [hr] at hstore
  · exact .of_eq hstore
  have hsent := (Connection.Asked.of_eq (c := g.connection) hstore).execute
    ⟨m.deleteById, [k.id]⟩
  dsimp only
  split
  · exact hsent
  split
  · exact hsent
  · exact hsent

theorem asked_perform (a : Action) (o : Outcome) (w : Workspace σ) :
    g.connection.Asked w.store (g.perform a o w).2.store := by
  cases a with
  | persist h instant =>
    have hp := g.asked_persist h w
    rw [perform_persist_apply]
    rcases hr : g.persist h w with ⟨e | entry, v⟩ <;> rw [hr] at hp <;> exact hp
  | merge entry expected =>
    have hu := g.asked_update entry expected w
    rw [perform_merge_apply]
    rcases hr : g.update entry expected w with ⟨e | next, v⟩ <;> rw [hr] at hu
    · exact hu
    · dsimp only
      rwa [store_writeVersion]
  | remove entry =>
    have hd := g.asked_remove entry.key w
    rw [perform_remove_apply]
    rcases hr : g.remove entry.key w with ⟨e | u, v⟩ <;> rw [hr] at hd <;> exact hd

theorem asked_performAll (as : List Action) (o : Outcome) (w : Workspace σ) :
    g.connection.Asked w.store (g.performAll as o w).2.store := by
  induction as generalizing o w with
  | nil => exact .refl
  | cons a rest ih =>
    have hp := g.asked_perform a o w
    rcases hr : g.perform a o w with ⟨⟨e | u, written⟩, v⟩ <;> rw [hr] at hp
    · rw [g.performAll_of_error hr]
      exact hp
    · rw [g.performAll_of_ok hr]
      exact hp.trans (ih written v)

theorem plain_perform (a : Action) (o : Outcome) :
    g.Plain (liftM (g.perform a o) : Work σ _) :=
  fun w => g.asked_perform a o w

theorem plain_drain (q : ActionQueue) (o : Outcome) : g.Plain (liftM (g.drain q o) : Work σ _) :=
  fun w => g.asked_performAll q.ordered o w

theorem plain_load (t : EntityType) (id : Value) : g.Plain (g.load t id) :=
  .of_reads (g.reads_load Command.allowsSelect_any t id)

theorem plain_getOrPut (m : IdentityMap) (i : Instance) : g.Plain (m.getOrPut i) := by
  refine .of_store fun w => ?_
  simp only [IdentityMap.getOrPut, bind_apply, get_apply]
  cases m.handle? w.heap i.type (.ofInstance i) <;> rfl

end Gateway

end EntityMapper
