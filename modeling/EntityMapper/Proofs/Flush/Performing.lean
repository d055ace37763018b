import EntityMapper.Proofs.Store.Exchanges
import EntityMapper.Session.Flush
/-! Performing an action: the statement that is made for it, and every way in which it can end. -/

namespace EntityMapper

namespace Gateway

variable {σ : Type} (g : Gateway σ)

/-- Whether an identifier made for the row of an instance can be kept: it is there, and the
identifier field takes it. -/
def canKeep (w : Workspace σ) (h : Handle) (key : Value) : Bool :=
  !key.isNull && match (g.resolve (w.heap.get h).type w).1 with
    | .ok m => ((w.heap.get h).setValue m.id.field key).isOk
    | .error _ => true

/-- How performing an action ends: what was said over the connection, the result and what is
recorded. The workspaces are those before and after. -/
inductive Performed (w v : Workspace σ) (o : Outcome) :
    Action → List Exchange → Except Error Unit → Outcome → Prop
  /-- No statement was made. -/
  | unsent {a} (e) : Performed w v o a [] (.error e) o
  /-- The store did not carry out the statement. -/
  | refused {a x} (hx : x.isAcceptedWrite = false) (e) : Performed w v o a [x] (.error e) o
  /-- A row was added, but its identifier cannot be kept. -/
  | unkept {h instant c key} (hk : g.canKeep w h key = false) (e) :
    Performed w v o (.persist h instant) [.insert c (.ok key)] (.error e) o
  | inserted {h instant c key e} (hk : g.canKeep w h key = true) (he : e = .ofHandle v.heap h) :
    Performed w v o (.persist h instant) [.insert c (.ok key)] (.ok ())
      { o with persisted := o.persisted ++ [e] }
  | updated {entry expected c n} (hn : 0 < n) (result) :
    Performed w v o (.merge entry expected) [.execute c (.ok n)] result
      { o with merged := o.merged ++ [entry] }
  | deleted {entry c n} (hn : 0 < n) :
    Performed w v o (.remove entry) [.execute c (.ok n)] (.ok ())
      { o with removed := o.removed ++ [entry.key] }

theorem perform_persist_apply (h : Handle) (instant : Bool) (o : Outcome) (w : Workspace σ) :
    g.perform (.persist h instant) o w = match g.persist h w with
      | (.ok e, v) => ((.ok (), { o with persisted := o.persisted ++ [e] }), v)
      | (.error e, v) => ((.error e, o), v) := by
  simp only [perform, state_bind_apply, run_apply]
  rcases g.persist h w with ⟨_ | e, v⟩ <;> rfl

theorem perform_merge_apply (entry : Entry) (expected : Value) (o : Outcome) (w : Workspace σ) :
    g.perform (.merge entry expected) o w = match g.update entry expected w with
      | (.ok next, v) =>
        (((writeVersion entry next v).1, { o with merged := o.merged ++ [entry] }),
          (writeVersion entry next v).2)
      | (.error e, v) => ((.error e, o), v) := by
  simp only [perform, state_bind_apply, run_apply]
  rcases g.update entry expected w with ⟨_ | e, v⟩ <;> rfl

theorem perform_remove_apply (entry : Entry) (o : Outcome) (w : Workspace σ) :
    g.perform (.remove entry) o w = match g.remove entry.key w with
      | (.ok _, v) => ((.ok (), { o with removed := o.removed ++ [entry.key] }), v)
      | (.error e, v) => ((.error e, o), v) := by
  simp only [perform, state_bind_apply, run_apply]
  rcases g.remove entry.key w with ⟨_ | e, v⟩ <;> rfl

/-- The failure of an INSERT whose row got no identifier. -/
def noKey (m : Metadata) (c : Command) : Error :=
  (Error.store .generatedKey ("insert into " ++ m.table ++ " returned no generated key")).withSql
    c.statement.text

theorem persist_apply (h : Handle) (w : Workspace σ) :
    g.persist h w = match g.resolve (w.heap.get h).type w with
      | (.error e, v) => (.error e, v)
      | (.ok m, v) =>
        let c := m.insertOf (w.heap.get h).fieldValue
        let u := (g.announced v).exchanged (.insert c (g.connection.insert c v.store).1)
          (g.connection.insert c v.store).2
        match (g.connection.insert c v.store).1 with
        | .error f => (.error (f.withSql c.statement.text), u)
        | .ok key =>
          if key.isNull then (.error (noKey m c), u)
          else match (w.heap.get h).setValue m.id.field key with
            | .error e => (.error e, u.note .debug "Inserted row")
            | .ok i =>
              (.ok ⟨.ofInstance i, h⟩,
                { u.note .debug "Inserted row" with heap := w.heap.set h i }) := by
  simp only [persist, save, bind_apply, get_apply, insert_apply]
  rcases hr : g.resolve (w.heap.get h).type w with ⟨e | m, v⟩
  · rfl
  have hv : v.heap = w.heap := by
    rw [resolve_apply] at hr
    rw [← (Prod.mk.inj hr).2]
  rcases ha : (g.connection.insert (m.insertOf (w.heap.get h).fieldValue) v.store).1 with f | key
  · simp [ha]
  by_cases hn : key.isNull = true
  · simp [ha, hn, noKey]
  have hg : g.resolve (w.heap.get h).type
      (((g.announced v).exchanged (.insert (m.insertOf (w.heap.get h).fieldValue) (.ok key))
        (g.connection.insert (m.insertOf (w.heap.get h).fieldValue) v.store).2).note .debug
          "Inserted row") = _ :=
    g.resolve_again hr (fun _ _ hp => hp)
  simp only [ha, mapError_ok, hn, Bool.false_eq_true, if_false, bind_apply, note_apply,
    pure_apply, hg, setValue_apply]
  simp only [Workspace.heap_note, Workspace.heap_exchanged, announced, hv]
  cases (w.heap.get h).setValue m.id.field key with
  | error e => rfl
  | ok i => simp [Entry.ofHandle]

/-- The failure of an UPDATE that changed no row. -/
def missedUpdate (m : Metadata) (e : Entry) (expected : Value) (c : Command) : Error :=
  (if m.version.isSome then
    .store .optimisticLock (e.key.toText ++
      " was updated or deleted by another transaction (expected version " ++ expected.toText ++ ")")
  else .store .noRowsAffected ("update of " ++ e.key.toText ++ " affected no rows") : Error).withSql
    c.statement.text

theorem update_apply (e : Entry) (expected : Value) (w : Workspace σ) :
    g.update e expected w = match g.resolveKey e.key w with
      | (.error f, v) => (.error f, v)
      | (.ok m, v) =>
        match m.updateOf (some expected) e.key.id (v.heap.get e.handle).fieldValue with
        | .error fault => (.error (.mapping m.name fault.message), v)
        | .ok plan =>
          let u := (g.announced v).exchanged
            (.execute plan.command (g.connection.execute plan.command v.store).1)
            (g.connection.execute plan.command v.store).2
          match (g.connection.execute plan.command v.store).1 with
          | .error f => (.error (f.withSql plan.command.statement.text), u)
          | .ok n =>
            if n = 0 then (.error (missedUpdate m e expected plan.command), u)
            else (.ok plan.nextVersion, u) := by
  simp only [update, bind_apply, get_apply]
  rcases g.resolveKey e.key w with ⟨f | m, v⟩
  · rfl
  cases hp : m.updateOf (some expected) e.key.id (v.heap.get e.handle).fieldValue with
  | error fault => simp [hp]
  | ok plan =>
    simp only [hp, bind_apply, execute_apply]
    cases (g.connection.execute plan.command v.store).1 with
    | error f => rfl
    | ok n =>
      by_cases hn : n = 0
      · simp [hn, missedUpdate]
      · simp [hn]

/-- The failure of a DELETE that removed no row. -/
def missedDelete (m : Metadata) (k : EntityKey) : Error :=
  (Error.store .noRowsAffected ("delete of " ++ k.toText ++ " affected no rows")).withSql
    m.deleteById.text

theorem remove_apply (k : EntityKey) (w : Workspace σ) :
    g.remove k w = match g.resolveKey k w with
      | (.error f, v) => (.error f, v)
      | (.ok m, v) =>
        let c : Command := ⟨m.deleteById, [k.id]⟩
        let u := (g.announced v).exchanged (.execute c (g.connection.execute c v.store).1)
          (g.connection.execute c v.store).2
        match (g.connection.execute c v.store).1 with
        | .error f => (.error (f.withSql m.deleteById.text), u)
        | .ok n => if n = 0 then (.error (missedDelete m k), u) else (.ok (), u) := by
  simp only [remove, bind_apply, execute_apply]
  rcases g.resolveKey k w with ⟨f | m, v⟩
  · rfl
  dsimp only
  cases (g.connection.execute ⟨m.deleteById, [k.id]⟩ v.store).1 with
  | error f => rfl
  | ok n =>
    by_cases hn : n = 0
    · simp [hn, missedDelete]
    · simp [hn]

theorem writeVersion_apply (e : Entry) (next : Option Value) (w : Workspace σ) :
    writeVersion e next w =
      match next, (w.heap.get e.handle).type.versionField? with
      | some v, some f => Work.setValue e.handle f.name v w
      | _, _ => (.ok (), w) := by
  cases next with
  | none => rfl
  | some v =>
    simp only [writeVersion, bind_apply, get_apply]
    cases (w.heap.get e.handle).type.versionField? <;> rfl

@[simp] theorem transcript_writeVersion (e : Entry) (next : Option Value) (w : Workspace σ) :
    (writeVersion e next w).2.transcript = w.transcript := by
  rw [writeVersion_apply]
  split <;> simp

theorem store_writeVersion (e : Entry) (next : Option Value) (w : Workspace σ) :
    (writeVersion e next w).2.store = w.store := by
  rw [writeVersion_apply]
  split
  · rw [setValue_apply]
    cases (w.heap.get e.handle).setValue _ _ <;> rfl
  · rfl

/-- The statements of an action are the new ones of the transcript, and the action ends as
performed. -/
def Ends (a : Action) (o : Outcome) (w : Workspace σ) : Prop :=
  ∃ xs, (g.perform a o w).2.transcript = w.transcript ++ xs ∧
    g.Performed w (g.perform a o w).2 o a xs (g.perform a o w).1.1 (g.perform a o w).1.2

theorem ends_persist (h : Handle) (instant : Bool) (o : Outcome) (w : Workspace σ) :
    g.Ends (.persist h instant) o w := by
  unfold Ends
  have ht := g.transcript_resolve (w.heap.get h).type w
  rw [perform_persist_apply, persist_apply]
  rcases hr : g.resolve (w.heap.get h).type w with ⟨e | m, v⟩ <;> rw [hr] at ht
  · exact ⟨[], by simpa using ht, .unsent e⟩
  dsimp only
  generalize m.insertOf (w.heap.get h).fieldValue = c
  cases (g.connection.insert c v.store).1 with
  | error f => exact ⟨[_], g.transcript_sent ht _ _, .refused rfl _⟩
  | ok key =>
    by_cases hn : key.isNull = true
    · simp only [hn, if_true]
      exact ⟨[_], g.transcript_sent ht _ _, .unkept (by simp [canKeep, hn]) _⟩
    simp only [hn, Bool.false_eq_true, if_false]
    have hk : g.canKeep w h key = ((w.heap.get h).setValue m.id.field key).isOk := by
      simp [canKeep, hn, hr]
    cases hs : (w.heap.get h).setValue m.id.field key with
    | error e =>
      exact ⟨[.insert c (.ok key)], g.transcript_sent ht _ (g.connection.insert c v.store).2,
        .unkept (by rw [hk, hs]; rfl) e⟩
    | ok i =>
      exact ⟨[.insert c (.ok key)], g.transcript_sent ht _ (g.connection.insert c v.store).2,
        .inserted (by rw [hk, hs]; rfl) (by simp [Entry.ofHandle])⟩

theorem ends_merge (entry : Entry) (expected : Value) (o : Outcome) (w : Workspace σ) :
    g.Ends (.merge entry expected) o w := by
  unfold Ends
  have ht := g.transcript_resolveKey entry.key w
  rw [perform_merge_apply, update_apply]
  rcases hr : g.resolveKey entry.key w with ⟨e | m, v⟩ <;> rw [hr] at ht
  · exact ⟨[], by simpa using ht, .unsent e⟩
  dsimp only at ht ⊢
  cases m.updateOf (some expected) entry.key.id (v.heap.get entry.handle).fieldValue with
  | error fault => exact ⟨[], by simpa using ht, .unsent _⟩
  | ok plan =>
    dsimp only
    cases (g.connection.execute plan.command v.store).1 with
    | error f => exact ⟨[_], g.transcript_sent ht _ _, .refused rfl _⟩
    | ok n =>
      by_cases hn : n = 0
      · simp only [hn, if_true]
        exact ⟨[_], g.transcript_sent ht _ _, .refused rfl _⟩
      · simp only [hn, if_false, transcript_writeVersion]
        exact ⟨[_], g.transcript_sent ht _ _, .updated (Nat.pos_of_ne_zero hn) _⟩

theorem ends_remove (entry : Entry) (o : Outcome) (w : Workspace σ) :
    g.Ends (.remove entry) o w := by
  unfold Ends
  have ht := g.transcript_resolveKey entry.key w
  rw [perform_remove_apply, remove_apply]
  rcases hr : g.resolveKey entry.key w with ⟨e | m, v⟩ <;> rw [hr] at ht
  · exact ⟨[], by simpa using ht, .unsent e⟩
  dsimp only at ht ⊢
  cases (g.connection.execute ⟨m.deleteById, [entry.key.id]⟩ v.store).1 with
  | error f => exact ⟨[_], g.transcript_sent ht _ _, .refused rfl _⟩
  | ok n =>
    by_cases hn : n = 0
    · simp only [hn, if_true]
      exact ⟨[_], g.transcript_sent ht _ _, .refused rfl _⟩
    · simp only [hn, if_false]
      exact ⟨[_], g.transcript_sent ht _ _, .deleted (Nat.pos_of_ne_zero hn)⟩

/-- Every way in which performing an action can end. -/
theorem perform_ends (a : Action) (o : Outcome) (w : Workspace σ) :
    ∃ xs, (g.perform a o w).2.transcript = w.transcript ++ xs ∧
      g.Performed w (g.perform a o w).2 o a xs (g.perform a o w).1.1 (g.perform a o w).1.2 := by
  cases a with
  | persist h instant => exact g.ends_persist h instant o w
  | merge entry expected => exact g.ends_merge entry expected o w
  | remove entry => exact g.ends_remove entry o w

end Gateway

end EntityMapper
