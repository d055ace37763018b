import EntityMapper.Proofs.Session.Invariant
import EntityMapper.Session.Transaction
/-! The operations of a session that write, each as moves with their events. -/

namespace EntityMapper

variable {σ α : Type}

namespace Operation

variable (s : SessionState σ)

@[simp] theorem ofWork_apply (x : Work σ α) :
    ofWork x s = ((x s.space).1, { s with space := (x s.space).2 }) := rfl

@[simp] theorem change_apply (f : Session → Session) :
    (change f : Operation σ Unit) s = (.ok (), { s with session := f s.session }) := rfl

@[simp] theorem session_apply : (session : Operation σ Session) s = (.ok s.session, s) := rfl

@[simp] theorem note_apply (level : Level) (message : String) :
    (note level message : Operation σ Unit) s =
      (.ok (), { s with space := s.space.note level message }) := rfl

theorem ensureOpen_of_open {s : SessionState σ} (ho : s.session.closed = false) :
    (ensureOpen : Operation σ Unit) s = (.ok (), s) := by
  simp [ensureOpen, ho]

theorem ensureOpen_of_closed {s : SessionState σ} (hc : s.session.closed = true) :
    (ensureOpen : Operation σ Unit) s = (.error .sessionClosed, s) := by
  simp [ensureOpen, hc]

/-- A closed session refuses whatever begins by looking whether it is open. -/
theorem bind_of_closed {s : SessionState σ} (hc : s.session.closed = true)
    (f : Unit → Operation σ α) : (ensureOpen >>= f) s = (.error .sessionClosed, s) := by
  rw [bind_apply, ensureOpen_of_closed hc]

theorem bind_of_open {s : SessionState σ} (ho : s.session.closed = false)
    (f : Unit → Operation σ α) : (ensureOpen >>= f) s = f () s := by
  rw [bind_apply, ensureOpen_of_open ho]

end Operation

/-- The events of what was written: rows that were added, and keys that were removed. -/
def Outcome.events (o : Outcome) : List SessionEvent :=
  o.persisted.map Entry.production ++ o.removed.map .evicted

namespace Session

open Operation

variable (g : Gateway σ) {s : SessionState σ}

theorem resolve_of_find? {t : EntityType} {m : Metadata} {w : Workspace σ}
    (h : w.journal.registry.find? t.path = some m) : g.resolve t w = (.ok m, w) := by
  rw [Gateway.resolve_apply, Journal.resolve_of_find? h]

/-- An entry that is ready is kept with a snapshot of its instance. -/
theorem keepNow_of_find? {w : Workspace σ} {e : Entry} {m : Metadata}
    (hm : w.journal.registry.find? (w.heap.get e.handle).type.path = some m) (s : Session) :
    s.keepNow w e = s.keep e (.capture m (w.heap.get e.handle)) := by
  simp [keepNow, hm]

theorem keeps_keepNow {w : Workspace σ} {es : List Entry} (hes : ∀ e ∈ es, e.Ready w)
    (s : Session) : s.Keeps es (es.foldl (·.keepNow w ·) s) := by
  induction es generalizing s with
  | nil => exact .nil s
  | cons e es ih =>
    obtain ⟨m, hm⟩ := (hes e List.mem_cons_self).resolved
    have hrest := ih (fun f hf => hes f (List.mem_cons_of_mem e hf)) (s.keepNow w e)
    rw [keepNow_of_find? hm] at hrest
    rw [List.foldl_cons, keepNow_of_find? hm]
    exact .cons e _ hrest

theorem record_apply {e : Entry} (he : e.Ready s.space) :
    record g e s = (.ok (), { s with session := s.session.keepNow s.space e }) := by
  obtain ⟨m, hm⟩ := he.resolved
  simp [record, resolve_of_find? g hm, keepNow_of_find? hm, keep]

theorem forM_record {es : List Entry} (hes : ∀ e ∈ es, e.Ready s.space) :
    es.forM (record g) s =
      (.ok (), { s with session := es.foldl (·.keepNow s.space ·) s.session }) := by
  induction es generalizing s with
  | nil => rfl
  | cons e es ih =>
    change (record g e >>= fun _ => es.forM (record g)) s = _
    rw [bind_apply, record_apply g (hes e List.mem_cons_self)]
    exact ih (s := { s with session := s.session.keepNow s.space e })
      fun f hf => hes f (List.mem_cons_of_mem e hf)

theorem forM_forget (ks : List EntityKey) (s : SessionState σ) :
    ks.forM (fun k => change (forget k)) s =
      (.ok (), { s with session := s.session.forgetAll ks }) := by
  induction ks generalizing s with
  | nil => rfl
  | cons k ks ih =>
    change (change (forget k) >>= fun _ => ks.forM fun k => change (forget k)) s = _
    rw [bind_apply, change_apply]
    exact ih { s with session := s.session.forget k }

/-- Taking note of what was written never fails when all of it is ready. -/
theorem reconcile_apply {o : Outcome} (ho : ∀ e ∈ o.persisted ++ o.merged, e.Ready s.space) :
    reconcile g o s = (.ok (), { s with session :=
      ((o.persisted ++ o.merged).foldl (·.keepNow s.space ·) s.session).forgetAll o.removed }) := by
  unfold reconcile
  rw [bind_apply, forM_record g ho]
  exact forM_forget o.removed _

/-- How the queue of a session would be drained now. -/
def drained (s : SessionState σ) : Drained × Workspace σ :=
  g.drain s.session.queue {} s.space

/-- All that was carried out is taken note of: its entries are kept or forgotten. -/
theorem reconcile_records {done : List Action} {o : Outcome}
    (h : Outcome.Records {} done s.space o) :
    ∃ es t, es.map (·.handle) = done.filterMap Action.inserts ∧ (∀ e ∈ es, e.Ready s.space) ∧
      o.events = es.map Entry.production ++ (done.filterMap Action.deletes).map .evicted ∧
      s.session.Keeps (es ++ done.filterMap Action.updates) t ∧
      reconcile g o s =
        (.ok (), { s with session := t.forgetAll (done.filterMap Action.deletes) }) := by
  obtain ⟨es, hes, hhandles, hready⟩ := h.persisted
  have hmerged := h.merged
  have hremoved := h.removed
  simp only [List.nil_append] at hes hmerged hremoved
  have hall : ∀ e ∈ es ++ done.filterMap Action.updates, e.Ready s.space := by
    intro e he
    rcases List.mem_append.mp he with he | he
    · exact hready e he
    · exact h.ready e he
  have hrun := reconcile_apply g (s := s) (o := o) (by rw [hes, hmerged]; exact hall)
  rw [hes, hmerged, hremoved] at hrun
  exact ⟨es, _, hhandles, hready, by rw [Outcome.events, hes, hremoved],
    keeps_keepNow hall s.session, hrun⟩

/-- All that a drain wrote is taken note of, and the rest is left. -/
theorem reconcile_drained (hs : s.Valid) :
    ∃ done es t, s.session.queue.ordered = done ++ (drained g s).1.left ∧
      es.map (·.handle) = done.filterMap Action.inserts ∧
      (∀ e ∈ es, e.Ready (drained g s).2) ∧
      (drained g s).1.outcome.events =
        es.map Entry.production ++ (done.filterMap Action.deletes).map .evicted ∧
      ({ s.session with queue := ⟨(drained g s).1.left⟩ } : Session).Keeps
        (es ++ done.filterMap Action.updates) t ∧
      reconcile g (drained g s).1.outcome
        ⟨{ s.session with queue := ⟨(drained g s).1.left⟩ }, (drained g s).2⟩ =
          (.ok (), ⟨t.forgetAll (done.filterMap Action.deletes), (drained g s).2⟩) := by
  have hsound : ∀ a ∈ s.session.queue.ordered, a.Sound s.space :=
    fun a ha => hs.actions a (ActionQueue.mem_ordered.mp ha)
  obtain ⟨⟨done, hq, hrecs⟩, -⟩ := g.performAll_drains hsound {}
  change Outcome.Records {} done (drained g s).2 (drained g s).1.outcome at hrecs
  obtain ⟨es, t, h⟩ := reconcile_records g
    (s := ⟨{ s.session with queue := ⟨(drained g s).1.left⟩ }, (drained g s).2⟩) hrecs
  exact ⟨done, es, t, hq, h⟩

/-- A drain is one move. -/
theorem settle_drained (hs : s.Valid) (ho : s.session.closed = false) :
    ∃ t, reconcile g (drained g s).1.outcome
        ⟨{ s.session with queue := ⟨(drained g s).1.left⟩ }, (drained g s).2⟩ =
          (.ok (), ⟨t, (drained g s).2⟩) ∧
      Move s (drained g s).1.outcome.events ⟨t, (drained g s).2⟩ ∧
      t.queue = ⟨(drained g s).1.left⟩ ∧ t.closed = false := by
  have hg : s.space.Grows (drained g s).2 :=
    g.steady_performAll s.session.queue.ordered {} s.space
  obtain ⟨done, es, t, hq, hhandles, hready, hevents, ht, hrun⟩ := reconcile_drained g hs
  obtain ⟨htq, htc⟩ := ht.frame
  obtain ⟨hfq, hfc, -⟩ := t.forgetAll_frame (done.filterMap Action.deletes)
  refine ⟨_, hrun, ?_, hfq.trans htq, hfc.trans (htc.trans ho)⟩
  rw [hevents]
  exact .settle ho hg hq hhandles (fun e he => (hready e he).toSound) ht

/-- A flush answers what its drain does, once what was written is taken note of. -/
theorem flushActions_apply {t : Session} (hq : s.session.queue.actions ≠ [])
    (hrun : reconcile g (drained g s).1.outcome
      ⟨{ s.session with queue := ⟨(drained g s).1.left⟩ }, (drained g s).2⟩ =
        (.ok (), ⟨t, (drained g s).2⟩)) :
    flushActions g s = match (drained g s).1.result with
      | .error e => (.error e, ⟨t, (drained g s).2⟩)
      | .ok _ => (.ok (), ⟨t, (drained g s).2.note .info "Flushed session"⟩) := by
  have hd : g.drain s.session.queue {} s.space = drained g s := rfl
  cases hr : (drained g s).1.result <;> simp [flushActions, hq, hd, hrun, hr]

/-- A flush leaves an empty queue unless it fails. -/
theorem flushActions_moves (hs : s.Valid) (ho : s.session.closed = false) :
    Moves s (drained g s).1.outcome.events (flushActions g s).2 ∧
      (flushActions g s).2.session.closed = false ∧
      ((flushActions g s).1 = .ok () → (flushActions g s).2.session.queue.actions = []) := by
  by_cases hq : s.session.queue.actions = []
  · have hrun : flushActions g s = (.ok (), s) := by simp [flushActions, hq]
    have hout : (drained g s).1.outcome.events = [] := by
      have hordered : s.session.queue.ordered = [] := by
        simp [ActionQueue.ordered, ActionQueue.ofKind, hq]
      simp [drained, Gateway.drain, hordered, Gateway.performAll, Outcome.events]
    rw [hrun, hout]
    exact ⟨.refl, ho, fun _ => hq⟩
  · obtain ⟨t, hrun, hmove, htq, htc⟩ := settle_drained g hs ho
    have hall : (drained g s).1.result = .ok () → (drained g s).1.left = [] :=
      (g.performAll_drains (fun a ha => hs.actions a (ActionQueue.mem_ordered.mp ha)) {}).all
    rw [flushActions_apply g hq hrun]
    cases hr : (drained g s).1.result with
    | error e => exact ⟨.one hmove, htc, fun h => by cases h⟩
    | ok u =>
      have hnote : (drained g s).2.Grows ((drained g s).2.note .info "Flushed session") :=
        .of_heap (fun _ _ h => h) rfl
      refine ⟨by simpa using (Moves.one hmove).tail (.work hnote), htc, fun _ => ?_⟩
      dsimp only
      rw [htq, hall hr]

/-- What comes of adding a row for an instance at once, before anything is taken note of. -/
def added (i : Instance) (s : SessionState σ) : Except Error Entry × Workspace σ :=
  g.persist s.space.heap.next { s.space with heap := s.space.heap.push i }

theorem persist_apply (ho : s.session.closed = false) (i : Instance) :
    persist g i s = match added g i s with
      | (.error f, v) => (.error f, { s with space := v })
      | (.ok e, v) => (.ok s.space.heap.next, ⟨s.session.keepNow v e, v⟩) := by
  have hadd : g.perform (.persist s.space.heap.next true) {}
      { s.space with heap := s.space.heap.push i } = match added g i s with
        | (.ok e, v) => ((.ok (), { persisted := [e] }), v)
        | (.error e, v) => ((.error e, {}), v) :=
    g.perform_persist_apply s.space.heap.next true {} _
  unfold persist
  rw [bind_of_open ho]
  simp only [bind_apply, ofWork_apply, liftM_state_apply, Work.share, hadd]
  rcases hr : added g i s with ⟨f | e, v⟩
  · rfl
  · obtain ⟨-, hready⟩ := g.ready_of_persist (Nat.lt_succ_self _) hr
    have hrun := reconcile_apply g (s := { s with space := v }) (o := { persisted := [e] })
      (by simpa using hready)
    simp only [liftM_except_apply, hrun, pure_apply, List.append_nil, List.foldl_cons,
      List.foldl_nil, forgetAll]

/-- Adding a row at once fails and leaves the session alone, or the instance becomes known with a
snapshot of what the store has made of it. -/
theorem persist_ends (ho : s.session.closed = false) (i : Instance) :
    ∃ v, s.space.Grows v ∧
      ((∃ f, added g i s = (.error f, v) ∧ persist g i s = (.error f, { s with space := v })) ∨
        ∃ e m, added g i s = (.ok e, v) ∧ e.handle = s.space.heap.next ∧ e.Ready v ∧
          v.journal.registry.find? (v.heap.get e.handle).type.path = some m ∧
          persist g i s =
            (.ok e.handle, ⟨s.session.keep e (.capture m (v.heap.get e.handle)), v⟩)) := by
  have hpush := Workspace.Grows.push s.space i
  have hg := hpush.trans (g.steady_persist s.space.heap.next _)
  change s.space.Grows (added g i s).2 at hg
  rw [persist_apply g ho i]
  rcases hr : added g i s with ⟨f | e, v⟩ <;> rw [hr] at hg
  · exact ⟨v, hg, .inl ⟨f, rfl, rfl⟩⟩
  · obtain ⟨hhandle, hready⟩ := g.ready_of_persist (Nat.lt_succ_self _) hr
    obtain ⟨m, hm⟩ := hready.resolved
    refine ⟨v, hg, .inr ⟨e, m, rfl, hhandle, hready, hm, ?_⟩⟩
    rw [← keepNow_of_find? hm, hhandle]

/-- A row that was added is kept with the instance that the caller is given. -/
theorem persist_moves (ho : s.session.closed = false) (i : Instance) :
    Moves s ((added g i s).1.toOption.toList.map Entry.production) (persist g i s).2 ∧
      (persist g i s).2.session.closed = false ∧
      ∀ h, (persist g i s).1 = .ok h → ∃ e, (added g i s).1 = .ok e ∧ e.handle = h := by
  obtain ⟨v, hg, ⟨f, hr, hrun⟩ | ⟨e, m, hr, -, hready, -, hrun⟩⟩ := persist_ends g ho i <;>
    rw [hr, hrun]
  · exact ⟨.one (.work hg), ho, fun h hh => by cases hh⟩
  · exact ⟨.one (.produce _ ho hg hready.toSound), ho, fun h hh => ⟨e, rfl, Except.ok.inj hh⟩⟩

end Session

end EntityMapper
