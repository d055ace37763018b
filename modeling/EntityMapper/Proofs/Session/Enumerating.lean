import EntityMapper.Proofs.Session.Covering
/-! Enumerating: what a check for changes finds is told entity by entity, whatever the order in
which the known entities are gone through. -/

namespace EntityMapper

variable {σ : Type}

open Session Operation SessionState

/-- The write that a check for changes asks for an entity: none if there is no snapshot of it, if a
write of it waits already, or if it is as the snapshot says. -/
def SessionState.change? (s : SessionState σ) (e : Entry) : Option (Entry × Value) :=
  (s.session.snapshots.find? e.key).bind fun snapshot =>
    if s.session.queue.isPending .merge e.key || s.session.queue.isPending .remove e.key then none
    else (s.space.journal.registry.find? (s.space.heap.get e.handle).type.path).bind fun m =>
      if snapshot.isStale m (s.space.heap.get e.handle) then some (e, snapshot.version m) else none

namespace SessionState

variable {s : SessionState σ} {e : Entry}

theorem change?_eq_some_iff {p : Entry × Value} : s.change? e = some p ↔
    ∃ snapshot m, s.session.snapshots.find? e.key = some snapshot ∧
      (s.session.queue.isPending .merge e.key || s.session.queue.isPending .remove e.key) = false ∧
      s.space.journal.registry.find? (s.space.heap.get e.handle).type.path = some m ∧
      snapshot.isStale m (s.space.heap.get e.handle) = true ∧ p = (e, snapshot.version m) := by
  unfold SessionState.change?
  constructor
  · intro h
    obtain ⟨snapshot, hsnapshot, h⟩ := Option.bind_eq_some_iff.mp h
    split at h
    · cases h
    rename_i hpending
    obtain ⟨m, hm, h⟩ := Option.bind_eq_some_iff.mp h
    split at h
    · rename_i hstale
      exact ⟨snapshot, m, hsnapshot, Bool.eq_false_iff.mpr hpending, hm, hstale,
        (Option.some.inj h).symm⟩
    · cases h
  · rintro ⟨snapshot, m, hsnapshot, hpending, hm, hstale, rfl⟩
    simp [hsnapshot, hpending, hm, hstale]

/-- The entities for which a check for changes asks. -/
theorem map_fst_changes (s : SessionState σ) (es : List Entry) :
    (es.filterMap s.change?).map (·.1) = es.filter fun e => (s.change? e).isSome := by
  induction es with
  | nil => rfl
  | cons e es ih =>
    cases h : s.change? e with
    | none => simp [h, ih]
    | some p =>
      obtain ⟨snapshot, m, -, -, -, -, rfl⟩ := change?_eq_some_iff.mp h
      simp [h, ih]

/-- What asks for an UPDATE is ready for it. -/
theorem Valid.ready_of_change? (hs : s.Valid) (he : e ∈ s.session.map.values) {p : Entry × Value}
    (h : s.change? e = some p) : p.1 = e ∧ e.Ready s.space := by
  obtain ⟨snapshot, m, -, -, hm, -, rfl⟩ := change?_eq_some_iff.mp h
  exact ⟨rfl, hs.values he, m, hm⟩

/-- What asks for an UPDATE is found by its key. -/
theorem Valid.find?_of_change? (hs : s.Valid) (he : e ∈ s.session.map.values) {p : Entry × Value}
    (h : s.change? e = some p) : s.session.map.find? e.key = some e := by
  obtain ⟨snapshot, m, hsnapshot, -⟩ := change?_eq_some_iff.mp h
  exact hs.coherent.find?_of_mem_values he
    (hs.coherent.contains_iff_snapshot.mpr ⟨snapshot, hsnapshot⟩)

end SessionState

namespace Session

variable (g : Gateway σ)

/-- A check for changes that goes through entries in a given order. -/
def dirtyCheckAlong (es : List Entry) : Operation σ Nat := do
  ensureOpen
  let dirty ← findDirty g es
  dirty.forM fun (e, version) => enqueue (.merge e version)
  return dirty.length

/-- Closing a session whose check for changes goes through entries in a given order. -/
def closeAlong (es : List Entry) : Operation σ Unit := do
  ensureOpen
  let _ ← dirtyCheckAlong g es
  flushActions g
  if (← session).active then note .warn "Closing session with an active transaction"
  change fun s => { s with map := .empty, snapshots := .empty, closed := true }
  note .info "Session closed"

variable {s : SessionState σ}

theorem dirtyCheck_eq_along (s : SessionState σ) :
    dirtyCheck g s = dirtyCheckAlong g s.session.map.values s := by
  cases hc : s.session.closed with
  | true => rw [dirtyCheck, dirtyCheckAlong, bind_of_closed hc, bind_of_closed hc]
  | false =>
    rw [dirtyCheck, dirtyCheckAlong, bind_of_open hc, bind_of_open hc]
    rfl

theorem close_eq_along (s : SessionState σ) :
    close g s = closeAlong g s.session.map.values s := by
  cases hc : s.session.closed with
  | true => rw [close, closeAlong, bind_of_closed hc, bind_of_closed hc]
  | false =>
    rw [close, closeAlong, bind_of_open hc, bind_of_open hc, bind_apply, bind_apply,
      dirtyCheck_eq_along]

/-- What a check finds among entries is what each of them asks for. -/
theorem findDirty_eq (hs : s.Kept) {es : List Entry} (hes : ∀ e ∈ es, e ∈ s.session.map.values) :
    ∃ events, findDirty g es s =
      (.ok (es.filterMap s.change?), { s with space := s.space.logged events }) := by
  induction es generalizing s with
  | nil => exact ⟨s.space.journal.events, rfl⟩
  | cons e es ih =>
    have hrest := fun f hf => hes f (List.mem_cons_of_mem e hf)
    rw [findDirty_cons, List.filterMap_cons]
    unfold SessionState.change?
    cases hsnapshot : s.session.snapshots.find? e.key with
    | none => exact ih hs hrest
    | some snapshot =>
      rw [Option.bind_some]
      dsimp only
      split
      · exact ih hs hrest
      obtain ⟨p, m, hp, hm, -⟩ := hs.covered.find? hsnapshot
      have hsound := hs.valid.values (hes e List.mem_cons_self)
      obtain rfl := Option.some.inj (hp.symm.trans hsound.path)
      rw [hm, Option.bind_some, resolve_of_find? g hm]
      dsimp only
      split
      · have hnoted : Kept { s with space := s.space.note .debug "Dirty entity" } :=
          hs.work (grows_note _ _ _)
        obtain ⟨events, hrun⟩ := ih hnoted hrest
        rw [hrun]
        exact ⟨events, rfl⟩
      · exact ih hs hrest

/-- A check for changes queues an UPDATE for each entity that asks for one, and leaves nothing else
behind but notices. -/
theorem dirtyCheckAlong_eq (hs : s.Open) {es : List Entry}
    (hes : ∀ e ∈ es, e ∈ s.session.map.values) : ∃ events,
      dirtyCheckAlong g es s = (.ok (es.filterMap s.change?).length, ⟨{ s.session with
        queue := ⟨s.session.queue.actions ++
          (es.filterMap s.change?).map fun p => .merge p.1 p.2⟩ }, s.space.logged events⟩) := by
  obtain ⟨found, hfind⟩ := findDirty_eq g hs.toKept hes
  obtain ⟨events, hqueue⟩ := forM_enqueue_apply (es.filterMap s.change?)
    { s with space := s.space.logged found }
  refine ⟨events, ?_⟩
  unfold dirtyCheckAlong
  rw [bind_of_open hs.isOpen, bind_apply, hfind]
  dsimp only
  rw [bind_apply, hqueue]
  rfl

end Session

end EntityMapper
