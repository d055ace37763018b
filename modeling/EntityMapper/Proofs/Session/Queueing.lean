import EntityMapper.Proofs.Session.Writing
/-! The operations of a session that queue writes, as moves without events. -/

namespace EntityMapper

variable {σ : Type}

/-- The workspace with other notices. -/
def Workspace.logged (w : Workspace σ) (events : List Event) : Workspace σ :=
  { w with journal := { w.journal with events := events } }

/-- Keys for which nothing is pending are not found by the keys of what waits. -/
theorem Session.free_of_isPending {s : Session} {kind : ActionKind} {k : EntityKey}
    (h : s.queue.isPending kind k = false) : s.Free kind k := by
  intro a ha l hl
  have hequal : l.equal k = false := by
    have hany := List.any_eq_false.mp h a ha
    rw [hl] at hany
    simpa using hany
  rw [EntityKey.beq_def, hequal, Bool.false_and]

namespace SessionState

/-- The session has a snapshot of an entity, and a value is its version. -/
def Guarded (s : SessionState σ) (e : Entry) (x : Value) : Prop :=
  ∃ t snapshot m, e.key.type = some t ∧ s.session.snapshots.find? e.key = some snapshot ∧
    s.space.journal.registry.find? t.path = some m ∧ x = snapshot.version m

theorem Guarded.mono {s t : SessionState σ} {e : Entry} {x : Value} (h : s.Guarded e x)
    (hg : s.space.Grows t.space)
    (hsame : ∀ snapshot, s.session.snapshots.find? e.key = some snapshot →
      t.session.snapshots.find? e.key = some snapshot) : t.Guarded e x := by
  obtain ⟨t, snapshot, m, ht, hsnapshot, hm, hx⟩ := h
  exact ⟨t, snapshot, m, ht, hsame _ hsnapshot, hg.journal _ _ hm, hx⟩

end SessionState

namespace Session

open Operation SessionState

variable (g : Gateway σ) {s : SessionState σ}

@[simp] theorem enqueue_apply (a : Action) (s : SessionState σ) :
    enqueue a s = (.ok (), ⟨{ s.session with queue := s.session.queue.add a },
      s.space.note .trace "Queued action"⟩) := rfl

theorem grows_note (w : Workspace σ) (level : Level) (message : String) :
    w.Grows (w.note level message) :=
  .of_heap (fun _ _ h => h) rfl

theorem grows_logged (w : Workspace σ) (events : List Event) : w.Grows (w.logged events) :=
  .of_heap (fun _ _ h => h) rfl

/-- Entries of a list, each at most once, that are known and for which no UPDATE waits. -/
structure Unqueued (t : Session) (es : List Entry) (dirty : List (Entry × Value)) : Prop where
  sublist : (dirty.map (·.1)).Sublist es
  known : ∀ e ∈ dirty.map (·.1), t.map.contains e.key = true
  free : ∀ e ∈ dirty.map (·.1), t.Free .merge e.key

namespace Unqueued

variable {t : Session} {e : Entry} {es : List Entry} {dirty : List (Entry × Value)}

theorem nil (t : Session) (es : List Entry) : t.Unqueued es [] :=
  ⟨List.nil_sublist es, by simp, by simp⟩

theorem skip (h : t.Unqueued es dirty) : t.Unqueued (e :: es) dirty :=
  ⟨h.sublist.cons e, h.known, h.free⟩

theorem take (h : t.Unqueued es dirty) (hknown : t.map.contains e.key = true)
    (hfree : t.Free .merge e.key) (x : Value) : t.Unqueued (e :: es) ((e, x) :: dirty) :=
  ⟨h.sublist.cons_cons e, List.forall_mem_cons.mpr ⟨hknown, h.known⟩,
    List.forall_mem_cons.mpr ⟨hfree, h.free⟩⟩

end Unqueued

/-- Looking for changes goes on to the other entries if the first one has no snapshot or waits to be
written, and else once it was compared with its snapshot. -/
theorem findDirty_cons (e : Entry) (es : List Entry) (s : SessionState σ) :
    findDirty g (e :: es) s = match s.session.snapshots.find? e.key with
      | none => findDirty g es s
      | some snapshot =>
        if s.session.queue.isPending .merge e.key || s.session.queue.isPending .remove e.key then
          findDirty g es s
        else match g.resolve (s.space.heap.get e.handle).type s.space with
          | (.error f, w) => (.error f, { s with space := w })
          | (.ok m, w) =>
            if snapshot.isStale m (s.space.heap.get e.handle) then
              match findDirty g es { s with space := w.note .debug "Dirty entity" } with
              | (.error f, t) => (.error f, t)
              | (.ok dirty, t) => (.ok ((e, snapshot.version m) :: dirty), t)
            else findDirty g es { s with space := w } := by
  conv => lhs; unfold findDirty
  rw [bind_apply, session_apply]
  dsimp only
  cases s.session.snapshots.find? e.key with
  | none => rfl
  | some snapshot =>
    dsimp only
    split
    · rfl
    simp only [bind_apply, get_apply, ofWork_apply]
    rcases g.resolve (s.space.heap.get e.handle).type s.space with ⟨f | m, w⟩
    · rfl
    dsimp only
    split
    · rw [bind_apply, note_apply]
      dsimp only
      rw [bind_apply]
      rcases findDirty g es { s with space := w.note .debug "Dirty entity" } with ⟨f | dirty, t⟩ <;>
        rfl
    · rfl

/-- From one state a search for changes among entries, with its result and the state after it,
leaves alone the session, the shared instances and the store. What it finds waits for no UPDATE, and
is guarded by its snapshot. -/
structure Spots (s : SessionState σ) (es : List Entry)
    (run : Except Error (List (Entry × Value)) × SessionState σ) : Prop where
  session : run.2.session = s.session
  grows : s.space.Grows run.2.space
  heap : run.2.space.heap = s.space.heap
  store : run.2.space.store = s.space.store
  unqueued : ∀ dirty, run.1 = .ok dirty → s.session.Unqueued es dirty
  guarded : ∀ dirty, run.1 = .ok dirty → ∀ p ∈ dirty, run.2.Guarded p.1 p.2

namespace Spots

variable {w : Workspace σ} {e : Entry} {es : List Entry}
  {run : Except Error (List (Entry × Value)) × SessionState σ}

/-- Work came before the search that left the instances and the store alone. -/
theorem after (h : Spots { s with space := w } es run) (hg : s.space.Grows w)
    (hh : w.heap = s.space.heap) (hw : w.store = s.space.store) : Spots s es run :=
  ⟨h.session, hg.trans h.grows, h.heap.trans hh, h.store.trans hw, h.unqueued, h.guarded⟩

theorem skip (h : Spots s es run) : Spots s (e :: es) run :=
  ⟨h.session, h.grows, h.heap, h.store, fun dirty hd => (h.unqueued dirty hd).skip, h.guarded⟩

theorem take {dirty : List (Entry × Value)} {t : SessionState σ} (h : Spots s es (.ok dirty, t))
    (hknown : s.session.map.contains e.key = true) (hfree : s.session.Free .merge e.key)
    {x : Value} (hx : s.Guarded e x) : Spots s (e :: es) (.ok ((e, x) :: dirty), t) := by
  refine ⟨h.session, h.grows, h.heap, h.store, fun _ hd => ?_, fun _ hd => ?_⟩ <;> cases hd
  · exact (h.unqueued dirty rfl).take hknown hfree x
  · refine List.forall_mem_cons.mpr ⟨hx.mono h.grows fun _ hsnapshot => ?_, h.guarded dirty rfl⟩
    rw [show t.session = s.session from h.session]
    exact hsnapshot

end Spots

theorem spots_findDirty (hs : s.Valid) {es : List Entry}
    (hes : ∀ e ∈ es, e ∈ s.session.map.values) : Spots s es (findDirty g es s) := by
  induction es generalizing s with
  | nil => exact ⟨rfl, .refl _, rfl, rfl, fun dirty h => by cases h; exact .nil _ _,
      fun dirty h p hp => by cases h; cases hp⟩
  | cons e es ih =>
    have hrest : ∀ f ∈ es, f ∈ s.session.map.values := fun f hf => hes f (List.mem_cons_of_mem e hf)
    rw [findDirty_cons]
    cases hsnapshot : s.session.snapshots.find? e.key with
    | none => exact (ih hs hrest).skip
    | some snapshot =>
      dsimp only
      split
      · exact (ih hs hrest).skip
      rename_i hpending
      simp only [Bool.or_eq_true, not_or, Bool.not_eq_true] at hpending
      have hg := g.steady_resolve (s.space.heap.get e.handle).type s.space
      obtain ⟨hheap, hstore⟩ := g.resolve_frame (s.space.heap.get e.handle).type s.space
      rcases hr : g.resolve (s.space.heap.get e.handle).type s.space with ⟨f | m, w⟩ <;>
        rw [hr] at hg hheap hstore
      · exact ⟨rfl, hg, hheap, hstore, nofun, nofun⟩
      dsimp only
      split
      · have hnoted : s.space.Grows (w.note .debug "Dirty entity") := hg.trans (grows_note _ _ _)
        have hspots := ih (s := { s with space := w.note .debug "Dirty entity" })
          (hs.work hnoted) hrest
        have hknown : s.session.map.contains e.key = true :=
          hs.coherent.contains_iff_snapshot.mpr ⟨snapshot, hsnapshot⟩
        obtain ⟨p, hp, rfl⟩ := List.mem_map.mp (hes e List.mem_cons_self)
        obtain ⟨t, ht, hpath⟩ := Option.map_eq_some_iff.mp (hs.entries p hp).path
        have hm := Gateway.find?_of_resolve hr
        have hguarded : SessionState.Guarded { s with space := w.note .debug "Dirty entity" } p.2
            (snapshot.version m) :=
          ⟨t, snapshot, m, ht, hsnapshot, by rw [hpath]; exact hm, rfl⟩
        rcases hf : findDirty g es { s with space := w.note .debug "Dirty entity" } with
          ⟨f | dirty, u⟩ <;> rw [hf] at hspots
        · exact hspots.skip.after hnoted hheap hstore
        · exact (hspots.take hknown (free_of_isPending hpending.1) hguarded).after hnoted hheap
            hstore
      · exact (ih (s := { s with space := w }) (hs.work hg) hrest).skip.after hg hheap hstore

/-- Queueing UPDATEs changes nothing but the queue and the notices. -/
theorem forM_enqueue_apply (dirty : List (Entry × Value)) (s : SessionState σ) :
    ∃ events, dirty.forM (fun p => enqueue (.merge p.1 p.2)) s = (.ok (), ⟨{ s.session with
      queue := ⟨s.session.queue.actions ++ dirty.map fun p => .merge p.1 p.2⟩ },
      s.space.logged events⟩) := by
  induction dirty generalizing s with
  | nil => exact ⟨s.space.journal.events, by rw [List.map_nil, List.append_nil]; rfl⟩
  | cons p dirty ih =>
    obtain ⟨events, hrun⟩ := ih ⟨{ s.session with
      queue := s.session.queue.add (.merge p.1 p.2) }, s.space.note .trace "Queued action"⟩
    refine ⟨events, ?_⟩
    change (enqueue (.merge p.1 p.2) >>= fun _ => dirty.forM _) s = _
    rw [bind_apply, enqueue_apply]
    refine hrun.trans ?_
    rw [List.map_cons, List.append_cons]
    rfl

/-- A check for changes leaves the session, the shared instances and the store alone and fails, or
it queues an UPDATE for each of the entities that it has found. -/
theorem dirtyCheck_ends (hs : s.Valid) (ho : s.session.closed = false) :
    ∃ w, s.space.Grows w ∧ w.heap = s.space.heap ∧ w.store = s.space.store ∧
      ((∃ e, dirtyCheck g s = (.error e, { s with space := w })) ∨
        ∃ dirty, dirtyCheck g s = (.ok dirty.length, ⟨{ s.session with
            queue := ⟨s.session.queue.actions ++ dirty.map fun p => .merge p.1 p.2⟩ }, w⟩) ∧
          s.session.Unqueued s.session.map.values dirty ∧
          ∀ p ∈ dirty, Guarded { s with space := w } p.1 p.2) := by
  have hspots : Spots s s.session.map.values (findDirty g s.session.map.values s) :=
    spots_findDirty g hs fun _ h => h
  obtain ⟨hsession, hgrown, hheap, hstore, hunqueued, hguarded⟩ := hspots
  unfold dirtyCheck
  rw [bind_of_open ho]
  simp only [bind_apply, session_apply]
  rcases hf : findDirty g s.session.map.values s with ⟨f | dirty, ⟨session, space⟩⟩ <;>
    rw [hf] at hsession hgrown hheap hstore hunqueued hguarded <;> cases hsession
  · exact ⟨space, hgrown, hheap, hstore, .inl ⟨f, rfl⟩⟩
  · obtain ⟨events, hrun⟩ := forM_enqueue_apply dirty ⟨s.session, space⟩
    have hg := grows_logged space events
    refine ⟨space.logged events, hgrown.trans hg, hheap, hstore, .inr ⟨dirty, ?_,
      hunqueued dirty rfl, fun p hp => (hguarded dirty rfl p hp).mono hg fun _ h => h⟩⟩
    dsimp only
    rw [hrun]
    rfl

/-- UPDATEs of different entities are queued one after the other. -/
theorem queueMerges_moves {dirty : List (Entry × Value)} (ho : s.session.closed = false)
    (hdirty : s.session.Unqueued s.session.map.values dirty)
    (hdistinct : (dirty.map (·.1)).Pairwise fun e f => (e.key == f.key) = false) :
    Moves s [] { s with session := { s.session with
      queue := ⟨s.session.queue.actions ++ dirty.map fun p => .merge p.1 p.2⟩ } } := by
  induction dirty generalizing s with
  | nil =>
    rw [List.map_nil, List.append_nil]
    exact .refl
  | cons p dirty ih =>
    obtain ⟨hne, hpair⟩ := List.pairwise_cons.mp hdistinct
    obtain ⟨hsub, hknown, hfree⟩ := hdirty
    have hqueue := Move.queueMerge p.2 ho (hsub.subset List.mem_cons_self)
      (hknown _ List.mem_cons_self) (hfree _ List.mem_cons_self)
    have hstill : Unqueued { s.session with queue := s.session.queue.add (.merge p.1 p.2) }
        s.session.map.values dirty := by
      refine ⟨(List.sublist_cons_self _ _).trans hsub,
        fun e he => hknown e (List.mem_cons_of_mem _ he), fun e he a ha l hl => ?_⟩
      dsimp only at ha
      rw [ActionQueue.ofKind_add] at ha
      rcases List.mem_append.mp ha with ha | ha
      · exact hfree e (List.mem_cons_of_mem _ he) a ha l hl
      · simp only [Action.kind, if_true, List.mem_singleton] at ha
        subst ha
        cases hl
        exact hne e he
    rw [List.map_cons, List.append_cons]
    exact (Moves.one hqueue).trans (ih ho hstill hpair)

theorem dirtyCheck_moves (hs : s.Valid) (ho : s.session.closed = false) :
    Moves s [] (dirtyCheck g s).2 ∧ (dirtyCheck g s).2.session.closed = false := by
  obtain ⟨w, hg, -, -, ⟨e, hrun⟩ | ⟨dirty, hrun, hunqueued, -⟩⟩ := dirtyCheck_ends g hs ho <;>
    rw [hrun]
  · exact ⟨.one (.work hg), ho⟩
  · have hdistinct : (dirty.map (·.1)).Pairwise fun e f => (e.key == f.key) = false :=
      (hs.coherent.values_distinct.sublist hunqueued.sublist).imp_of_mem fun he hf h =>
        h (hunqueued.known _ he) (hunqueued.known _ hf)
    exact ⟨(Moves.one (.work hg)).trans
      (queueMerges_moves (s := { s with space := w }) ho hunqueued hdistinct), ho⟩

theorem persistDeferred_moves (ho : s.session.closed = false) (i : Instance) :
    Moves s [] (persistDeferred i s).2 := by
  unfold persistDeferred
  rw [bind_of_open ho]
  have hg : s.space.Grows
      (({ s.space with heap := s.space.heap.push i } : Workspace σ).note .trace "Queued action") :=
    (Workspace.Grows.push s.space i).trans (grows_note _ _ _)
  exact (Moves.one (.work hg)).tail (.queuePersist ho (Nat.lt_succ_self _))

/-- A removal leaves everything as it is, or it queues the entry of a key that is known and for
which no removal waits. -/
theorem remove_ends (hs : s.Valid) (ho : s.session.closed = false) (h : Handle) :
    (∃ answer, remove h s = (answer, s)) ∨
      ∃ e ∈ s.session.map.values, s.session.map.contains e.key = true ∧
        s.session.Free .remove e.key ∧
        remove h s = (.ok (), ⟨{ s.session with queue := s.session.queue.add (.remove e) },
          s.space.note .trace "Queued action"⟩) := by
  unfold remove
  rw [bind_of_open ho]
  simp only [bind_apply, get_apply, session_apply]
  generalize EntityKey.ofInstance (s.space.heap.get h) = key
  cases hfind : s.session.map.find? key with
  | none => exact .inl ⟨_, rfl⟩
  | some e =>
    simp only [bind_apply, session_apply]
    cases hpending : s.session.queue.isPending .remove key with
    | true => exact .inl ⟨_, rfl⟩
    | false =>
      have hkey := hs.coherent.key_of_find? hfind
      obtain ⟨l, hl, hbeq⟩ := Assoc.mem_of_find? hfind
      have hmem : e ∈ s.session.map.values := List.mem_map.mpr ⟨(l, e), hl, rfl⟩
      have hknown : s.session.map.contains e.key = true := by
        rw [Assoc.contains_iff]
        exact ⟨l, List.mem_map.mpr ⟨(l, e), hl, rfl⟩, BEq.trans hbeq (BEq.symm hkey)⟩
      have hfree : s.session.Free .remove e.key := fun a ha k hk => by
        rw [BEq.congr_right hkey]
        exact free_of_isPending hpending a ha k hk
      exact .inr ⟨e, hmem, hknown, hfree, rfl⟩

theorem remove_moves (hs : s.Valid) (ho : s.session.closed = false) (h : Handle) :
    Moves s [] (remove h s).2 := by
  obtain ⟨answer, hrun⟩ | ⟨e, he, hknown, hfree, hrun⟩ := remove_ends hs ho h <;> rw [hrun]
  · exact .refl
  · have hnote : Move s [] { s with space := s.space.note .trace "Queued action" } :=
      .work (grows_note _ _ _)
    exact (Moves.one hnote).tail (.queueRemove ho he hknown hfree)

end Session

end EntityMapper
