import EntityMapper.Proofs.Session.Frames
import EntityMapper.Proofs.Session.Mirroring
/-! Covering: in every run of a session no instance is held twice, and each known entity has a
snapshot with a value for each stored field. -/

namespace EntityMapper

variable {σ : Type}

open Session Operation SessionState

/-- The snapshot has a value for each stored field of the entity of a key. -/
def Snapshot.Covers (snapshot : Snapshot) (w : Workspace σ) (k : EntityKey) : Prop :=
  ∃ p m, k.path? = some p ∧ w.journal.registry.find? p = some m ∧
    snapshot.values.length = m.persistent.length

namespace Snapshot.Covers

variable {snapshot : Snapshot} {w v : Workspace σ} {k l : EntityKey}

theorem mono (h : snapshot.Covers w k) (hg : w.Grows v) : snapshot.Covers v k := by
  obtain ⟨p, m, hp, hm, hlen⟩ := h
  exact ⟨p, m, hp, hg.journal _ _ hm, hlen⟩

theorem of_beq (h : snapshot.Covers w k) (hkl : (k == l) = true) : snapshot.Covers w l := by
  obtain ⟨p, m, hp, hm⟩ := h
  exact ⟨p, m, (EntityKey.path?_eq_of_beq hkl).symm.trans hp, hm⟩

theorem capture {m : Metadata} {p : String} (hp : k.path? = some p)
    (hm : w.journal.registry.find? p = some m) (i : Instance) : (Snapshot.capture m i).Covers w k :=
  ⟨p, m, hp, hm, by simp⟩

end Snapshot.Covers

namespace Session

/-- All snapshots have a value for each stored field of their entities. -/
def Covered (s : Session) (w : Workspace σ) : Prop :=
  ∀ p ∈ s.snapshots.entries, p.2.Covers w p.1

namespace Covered

variable {s : Session} {w v : Workspace σ} {e : Entry}

theorem mono (h : s.Covered w) (hg : w.Grows v) : s.Covered v :=
  fun p hp => (h p hp).mono hg

theorem find? (h : s.Covered w) {k : EntityKey} {snapshot : Snapshot}
    (hfind : s.snapshots.find? k = some snapshot) : snapshot.Covers w k := by
  obtain ⟨l, hl, hlk⟩ := Assoc.mem_of_find? hfind
  exact (h _ hl).of_beq hlk

theorem keep (h : s.Covered w) {snapshot : Snapshot} (hcovers : snapshot.Covers w e.key) :
    (s.keep e snapshot).Covered w := by
  intro p hp
  rcases Assoc.mem_insert hp with hp | ⟨hsnapshot, hkey⟩
  · exact h p hp
  · rw [hsnapshot]
    rcases hkey with hkey | hkey
    · rwa [hkey]
    · exact hcovers.of_beq (BEq.symm hkey)

/-- Entries that are ready are kept with whole snapshots. -/
theorem foldl_keepNow (h : s.Covered w) {es : List Entry} (hes : ∀ e ∈ es, e.Ready w) :
    (es.foldl (·.keepNow w ·) s).Covered w := by
  induction es generalizing s with
  | nil => exact h
  | cons e es ih =>
    obtain ⟨m, hm⟩ := (hes e List.mem_cons_self).resolved
    rw [List.foldl_cons, keepNow_of_find? hm]
    exact ih (h.keep (.capture (hes e List.mem_cons_self).path hm _)) fun f hf =>
      hes f (List.mem_cons_of_mem e hf)

theorem forgetAll (h : s.Covered w) (ks : List EntityKey) : (s.forgetAll ks).Covered w := by
  induction ks generalizing s with
  | nil => exact h
  | cons k ks ih => exact ih fun p hp => h p (List.mem_of_mem_eraseP hp)

end Covered

end Session

namespace SessionState

/-- The session is valid, holds no instance twice, and all its snapshots are whole. -/
structure Kept (s : SessionState σ) : Prop where
  valid : s.Valid
  apart : s.session.Apart
  covered : s.session.Covered s.space

/-- The session is open besides. -/
structure Open (s : SessionState σ) : Prop extends s.Kept where
  isOpen : s.session.closed = false

variable {s : SessionState σ} {w : Workspace σ} {e : Entry}

theorem Open.fresh (c : SessionConfig) (w : Workspace σ) : Open ⟨{ config := c }, w⟩ where
  valid := .fresh c w
  apart := ⟨by simp, by simp, by simp [Assoc.empty, Assoc.values]⟩
  covered := by simp [Covered, Assoc.empty]
  isOpen := rfl

theorem Kept.work (hs : s.Kept) (hg : s.space.Grows w) : Kept { s with space := w } :=
  ⟨hs.valid.work hg, hs.apart, hs.covered.mono hg⟩

/-- A session that was closed knows nothing. -/
theorem Open.shut (hs : s.Open) (hq : s.session.queue.actions = []) :
    Kept { s with session := { s.session with
      map := .empty, snapshots := .empty, closed := true } } where
  valid := (Move.close hs.isOpen hq).valid hs.valid
  apart := ⟨hs.apart.queued, by simp [Assoc.empty, Assoc.values],
    by simp [Assoc.empty, Assoc.values]⟩
  covered := by simp [Covered, Assoc.empty]

namespace Open

variable (hs : s.Open)

include hs

theorem work (hg : s.space.Grows w) : Open { s with space := w } :=
  ⟨hs.toKept.work hg, hs.isOpen⟩

theorem note (level : Level) (message : String) :
    Open { s with space := s.space.note level message } :=
  hs.work (grows_note _ _ _)

/-- An entity becomes known with an instance that was not shared before. -/
theorem adopt (hg : s.space.Grows w) (he : e.Sound w) (hnew : s.space.heap.next ≤ e.handle)
    {snapshot : Snapshot} (hcovers : snapshot.Covers w e.key) :
    Open ⟨s.session.keep e snapshot, w⟩ :=
  ⟨⟨hs.valid.keep hs.isOpen hg he snapshot, hs.valid.apart_keep hs.apart hnew snapshot,
    (hs.covered.mono hg).keep hcovers⟩, hs.isOpen⟩

/-- A new instance is shared and becomes known with a snapshot of an instance of its type. -/
theorem adopt_push {i : Instance} (taken : Instance) {m : Metadata}
    (hm : s.space.journal.registry.find? i.type.path = some m) :
    Open ⟨s.session.keep ⟨.ofInstance i, s.space.heap.next⟩ (.capture m taken),
      { s.space with heap := s.space.heap.push i }⟩ :=
  hs.adopt (.push _ i) (.push _ i) (Nat.le_refl _) (.capture rfl hm taken)

/-- What waits may stand in another order. -/
theorem reorder {q : ActionQueue} (hq : q.actions.Perm s.session.queue.actions) :
    Open { s with session := { s.session with queue := q } } where
  valid :=
    { coherent := {
        sameKeys := hs.valid.coherent.sameKeys
        ownKey := hs.valid.coherent.ownKey
        distinct := hs.valid.coherent.distinct
        known := fun a ha => hs.valid.coherent.known a (hq.mem_iff.mp ha)
        single := fun kind => ((hq.filter _).pairwise_iff fun hab k hk l hl =>
          BEq.symm_false (hab l hl k hk)).mpr (hs.valid.coherent.single kind)
        ended := fun hc => absurd (hs.isOpen.symm.trans hc) (by decide) }
      entries := hs.valid.entries
      actions := fun a ha => hs.valid.actions a (hq.mem_iff.mp ha) }
  apart := ⟨(hq.filterMap _).nodup_iff.mpr hs.apart.queued,
    fun e he a ha => hs.apart.known e he a (hq.mem_iff.mp ha), hs.apart.same⟩
  covered := hs.covered
  isOpen := hs.isOpen

theorem activate (active : Bool) :
    Open { s with session := { s.session with active := active } } :=
  ⟨⟨(Move.switch active hs.isOpen).valid hs.valid, ⟨hs.apart.queued, hs.apart.known,
    hs.apart.same⟩, hs.covered⟩, hs.isOpen⟩

/-- Other actions wait. -/
theorem queue {q : ActionQueue} (hvalid : Valid { s with session := { s.session with queue := q } })
    (hapart : Session.Apart { s.session with queue := q }) :
    Open { s with session := { s.session with queue := q } } :=
  ⟨⟨hvalid, hapart, hs.covered⟩, hs.isOpen⟩

end Open

end SessionState

/-- The session that has taken note of what was written. -/
def Session.noting (w : Workspace σ) (o : Outcome) (s : Session) : Session :=
  ((o.persisted ++ o.merged).foldl (·.keepNow w ·) s).forgetAll o.removed

namespace Session

variable (g : Gateway σ) {s : SessionState σ}

section Searches

theorem keeper_open : Keeper g (fun _ => True) Open IsResolved :=
  keeper_of_adopt g Command.allowsSelect_any (fun _ hs => hs.valid)
    (fun _ _ hs hread => hs.work hread.grows) fun _ i _ hs hm _ => hs.adopt_push i hm

theorem meets_searched_open {c : SessionCall} {t : EntityType} (hc : c.searched? = some t) :
    Meets Open (c.run g) (fun _ => Open) Open :=
  SessionCall.meets_searched (keeper_open g) (loader_resolved g _) (fun _ _ _ => trivial)
    (SessionCall.searches_of_searched? g hc)

theorem meets_merge_open (i : Instance) :
    Meets Open (merge g i) (fun _ => Open) Open :=
  (keeper_open g).meets_merge i fun _ _ loaded _ hs _ _ _ hread hm =>
    (hs.work hread.grows).adopt_push loaded hm

end Searches

section Writes

theorem meets_persist_open (i : Instance) :
    Meets Open (persist g i) (fun _ => Open) Open := by
  intro s hs
  obtain ⟨v, hg, ⟨f, -, hrun⟩ | ⟨e, m, -, hhandle, hready, hm, hrun⟩⟩ :=
    persist_ends g hs.isOpen i <;> rw [hrun]
  · exact hs.work hg
  · exact hs.adopt hg hready.toSound (Nat.le_of_eq hhandle.symm) (.capture hready.path hm _)

theorem meets_persistDeferred_open (i : Instance) :
    Meets Open (persistDeferred i : Operation σ Handle) (fun _ => Open) Open := by
  intro s hs
  unfold persistDeferred
  rw [bind_of_open hs.isOpen]
  have hpushed := (hs.work (.push s.space i)).note .trace "Queued action"
  exact hpushed.queue
    ((Move.queuePersist hpushed.isOpen (Nat.lt_succ_self _)).valid hpushed.valid)
    (hs.valid.apart_queuePersist hs.apart (Nat.le_refl _))

theorem meets_remove_open (h : Handle) :
    Meets Open (remove h : Operation σ Unit) (fun _ => Open) Open := by
  intro s hs
  have hvalid := (remove_moves hs.valid hs.isOpen h).valid hs.valid
  obtain ⟨answer, hrun⟩ | ⟨e, -, -, -, hrun⟩ := remove_ends hs.valid hs.isOpen h <;>
    rw [hrun] at hvalid ⊢
  · cases answer <;> exact hs
  · exact (hs.note .trace "Queued action").queue hvalid (hs.apart.queueRemove e)

theorem meets_dirtyCheck_open : Meets Open (dirtyCheck g) (fun _ => Open) Open := by
  intro s hs
  have hvalid := (dirtyCheck_moves g hs.valid hs.isOpen).1.valid hs.valid
  obtain ⟨w, hg, -, -, ⟨e, hrun⟩ | ⟨dirty, hrun, hunqueued, -⟩⟩ :=
    dirtyCheck_ends g hs.valid hs.isOpen
  · rw [hrun]
    exact hs.work hg
  · rw [hrun] at hvalid ⊢
    exact (hs.work hg).queue hvalid (hs.valid.apart_queueMerges hs.apart hunqueued)

/-- What a drain wrote is taken note of. -/
theorem reconcile_noting (hs : s.Valid) :
    (∀ e ∈ (drained g s).1.outcome.persisted ++ (drained g s).1.outcome.merged,
      e.Ready (drained g s).2) ∧
    reconcile g (drained g s).1.outcome
      ⟨{ s.session with queue := ⟨(drained g s).1.left⟩ }, (drained g s).2⟩ =
        (.ok (), ⟨Session.noting (drained g s).2 (drained g s).1.outcome
          { s.session with queue := ⟨(drained g s).1.left⟩ }, (drained g s).2⟩) := by
  have hsound : ∀ a ∈ s.session.queue.ordered, a.Sound s.space :=
    fun a ha => hs.actions a (ActionQueue.mem_ordered.mp ha)
  obtain ⟨⟨done, -, hrecs⟩, -⟩ := g.performAll_drains hsound {}
  change Outcome.Records {} done (drained g s).2 (drained g s).1.outcome at hrecs
  obtain ⟨es, hes, -, hready⟩ := hrecs.persisted
  have hmerged := hrecs.merged
  simp only [List.nil_append] at hes hmerged
  have hall : ∀ e ∈ (drained g s).1.outcome.persisted ++ (drained g s).1.outcome.merged,
      e.Ready (drained g s).2 := by
    rw [hes, hmerged]
    exact List.forall_mem_append.mpr ⟨hready, hrecs.ready⟩
  exact ⟨hall, reconcile_apply g hall⟩

/-- The instances of additions and UPDATEs are those that the actions hold. -/
theorem handles_perm (as : List Action) :
    (as.filterMap Action.inserts ++ (as.filterMap Action.updates).map (·.handle)).Perm
      (as.filterMap Action.handle?) := by
  induction as with
  | nil => exact .nil
  | cons a as ih =>
    cases a with
    | persist h instant => exact ih.cons h
    | merge e x => exact List.perm_middle.trans (ih.cons e.handle)
    | remove e => exact ih

theorem open_drained (hs : s.Open) :
    Open ⟨Session.noting (drained g s).2 (drained g s).1.outcome
      { s.session with queue := ⟨(drained g s).1.left⟩ }, (drained g s).2⟩ := by
  obtain ⟨t, hrun, hmove, htq, htc⟩ := settle_drained g hs.valid hs.isOpen
  obtain ⟨done, es, u, hq, hhandles, -, -, hkeeps, hrun'⟩ := reconcile_drained g hs.valid
  obtain ⟨hready, hnoting⟩ := reconcile_noting g hs.valid
  have hg : s.space.Grows (drained g s).2 := g.steady_performAll _ _ _
  have ht : Session.noting (drained g s).2 (drained g s).1.outcome
      { s.session with queue := ⟨(drained g s).1.left⟩ } = t :=
    congrArg SessionState.session (Prod.mk.inj (hnoting.symm.trans hrun)).2
  have hu : t = u.forgetAll (done.filterMap Action.deletes) :=
    congrArg SessionState.session (Prod.mk.inj (hrun.symm.trans hrun')).2
  rw [ht]
  refine ⟨⟨hmove.valid hs.valid, hs.apart.settleWritten hq htq
    (es ++ done.filterMap Action.updates) ?_ (fun e he => ?_) fun e he => ?_, ?_⟩, htc⟩
  · rw [List.map_append, hhandles]
    exact (handles_perm done).nodup_iff.mpr
      (List.nodup_append.mp (hs.apart.nodup_split hq)).1
  · rcases List.mem_append.mp he with he | he
    · have hmem : e.handle ∈ done.filterMap Action.inserts :=
        hhandles ▸ List.mem_map.mpr ⟨e, he, rfl⟩
      obtain ⟨instant, ha⟩ := Action.mem_inserts_iff.mp hmem
      exact ⟨_, ha, rfl, fun f hf => by cases hf⟩
    · obtain ⟨x, hx⟩ := Action.mem_updates_iff.mp he
      exact ⟨_, hx, rfl, fun f hf => (Option.some.inj hf).symm⟩
  · obtain ⟨p, hp, rfl⟩ := List.mem_map.mp he
    rw [hu] at hp
    refine hkeeps.entries (C := fun e => e ∈ s.session.map.values ∨
      e ∈ es ++ done.filterMap Action.updates) (fun p hp => .inl (List.mem_map.mpr ⟨p, hp, rfl⟩))
      (fun e he => .inr he) p ?_
    exact (u.forgetAll_frame _).2.2 p hp
  · have hcovered : Covered { s.session with queue := ⟨(drained g s).1.left⟩ } (drained g s).2 :=
      hs.covered.mono hg
    rw [← ht]
    exact (hcovered.foldl_keepNow hready).forgetAll _

/-- A flush answers what its drain does, and takes note of what was written. -/
theorem flushActions_noting (hs : s.Valid) : ∃ events, flushActions g s =
    ((drained g s).1.result, ⟨Session.noting (drained g s).2 (drained g s).1.outcome
      { s.session with queue := ⟨(drained g s).1.left⟩ }, (drained g s).2.logged events⟩) := by
  by_cases hq : s.session.queue.actions = []
  · have hordered : s.session.queue.ordered = [] := by
      simp [ActionQueue.ordered, ActionQueue.ofKind, hq]
    have hdrained : drained g s = (⟨.ok (), [], {}⟩, s.space) := by
      rw [drained, Gateway.drain, hordered]
      rfl
    have hsession : { s.session with queue := ⟨[]⟩ } = s.session := by
      rw [← hq]
    refine ⟨s.space.journal.events, ?_⟩
    rw [(flushActions_of_nil g hq).1, hdrained]
    dsimp only
    rw [hsession]
    rfl
  · obtain ⟨-, hrun⟩ := reconcile_noting g hs
    rw [flushActions_apply g hq hrun]
    cases (drained g s).1.result with
    | error e => exact ⟨(drained g s).2.journal.events, rfl⟩
    | ok u => exact ⟨((drained g s).2.note .info "Flushed session").journal.events, rfl⟩

theorem meets_flushActions_open : Meets Open (flushActions g) (fun _ => Open) Open := by
  intro s hs
  obtain ⟨events, hrun⟩ := flushActions_noting g hs.valid
  have hopen := (open_drained g hs).work (grows_logged _ events)
  rw [hrun]
  cases (drained g s).1.result <;> exact hopen

end Writes

section Transactions

theorem meets_takeStep_open (step : TransactionStep) (active : Bool) (message : String) :
    Meets Open (takeStep g step active message) (fun _ => Open) Open := by
  intro s hs
  have hg := g.steady_transact step s.space
  rw [takeStep_apply]
  rcases hr : g.transact step s.space with ⟨e | u, w⟩ <;> rw [hr] at hg
  · exact hs.work hg
  · exact ((hs.work hg).activate active).note .info message

theorem meets_rollback_open : Meets Open (rollback g) (fun _ => Open) Open := by
  refine meets_ensureOpen.bind fun _ => meets_ensureActive.bind fun _ =>
    Meets.bind (Q := fun _ => Open) (fun s hs => ?_) fun _ =>
      meets_takeStep_open g .rollback false _
  exact hs.queue ((Move.drop hs.isOpen).valid hs.valid) ⟨by simp, by simp, hs.apart.same⟩

theorem kept_close (hs : s.Open) : (close g s).2.Kept := by
  have hcheck := meets_dirtyCheck_open g s hs
  rcases hr : dirtyCheck g s with ⟨e | n, t⟩ <;> rw [hr] at hcheck
  · rw [close_of_unchecked g hs.isOpen hr]
    exact hcheck.toKept
  · obtain ⟨events, hclose⟩ := close_of_checked g hs.isOpen hr
    have hflush := meets_flushActions_open g t hcheck
    rw [hclose]
    rcases hf : flushActions g t with ⟨e | u, v⟩ <;> rw [hf] at hflush
    · exact hflush.toKept
    · exact (hflush.shut (queue_of_flushed g hf)).work (grows_logged _ events)

end Transactions

end Session

/-- Every operation keeps what is kept. -/
theorem SessionCall.kept_run (g : Gateway σ) {s : SessionState σ} (hs : s.Kept) (c : SessionCall) :
    (c.run g s).2.Kept := by
  cases hc : s.session.closed with
  | true => rwa [run_of_closed g hc]
  | false =>
    have hopen : s.Open := ⟨hs, hc⟩
    have hkept {x : Operation σ SessionAnswer} (hx : Meets Open x (fun _ => Open) Open) :
        (x s).2.Kept := by
      have := hx s hopen
      rcases hr : x s with ⟨e | v, t⟩ <;> rw [hr] at this <;> exact this.toKept
    cases c with
    | persist i => exact hkept (meets_persist_open g i).map
    | persistDeferred i => exact hkept (meets_persistDeferred_open i).map
    | merge i => exact hkept (meets_merge_open g i).map
    | remove h => exact hkept (meets_remove_open h).map
    | dirtyCheck => exact hkept (meets_dirtyCheck_open g).map
    | flush => exact hkept (meets_ensureOpen.bind fun _ => meets_flushActions_open g).map
    | close =>
      rw [run, map_apply]
      exact kept_close g hopen
    | begin => exact hkept (meets_begin g (meets_takeStep_open g .start true _)).map
    | commit =>
      exact hkept (meets_commit g (meets_flushActions_open g)
        (meets_takeStep_open g .commit false _)).map
    | rollback => exact hkept (meets_rollback_open g).map
    | findById _ _ | findBy _ _ _ | findAllBy _ _ _ | nativeBy _ _ _ | nativeAll _ _ _
    | queryBy _ _ | queryAll _ _ => exact hkept (meets_searched_open g rfl)

theorem SessionRun.kept {g : Gateway σ} {c : SessionConfig} {w : Workspace σ}
    {evs : List SessionEvent} {s : SessionState σ} (h : SessionRun g ⟨{ config := c }, w⟩ evs s) :
    s.Kept := by
  induction h with
  | refl => exact (Open.fresh c w).toKept
  | call h c ih => exact c.kept_run g ih
  | turn h hg ih => exact ih.work hg

end EntityMapper
