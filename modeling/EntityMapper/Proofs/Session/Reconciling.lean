import EntityMapper.Proofs.Session.Differing
import EntityMapper.Proofs.Session.Instances
import EntityMapper.Proofs.Session.Pending
/-! Reconciling: wherever a flush stops, a session knows just what was written and no longer knows
what was removed. -/

namespace EntityMapper

variable {σ : Type}

open Session Operation SessionState

namespace Instance

/-- Whether the value of a stored field is a NaN or holds one. -/
def holdsNaN (i : Instance) : Bool :=
  i.slots.any fun p => (i.fieldValue p.1).any Value.hasNaN

theorem hasNaN_of_fieldValue {i : Instance} (hi : i.holdsNaN = false) {name : String} {v : Value}
    (hv : i.fieldValue name = some v) : v.hasNaN = false := by
  have hslot : ∃ slot, i.slots.lookup name = some slot := by
    unfold fieldValue slot? at hv
    cases h : i.slots.lookup name with
    | none => simp [h] at hv
    | some slot => exact ⟨slot, rfl⟩
  obtain ⟨slot, hslot⟩ := hslot
  obtain ⟨before, after, hsplit, -⟩ := List.lookup_eq_some_iff.mp hslot
  have hnone := List.any_eq_false.mp hi (name, slot) (by rw [hsplit]; simp)
  simpa [hv] using hnone

end Instance

namespace Session

/-- What a session holds for a key: the entry in its map and the snapshot. -/
def held (s : Session) (k : EntityKey) : Option Entry × Option Snapshot :=
  (s.map.find? k, s.snapshots.find? k)

variable {s t : Session} {e : Entry} {k l : EntityKey} {w : Workspace σ}

theorem held_congr (h : (k == l) = true) (s : Session) : s.held k = s.held l :=
  Prod.ext (Assoc.find?_congr _ h) (Assoc.find?_congr _ h)

theorem held_keep_of_beq (h : (e.key == k) = true) (snapshot : Snapshot) :
    (s.keep e snapshot).held k = (some e, some snapshot) :=
  Prod.ext (Assoc.find?_insert_of_beq _ h _) (Assoc.find?_insert_of_beq _ h _)

theorem Keeps.held_of_not_beq {es : List Entry} (h : s.Keeps es t)
    (hes : ∀ e ∈ es, (e.key == k) = false) : t.held k = s.held k :=
  Prod.ext (h.find? hes) (h.snapshot_of_not_beq hes)

theorem held_forgetAll_of_not_beq {ks : List EntityKey} (hks : ∀ l ∈ ks, (l == k) = false)
    (s : Session) : (s.forgetAll ks).held k = s.held k := by
  induction ks generalizing s with
  | nil => rfl
  | cons l ks ih =>
    refine (ih (fun m hm => hks m (List.mem_cons_of_mem l hm)) (s.forget l)).trans ?_
    have hl := hks l List.mem_cons_self
    exact Prod.ext (Assoc.find?_erase_of_not_beq _ hl) (Assoc.find?_erase_of_not_beq _ hl)

/-- Of entries with different keys each is kept as its instance is now. -/
theorem held_foldl_keepNow {es : List Entry} (hes : ∀ e ∈ es, e.Ready w)
    (hdistinct : es.Pairwise fun e f => (e.key == f.key) = false) (he : e ∈ es)
    (hself : (e.key == e.key) = true) (s : Session) :
    ∃ m, w.journal.registry.find? (w.heap.get e.handle).type.path = some m ∧
      (es.foldl (·.keepNow w ·) s).held e.key =
        (some e, some (.capture m (w.heap.get e.handle))) := by
  induction es generalizing s with
  | nil => cases he
  | cons f es ih =>
    obtain ⟨hf, hdistinct⟩ := List.pairwise_cons.mp hdistinct
    have hrest := fun e he => hes e (List.mem_cons_of_mem f he)
    rw [List.foldl_cons]
    rcases List.mem_cons.mp he with rfl | he
    · obtain ⟨m, hm⟩ := (hes e List.mem_cons_self).resolved
      refine ⟨m, hm, ?_⟩
      have hlater := (keeps_keepNow hrest (s.keepNow w e)).held_of_not_beq (k := e.key)
        fun g hg => BEq.symm_false (hf g hg)
      rw [hlater, keepNow_of_find? hm]
      exact held_keep_of_beq hself _
    · exact ih hrest hdistinct he (s.keepNow w f)

/-- What was forgotten is not held. -/
theorem held_forgetAll_of_mem {ks : List EntityKey} (hm : s.map.Distinct)
    (hsame : s.map.keys = s.snapshots.keys) (hk : k ∈ ks) (hself : (k == k) = true) :
    (s.forgetAll ks).held k = (none, none) := by
  have hkeys : (s.forgetAll ks).map.keys = (s.forgetAll ks).snapshots.keys := by
    clear hk hm
    induction ks generalizing s with
    | nil => exact hsame
    | cons l ks ih => exact ih (s := s.forget l) (Assoc.keys_erase_congr hsame l)
  have hnone := contains_forgetAll_of_beq hm ⟨k, hk, hself⟩
  have hnone' := (Assoc.contains_congr hkeys k).symm.trans hnone
  exact Prod.ext (Option.isNone_iff_eq_none.mp (Option.isSome_eq_false_iff.mp hnone))
    (Option.isNone_iff_eq_none.mp (Option.isSome_eq_false_iff.mp hnone'))

/-- A session has taken note of what a flush wrote. Each entity whose row was written is known with
a snapshot of what it holds now, unless its row was removed by the same flush. What was removed is
no longer known, and for all other keys the session holds what it held. -/
structure Reconciled (s t : Session) (w : Workspace σ) (o : Outcome) : Prop where
  written : ∀ e ∈ o.persisted ++ o.merged, (∀ k ∈ o.removed, (k == e.key) = false) →
    ∃ m, w.journal.registry.find? (w.heap.get e.handle).type.path = some m ∧
      t.held e.key = (some e, some (.capture m (w.heap.get e.handle)))
  removed : ∀ k ∈ o.removed, t.held k = (none, none)
  others : ∀ k, (∀ e ∈ o.persisted ++ o.merged, (e.key == k) = false) →
    (∀ l ∈ o.removed, (l == k) = false) → t.held k = s.held k

/-- The identifiers that a store made are exact, and their keys are neither known nor used twice. -/
structure Fresh (s : Session) (o : Outcome) : Prop where
  exact : ∀ e ∈ o.persisted, e.key.id.isExact = true
  unknown : ∀ e ∈ o.persisted, s.map.contains e.key = false
  distinct : o.persisted.Pairwise fun e f => (e.key == f.key) = false

end Session

namespace SessionState

variable (g : Gateway σ) {s : SessionState σ}

/-- What a drain records of UPDATEs and removals are queued ones. -/
theorem Valid.recorded (hs : s.Valid) : ∃ done,
    s.session.queue.ordered = done ++ (drained g s).1.left ∧
      (drained g s).1.outcome.merged = done.filterMap Action.updates ∧
      (drained g s).1.outcome.removed = done.filterMap Action.deletes := by
  have hsound : ∀ a ∈ s.session.queue.ordered, a.Sound s.space :=
    fun a ha => hs.actions a (ActionQueue.mem_ordered.mp ha)
  obtain ⟨⟨done, hq, hrecords⟩, -⟩ := g.performAll_drains hsound {}
  exact ⟨done, hq, hrecords.merged, hrecords.removed⟩

/-- An UPDATE was recorded for a queued action, and its key is known. -/
theorem Valid.of_mem_merged (hs : s.Valid) {e : Entry}
    (he : e ∈ (drained g s).1.outcome.merged) :
    (∃ x, Action.merge e x ∈ s.session.queue.actions) ∧
      s.session.map.contains e.key = true := by
  obtain ⟨done, hq, hmerged, -⟩ := hs.recorded g
  rw [hmerged] at he
  obtain ⟨x, hx⟩ := Action.mem_updates_iff.mp he
  have hmem := ActionQueue.mem_of_mem_done hq hx
  exact ⟨⟨x, hmem⟩, hs.coherent.known _ hmem _ rfl⟩

theorem Valid.of_mem_removed (hs : s.Valid) {k : EntityKey}
    (hk : k ∈ (drained g s).1.outcome.removed) : s.session.map.contains k = true := by
  obtain ⟨done, hq, -, hremoved⟩ := hs.recorded g
  rw [hremoved] at hk
  obtain ⟨e, he, rfl⟩ := Action.mem_deletes_iff.mp hk
  exact hs.coherent.known _ (ActionQueue.mem_of_mem_done hq he) _ rfl

/-- No two UPDATEs that a flush records are for one key. -/
theorem Valid.merged_distinct (hs : s.Valid) :
    (drained g s).1.outcome.merged.Pairwise fun e f => (e.key == f.key) = false := by
  obtain ⟨done, hq, hmerged, -⟩ := hs.recorded g
  have hsingle := hs.coherent.single .merge
  rw [ActionQueue.ofKind_split hq] at hsingle
  have hmerges : done.filterMap Action.updates =
      (done.filter (·.kind == .merge)).filterMap Action.updates := by
    rw [List.filterMap_filter]
    refine List.filterMap_congr fun a _ => ?_
    cases a <;> rfl
  rw [hmerged, hmerges]
  refine (List.pairwise_append.mp hsingle).1.filterMap _ fun a b hab e he f hf => ?_
  cases a <;> cases he
  cases b <;> cases hf
  exact hab _ rfl _ rfl

/-- Nothing that a flush records is recorded twice. -/
theorem Valid.recorded_distinct (hs : s.Valid)
    (hfresh : s.session.Fresh (drained g s).1.outcome) :
    ((drained g s).1.outcome.persisted ++ (drained g s).1.outcome.merged).Pairwise
      fun e f => (e.key == f.key) = false := by
  refine List.pairwise_append.mpr ⟨hfresh.distinct, hs.merged_distinct g, fun e he f hf => ?_⟩
  refine Bool.eq_false_iff.mpr fun hbeq => ?_
  have hknown := Assoc.contains_of_beq (BEq.symm hbeq) (hs.of_mem_merged g hf).2
  rw [hfresh.unknown e he] at hknown
  cases hknown

/-- Whatever a flush wrote before it stopped, taking note of it reconciles the session. -/
theorem Valid.reconciled_noting (hs : s.Valid) (ho : s.session.closed = false)
    (hfresh : s.session.Fresh (drained g s).1.outcome) :
    s.session.Reconciled (Session.noting (drained g s).2 (drained g s).1.outcome
      { s.session with queue := ⟨(drained g s).1.left⟩ }) (drained g s).2
      (drained g s).1.outcome := by
  obtain ⟨hready, -⟩ := reconcile_noting g hs
  have hdistinct := hs.recorded_distinct g hfresh
  have hkeeps := keeps_keepNow hready { s.session with queue := ⟨(drained g s).1.left⟩ }
  refine ⟨fun e he hkept => ?_, fun k hk => ?_, fun k hwritten hremoved => ?_⟩
  · have hself : (e.key == e.key) = true := by
      rcases List.mem_append.mp he with he | he
      · exact EntityKey.beq_self (hfresh.exact e he)
      · exact Assoc.beq_self_of_contains (hs.of_mem_merged g he).2
    obtain ⟨m, hm, hheld⟩ := held_foldl_keepNow hready hdistinct he hself _
    exact ⟨m, hm, (held_forgetAll_of_not_beq hkept _).trans hheld⟩
  · obtain ⟨done, hq, -⟩ := hs.recorded g
    have hcoherent := hkeeps.coherent (hs.coherent.shorten ho hq) ho
    exact held_forgetAll_of_mem hcoherent.distinct hcoherent.sameKeys hk
      (Assoc.beq_self_of_contains (hs.of_mem_removed g hk))
  · exact (held_forgetAll_of_not_beq hremoved _).trans (hkeeps.held_of_not_beq hwritten)

end SessionState

namespace Session

variable (g : Gateway σ) {s t : SessionState σ}

/-- Two states have the same instances and mappings, and the sessions hold the same. -/
structure SameHeld (s t : SessionState σ) : Prop where
  map : t.session.map = s.session.map
  snapshots : t.session.snapshots = s.session.snapshots
  heap : t.space.heap = s.space.heap
  registry : t.space.journal.registry = s.space.journal.registry

instance : IsPreorder (SessionState σ) SameHeld where
  refl _ := ⟨rfl, rfl, rfl, rfl⟩
  trans _ _ _ h h' := ⟨h'.map.trans h.map, h'.snapshots.trans h.snapshots, h'.heap.trans h.heap,
    h'.registry.trans h.registry⟩

theorem SameHeld.held (h : SameHeld s t) (k : EntityKey) : t.session.held k = s.session.held k := by
  rw [Session.held, h.map, h.snapshots]
  rfl

theorem Reconciled.same {r : Session} {o : Outcome} (h : r.Reconciled s.session s.space o)
    (hsame : SameHeld s t) : r.Reconciled t.session t.space o := by
  have hheld := hsame.held
  refine ⟨fun e he hkept => ?_, fun k hk => (hheld k).trans (h.removed k hk),
    fun k hwritten hremoved => (hheld k).trans (h.others k hwritten hremoved)⟩
  rw [hheld, hsame.heap, hsame.registry]
  exact h.written e he hkept

theorem sameHeld_flushActions (hs : s.Valid) :
    SameHeld ⟨Session.noting (drained g s).2 (drained g s).1.outcome
      { s.session with queue := ⟨(drained g s).1.left⟩ }, (drained g s).2⟩ (flushActions g s).2 := by
  obtain ⟨events, hrun⟩ := flushActions_noting g hs
  rw [hrun]
  exact ⟨rfl, rfl, rfl, rfl⟩

theorem sameHeld_takeStep (step : TransactionStep) (active : Bool) (message : String) :
    Within SameHeld (takeStep g step active message) := by
  intro s
  have hheap := (g.transact_frame step s.space).1
  have hregistry := g.registry_transact step s.space
  rw [takeStep_apply]
  rcases hr : g.transact step s.space with ⟨e | u, w⟩ <;> rw [hr] at hheap hregistry <;>
    exact ⟨rfl, rfl, hheap, hregistry⟩

theorem sameHeld_commit (ho : s.session.closed = false) (ha : s.session.active = true) :
    SameHeld (flushActions g s).2 (commit g s).2 :=
  commit_within (sameHeld_takeStep g .commit false _) ho ha

/-- A check for changes leaves what a session holds. -/
theorem held_dirtyCheck (hs : s.Valid) (ho : s.session.closed = false) :
    (dirtyCheck g s).2.session.map = s.session.map ∧
      (dirtyCheck g s).2.session.snapshots = s.session.snapshots := by
  obtain ⟨w, -, -, -, ⟨e, hrun⟩ | ⟨dirty, hrun, -⟩⟩ := dirtyCheck_ends g hs ho <;> rw [hrun] <;>
    exact ⟨rfl, rfl⟩

theorem reconciled_flushActions (hs : s.Valid) (ho : s.session.closed = false)
    (hfresh : s.session.Fresh (drained g s).1.outcome) :
    s.session.Reconciled (flushActions g s).2.session (flushActions g s).2.space
      (drained g s).1.outcome :=
  (hs.reconciled_noting g ho hfresh).same (sameHeld_flushActions g hs)

section Prepared

/-- What an operation that performs the queued actions finds. -/
theorem open_of_flushes {c : SessionCall} (hc : c.flushes g s = true) :
    s.session.closed = false ∧ (c = .commit → s.session.active = true) ∧
      (c = .close → (dirtyCheck g s).1.isOk = true) := by
  obtain ⟨ho, hc⟩ := Bool.and_eq_true_iff.mp hc
  refine ⟨by simpa using ho, ?_, ?_⟩ <;> rintro rfl <;> exact hc

/-- A session that is closed ends as its flush does, and if that succeeds it knows nothing more. -/
theorem close_of_flushes (hc : SessionCall.close.flushes g s = true) :
    (∃ e, close g s = (.error e, (flushActions g (dirtyCheck g s).2).2)) ∨
      ∃ events, close g s = (.ok (), ⟨{ (flushActions g (dirtyCheck g s).2).2.session with
        map := .empty, snapshots := .empty, closed := true },
        (flushActions g (dirtyCheck g s).2).2.space.logged events⟩) := by
  obtain ⟨ho, -, hok⟩ := open_of_flushes g hc
  have hok := hok rfl
  rcases hr : dirtyCheck g s with ⟨e | n, t⟩ <;> rw [hr] at hok
  · cases hok
  obtain ⟨events, hrun⟩ := close_of_checked g ho hr
  rw [hrun]
  rcases flushActions g t with ⟨e | u, v⟩
  · exact .inl ⟨e, rfl⟩
  · exact .inr ⟨events, rfl⟩

variable {c : SessionCall} (hc : c.flushes g s = true)

include hc

/-- When an operation performs the queued actions, the session is open and holds what it held. -/
theorem prepared_of_flushes (hs : s.Valid) : (c.prepared g s).Valid ∧
    (c.prepared g s).session.closed = false ∧ (c.prepared g s).session.map = s.session.map ∧
      (c.prepared g s).session.snapshots = s.session.snapshots := by
  obtain ⟨ho, -⟩ := open_of_flushes g hc
  cases c with
  | close =>
    obtain ⟨hmoves, hopen⟩ := dirtyCheck_moves g hs ho
    exact ⟨hmoves.valid hs, hopen, held_dirtyCheck g hs ho⟩
  | flush | commit => exact ⟨hs, ho, rfl, rfl⟩
  | _ => cases (Bool.and_eq_true_iff.mp hc).2

/-- If the session stays open it holds in the end what the flush leaves. -/
theorem sameHeld_run (hclose : c = .close → (c.run g s).1.isOk = false) :
    SameHeld (flushActions g (c.prepared g s)).2 (c.run g s).2 := by
  obtain ⟨ho, hactive, -⟩ := open_of_flushes g hc
  cases c with
  | flush =>
    rw [SessionCall.run, map_apply, flush, bind_of_open ho]
    exact refl _
  | commit =>
    rw [SessionCall.run, map_apply]
    exact sameHeld_commit g ho (hactive rfl)
  | close =>
    have hfailed := hclose rfl
    rw [SessionCall.run, map_apply] at hfailed ⊢
    obtain ⟨e, hrun⟩ | ⟨events, hrun⟩ := close_of_flushes g hc <;> rw [hrun] at hfailed ⊢
    · exact refl _
    · cases hfailed
  | _ => cases (Bool.and_eq_true_iff.mp hc).2

/-- All instances are as the flush leaves them. -/
theorem heap_run : (c.run g s).2.space.heap = (flushActions g (c.prepared g s)).2.space.heap := by
  by_cases hclose : c = .close
  · subst hclose
    rw [SessionCall.run, map_apply]
    obtain ⟨e, hrun⟩ | ⟨events, hrun⟩ := close_of_flushes g hc <;> rw [hrun] <;> rfl
  · exact (sameHeld_run g hc fun h => absurd h hclose).heap

end Prepared

/-- However an operation that performs the queued actions ends, if the session stays open it is
reconciled with what was written. -/
theorem reconciled_run (hs : s.Valid) {c : SessionCall} (hc : c.flushes g s = true)
    (hclose : c = .close → (c.run g s).1.isOk = false)
    (hfresh : s.session.Fresh (drained g (c.prepared g s)).1.outcome) :
    s.session.Reconciled (c.run g s).2.session (c.run g s).2.space
      (drained g (c.prepared g s)).1.outcome := by
  obtain ⟨hvalid, hopen, hmap, hsnapshots⟩ := prepared_of_flushes g hc hs
  have hflush := (reconciled_flushActions g hvalid hopen
    ⟨hfresh.exact, by rw [hmap]; exact hfresh.unknown, hfresh.distinct⟩).same
      (sameHeld_run g hc hclose)
  refine ⟨hflush.written, hflush.removed, fun k hwritten hremoved => ?_⟩
  rw [hflush.others k hwritten hremoved, held, hmap, hsnapshots]
  rfl

section Recheck

variable {u : SessionState σ}

/-- A flush that succeeds has recorded every UPDATE and every removal that was queued. -/
theorem recorded_of_flushed (ht : t.Open) (hrun : flushActions g t = (.ok (), u)) :
    (∀ f x, Action.merge f x ∈ t.session.queue.actions → f ∈ (drained g t).1.outcome.merged) ∧
      ∀ f, Action.remove f ∈ t.session.queue.actions →
        f.key ∈ (drained g t).1.outcome.removed := by
  obtain ⟨done, hq, hmerged, hremoved⟩ := ht.valid.recorded g
  rw [left_of_flushed g hrun, List.append_nil] at hq
  rw [hmerged, hremoved, ← hq]
  exact ⟨fun f x hf => List.mem_filterMap.mpr ⟨_, ActionQueue.mem_ordered.mpr hf, rfl⟩,
    fun f hf => List.mem_filterMap.mpr ⟨_, ActionQueue.mem_ordered.mpr hf, rfl⟩⟩

/-- What a session knows after a flush was known before or was written. -/
theorem values_of_flushed (ht : t.Valid) {e : Entry}
    (he : e ∈ (flushActions g t).2.session.map.values) : e ∈ t.session.map.values ∨
      e ∈ (drained g t).1.outcome.persisted ++ (drained g t).1.outcome.merged := by
  obtain ⟨hready, -⟩ := reconcile_noting g ht
  obtain ⟨events, hrun⟩ := flushActions_noting g ht
  rw [hrun] at he
  obtain ⟨p, hp, rfl⟩ := List.mem_map.mp he
  exact (keeps_keepNow hready { t.session with queue := ⟨(drained g t).1.left⟩ }).entries
    (C := fun e => e ∈ t.session.map.values ∨
      e ∈ (drained g t).1.outcome.persisted ++ (drained g t).1.outcome.merged)
    (fun p hp => .inl (List.mem_map.mpr ⟨p, hp, rfl⟩)) (fun e he => .inr he) p
    ((forgetAll_frame _ _).2.2 p hp)

/-- Identifiers stay exact when the store makes exact ones. -/
theorem exact_of_flushed (ht : t.Valid) (hfresh : t.session.Fresh (drained g t).1.outcome)
    (hexact : ∀ e ∈ t.session.map.values, e.key.id.isExact = true) :
    ∀ e ∈ (flushActions g t).2.session.map.values, e.key.id.isExact = true := by
  intro e he
  rcases values_of_flushed g ht he with he | he
  · exact hexact e he
  rcases List.mem_append.mp he with he | he
  · exact hfresh.exact e he
  · obtain ⟨f, hf⟩ := Option.isSome_iff_exists.mp (ht.of_mem_merged g he).2
    obtain ⟨l, hl, -⟩ := Assoc.mem_of_find? hf
    exact EntityKey.isExact_of_beq (hexact f (List.mem_map.mpr ⟨_, hl, rfl⟩))
      (ht.coherent.key_of_find? hf)

theorem not_awaits_of_not_beq {k : EntityKey}
    (hmerge : ∀ f x, Action.merge f x ∈ t.session.queue.actions → (f.key == k) = false)
    (hremove : ∀ f, Action.remove f ∈ t.session.queue.actions → (f.key == k) = false) :
    ¬ t.session.Awaits k := by
  rintro ⟨a, ha, l, hl, hlk⟩
  cases a with
  | persist h instant => cases hl
  | merge f x =>
    cases hl
    rw [hmerge f x ha] at hlk
    cases hlk
  | remove f =>
    cases hl
    rw [hremove f ha] at hlk
    cases hlk

/-- A known entity that no UPDATE was queued for is the same after a flush. -/
theorem get_of_flushed (ht : t.Open) (hrun : flushActions g t = (.ok (), u)) {e : Entry}
    (he : e ∈ t.session.map.values) (hk : e.key.id.isExact = true)
    (hmerge : ∀ f x, Action.merge f x ∈ t.session.queue.actions → (f.key == e.key) = false) :
    u.space.heap.get e.handle = t.space.heap.get e.handle := by
  have hhandles : ∀ a ∈ t.session.queue.ordered, a.handle? ≠ some e.handle := by
    intro a ha hhandle
    have hupdates := ht.apart.known e he a (ActionQueue.mem_ordered.mp ha) hhandle
    cases a with
    | merge f x =>
      cases hupdates
      have hself := hmerge e x (ActionQueue.mem_ordered.mp ha)
      rw [EntityKey.beq_self hk] at hself
      cases hself
    | _ => cases hupdates
  obtain ⟨events, hnoting⟩ := flushActions_noting g ht.valid
  rw [hrun] at hnoting
  obtain ⟨-, rfl⟩ := Prod.mk.inj hnoting
  exact g.get_performAll_of_ne hhandles {} t.space

/-- After a flush that succeeds a known entity is as its snapshot says, because it was written, or
else it is known as before and nothing waited for it. -/
theorem settled_of_flushed (ht : t.Open) (hfresh : t.session.Fresh (drained g t).1.outcome)
    (hrun : flushActions g t = (.ok (), u)) {e : Entry} (he : e ∈ u.session.map.values)
    (hk : e.key.id.isExact = true) :
    (∃ m, u.space.journal.registry.find? (u.space.heap.get e.handle).type.path = some m ∧
        u.session.snapshots.find? e.key = some (.capture m (u.space.heap.get e.handle))) ∨
      e ∈ t.session.map.values ∧ u.session.snapshots.find? e.key = t.session.snapshots.find? e.key ∧
        u.space.heap.get e.handle = t.space.heap.get e.handle ∧ ¬ t.session.Awaits e.key := by
  have hu := meets_flushActions_open g t ht
  have hreconciled := reconciled_flushActions g ht.valid ht.isOpen hfresh
  obtain ⟨hmerged, hremoved⟩ := recorded_of_flushed g ht hrun
  rw [hrun] at hu hreconciled
  have hfind := hu.valid.coherent.find?_of_mem_values he (hu.valid.contains_key he hk)
  have hkept : ∀ k ∈ (drained g t).1.outcome.removed, (k == e.key) = false := fun k hkr => by
    refine Bool.eq_false_iff.mpr fun hbeq => ?_
    have hheld := (held_congr hbeq u.session).symm.trans (hreconciled.removed k hkr)
    rw [held, hfind] at hheld
    cases hheld
  by_cases hwritten : ∃ f ∈ (drained g t).1.outcome.persisted ++ (drained g t).1.outcome.merged,
      (f.key == e.key) = true
  · obtain ⟨f, hf, hfe⟩ := hwritten
    obtain ⟨m, hm, hheld⟩ := hreconciled.written f hf fun k hkr => by
      rw [BEq.congr_right hfe]
      exact hkept k hkr
    rw [held_congr hfe, held, hfind] at hheld
    obtain ⟨hef, hsnapshot⟩ := Prod.mk.inj hheld
    obtain rfl := Option.some.inj hef
    exact .inl ⟨m, hm, hsnapshot⟩
  · have hne : ∀ f ∈ (drained g t).1.outcome.persisted ++ (drained g t).1.outcome.merged,
        (f.key == e.key) = false := fun f hf =>
      Bool.eq_false_iff.mpr fun hbeq => hwritten ⟨f, hf, hbeq⟩
    have hmerge : ∀ f x, Action.merge f x ∈ t.session.queue.actions → (f.key == e.key) = false :=
      fun f x hf => hne f (List.mem_append_right _ (hmerged f x hf))
    obtain ⟨hmap, hsnapshots⟩ := Prod.mk.inj (hreconciled.others e.key hne hkept)
    have hbefore : e ∈ t.session.map.values := by
      obtain ⟨l, hl, -⟩ := Assoc.mem_of_find? (hmap.symm.trans hfind)
      exact List.mem_map.mpr ⟨_, hl, rfl⟩
    exact .inr ⟨hbefore, hsnapshots, get_of_flushed g ht hrun hbefore hk hmerge,
      not_awaits_of_not_beq hmerge fun f hf => hkept _ (hremoved f hf)⟩

/-- An entity is as the snapshot says that was taken of it, unless it holds a NaN. -/
theorem not_differs_capture {m : Metadata} {i : Instance} (hi : i.holdsNaN = false) :
    ¬ (Snapshot.capture m i).Differs m i := by
  rintro ⟨n, f, v, hf, hv, hdiffers⟩
  have hvalue : v = (i.fieldValue f.field).getD .null := by
    simpa [Snapshot.capture, hf, eq_comm] using hv
  have hequal : v.equal v = true := by
    refine Value.equal_self_of_hasNaN ?_
    rw [hvalue]
    cases hfield : i.fieldValue f.field with
    | none => rfl
    | some x => exact Instance.hasNaN_of_fieldValue hi hfield
  rw [← hvalue, hequal] at hdiffers
  cases hdiffers

theorem grows_flushActions (ht : t.Valid) : t.space.Grows (flushActions g t).2.space := by
  obtain ⟨events, hrun⟩ := flushActions_noting g ht
  have hg : t.space.Grows (drained g t).2 := g.steady_performAll _ _ _
  rw [hrun]
  exact hg.trans (grows_logged _ events)

/-- If only entities for which a write waits differ from their snapshots, then none does after a
flush that succeeds. -/
theorem not_differs_of_flushed (ht : t.Open) (hfresh : t.session.Fresh (drained g t).1.outcome)
    (hrun : flushActions g t = (.ok (), u)) {e : Entry} (he : e ∈ u.session.map.values)
    (hk : e.key.id.isExact = true) (hnan : (u.space.heap.get e.handle).holdsNaN = false)
    (hclean : e ∈ t.session.map.values → ¬ t.session.Awaits e.key → ¬ t.Differs e) :
    ¬ u.Differs e := by
  rintro ⟨snapshot, m, hsnapshot, hm, hdiffers⟩
  rcases settled_of_flushed g ht hfresh hrun he hk with
    ⟨m', hm', hcaptured⟩ | ⟨hbefore, hsame, hget, hfree⟩
  · obtain rfl := Option.some.inj (hsnapshot.symm.trans hcaptured)
    obtain rfl := Option.some.inj (hm.symm.trans hm')
    exact not_differs_capture hnan hdiffers
  · obtain ⟨-, m', -, hm', -⟩ := ht.toKept.snapshot hbefore hk
    have hgrows := grows_flushActions g ht.valid
    rw [hrun] at hgrows
    rw [hget] at hm hdiffers
    obtain rfl := Option.some.inj (hm.symm.trans (hgrows.journal _ _ hm'))
    exact hclean hbefore hfree ⟨snapshot, m, hsame.symm.trans hsnapshot, hm', hdiffers⟩

/-- After a check for changes and a flush that succeeds, a second check finds nothing. -/
theorem recheck_nothing (hs : s.Open)
    (hexact : ∀ e ∈ s.session.map.values, e.key.id.isExact = true) {n : Nat}
    (hcheck : dirtyCheck g s = (.ok n, t)) (hrun : flushActions g t = (.ok (), u))
    (hfresh : t.session.Fresh (drained g t).1.outcome)
    (hnan : ∀ e ∈ u.session.map.values, (u.space.heap.get e.handle).holdsNaN = false) :
    ∃ events, dirtyCheck g u = (.ok 0, { u with space := u.space.logged events }) := by
  obtain ⟨dirty, events, hchecked, hfinds⟩ := dirtyCheck_apply g hs hexact
  have ht := meets_dirtyCheck_open g s hs
  rw [hcheck] at ht
  have ht : t.Open := ht
  obtain ⟨-, hteq⟩ := Prod.mk.inj (hcheck.symm.trans hchecked)
  have hu := meets_flushActions_open g t ht
  have huexact := exact_of_flushed g ht.valid hfresh (by rw [hteq]; exact hexact)
  rw [hrun] at hu huexact
  obtain ⟨again, events', hrecheck, hagain⟩ := dirtyCheck_apply g hu huexact
  have hnothing : again = [] := by
    refine List.eq_nil_iff_forall_not_mem.mpr fun p hp => ?_
    have hmem : p.1 ∈ again.map (·.1) := List.mem_map.mpr ⟨p, hp, rfl⟩
    have he := hagain.sublist.subset hmem
    refine not_differs_of_flushed g ht hfresh hrun he (huexact _ he) (hnan _ he)
      (fun hbefore hfree hdiffers => ?_) ((hagain.mem_iff _ he).mp hmem).2
    -- A first entity that differs would have been found, and an UPDATE of it would be waiting.
    rw [hteq] at hbefore hfree hdiffers
    have hfound := (hfinds.mem_iff _ hbefore).mpr
      ⟨fun ⟨a, ha, hkey⟩ => hfree ⟨a, List.mem_append_left _ ha, hkey⟩, hdiffers⟩
    obtain ⟨q, hq, hqe⟩ := List.mem_map.mp hfound
    refine hfree ⟨.merge q.1 q.2, List.mem_append_right _ (List.mem_map.mpr ⟨q, hq, rfl⟩),
      q.1.key, rfl, ?_⟩
    rw [hqe]
    exact EntityKey.beq_self (huexact _ he)
  refine ⟨events', ?_⟩
  rw [hrecheck, hnothing, List.map_nil, List.append_nil]
  rfl

end Recheck

end Session

/-- Wherever a flush stops, a session knows what was written, no longer knows what was removed, and
otherwise knows what it knew. After a check for changes and a flush that succeeds, a second check
finds nothing as long as no field holds a NaN. -/
theorem SessionRun.stays_reconciled {g : Gateway σ} {c : SessionConfig} {w : Workspace σ}
    {evs : List SessionEvent} {s : SessionState σ}
    (h : SessionRun g ⟨{ config := c }, w⟩ evs s) :
    (∀ call : SessionCall, call.flushes g s = true →
      (call = .close → (call.run g s).1.isOk = false) →
      s.session.Fresh (drained g (call.prepared g s)).1.outcome →
      s.session.Reconciled (call.run g s).2.session (call.run g s).2.space
        (drained g (call.prepared g s)).1.outcome) ∧
      ∀ n t u, (∀ e ∈ s.session.map.values, e.key.id.isExact = true) →
        dirtyCheck g s = (.ok n, t) → flush g t = (.ok (), u) →
        t.session.Fresh (drained g t).1.outcome →
        (∀ e ∈ u.session.map.values, (u.space.heap.get e.handle).holdsNaN = false) →
        ∃ events, dirtyCheck g u = (.ok 0, { u with space := u.space.logged events }) := by
  have hs := h.kept
  refine ⟨fun call hcall hclose hfresh => reconciled_run g hs.valid hcall hclose hfresh,
    fun n t u hexact hcheck hflush hfresh hnan => ?_⟩
  cases hc : s.session.closed with
  | true =>
    rw [dirtyCheck, bind_of_closed hc] at hcheck
    cases hcheck
  | false =>
    have ht := meets_dirtyCheck_open g s ⟨hs, hc⟩
    rw [hcheck] at ht
    rw [flush, bind_of_open ht.isOpen] at hflush
    exact recheck_nothing g ⟨hs, hc⟩ hexact hcheck hflush hfresh hnan

namespace SampleVersions

/-- A session in a store that does not carry out the fifth statement. -/
def limping : SessionState Script :=
  ⟨{}, { store := { answers := [{}, {}, {}, {}, { failure := some (.store .connection "gone") }] } }⟩

/-- Two rows were added, and a third one waits. -/
def begun : SessionState Script :=
  ((SessionCall.persistDeferred (.initial SampleTypes.versioned)).run gateway
    ((SessionCall.persist (.initial SampleTypes.versioned)).run gateway
      ((SessionCall.persist (.initial SampleTypes.versioned)).run gateway limping).2).2).2

def edited : SessionState Script :=
  { begun with space := (Work.setValue 0 "name" (.text "second") begun.space).2 }

/-- An UPDATE of the first row and the removal of the second one wait besides. -/
def loaded : SessionState Script :=
  ((SessionCall.remove 1).run gateway (SessionCall.dirtyCheck.run gateway edited).2).2

theorem run_loaded : ∃ evs, SessionRun gateway limping evs loaded := by
  have hbegun : SessionRun gateway limping _ begun :=
    ((SessionRun.refl.call (.persist (.initial SampleTypes.versioned))).call
      (.persist (.initial SampleTypes.versioned))).call
        (.persistDeferred (.initial SampleTypes.versioned))
  have hedited : SessionRun gateway limping _ edited :=
    hbegun.turn (Work.Steady.setValue 0 "name" (.text "second") _)
  exact ⟨_, (hedited.call .dirtyCheck).call (.remove 1)⟩

theorem fresh_loaded : loaded.session.Fresh (drained gateway loaded).1.outcome where
  exact := by decide +kernel
  unknown := by decide +kernel
  distinct := by decide +kernel

/-- The two entities of which one was renamed, after a check for changes. -/
def checked : SessionState Script :=
  (dirtyCheck gateway renamed).2

def flushed : SessionState Script :=
  (flush gateway checked).2

theorem checked_renamed : dirtyCheck gateway renamed = (.ok 1, checked) :=
  eq_of_toOption (by decide +kernel)

theorem flushed_checked : flush gateway checked = (.ok (), flushed) :=
  eq_of_toOption (by decide +kernel)

theorem fresh_checked : checked.session.Fresh (drained gateway checked).1.outcome where
  exact := by decide +kernel
  unknown := by decide +kernel
  distinct := by decide +kernel

/-- One flush stops at a removal, after a row was added and another one written. Another one
succeeds, and a check after it finds nothing. -/
theorem stays_reconciled_loaded : (SessionCall.flush.run gateway loaded).1.isOk = false ∧
    (drained gateway loaded).1.outcome.persisted.length = 1 ∧
    (drained gateway loaded).1.outcome.merged.length = 1 ∧
    (drained gateway loaded).1.left.length = 1 ∧
    loaded.session.Reconciled (SessionCall.flush.run gateway loaded).2.session
      (SessionCall.flush.run gateway loaded).2.space (drained gateway loaded).1.outcome ∧
    ∃ events, dirtyCheck gateway flushed =
      (.ok 0, { flushed with space := flushed.space.logged events }) := by
  obtain ⟨evs, hrun⟩ := run_loaded
  obtain ⟨evs', hrenamed⟩ := run_renamed
  have hprepared (s : SessionState Script) : SessionCall.flush.prepared gateway s = s := rfl
  have hreconciled := (SessionRun.stays_reconciled hrun).1 .flush (by decide +kernel) nofun
  rw [hprepared] at hreconciled
  have hreconciled := hreconciled fresh_loaded
  have hexact : ∀ e ∈ renamed.session.map.values, e.key.id.isExact = true := by decide +kernel
  have hnan : ∀ e ∈ flushed.session.map.values,
      (flushed.space.heap.get e.handle).holdsNaN = false := by decide +kernel
  exact ⟨by decide +kernel, by decide +kernel, by decide +kernel, by decide +kernel, hreconciled,
    (SessionRun.stays_reconciled hrenamed).2 1 checked flushed hexact checked_renamed
      flushed_checked fresh_checked hnan⟩

end SampleVersions

end EntityMapper
