import EntityMapper.Proofs.Flush.Carrying
import EntityMapper.Proofs.Session.Enumerating
import EntityMapper.Scenario.Catalogue
import EntityMapper.Store.Scripted
/-! Differing: a check for changes queues an UPDATE for each known entity that differs from its
snapshot, and closing a session writes just these. -/

namespace EntityMapper

variable {σ : Type}

open Session Operation SessionState

/-- Lists of one length are unequal if they differ in some position. -/
theorem beq_map_eq_false {α β : Type} [BEq β] {l : List β} {fs : List α} (h : α → β)
    (hlen : l.length = fs.length) : (l == fs.map h) = false ↔
      ∃ (n : Nat) (f : α) (v : β), fs[n]? = some f ∧ l[n]? = some v ∧ (v == h f) = false := by
  induction fs generalizing l with
  | nil => simp [List.eq_nil_of_length_eq_zero hlen]
  | cons f fs ih =>
    cases l with
    | nil => cases hlen
    | cons v l =>
      rw [List.map_cons, List.cons_beq_cons, Bool.and_eq_false_iff, ih (Nat.succ.inj hlen)]
      constructor
      · rintro (hv | ⟨n, f', v', hf, hv, hne⟩)
        · exact ⟨0, f, v, rfl, rfl, hv⟩
        · exact ⟨n + 1, f', v', hf, hv, hne⟩
      · rintro ⟨n, f', v', hf, hv, hne⟩
        cases n with
        | zero =>
          obtain rfl := Option.some.inj hf
          obtain rfl := Option.some.inj hv
          exact .inl hne
        | succ n => exact .inr ⟨n, f', v', hf, hv, hne⟩

namespace Snapshot

/-- Some stored field of an instance has another value than in the snapshot. -/
def Differs (snapshot : Snapshot) (m : Metadata) (i : Instance) : Prop :=
  ∃ (n : Nat) (f : PersistentField) (v : Value), m.persistent[n]? = some f ∧
    snapshot.values[n]? = some v ∧ v.equal ((i.fieldValue f.field).getD .null) = false

/-- A snapshot of all stored fields is stale if the value of one of them differs. -/
theorem isStale_iff {snapshot : Snapshot} {m : Metadata}
    (hlen : snapshot.values.length = m.persistent.length) (i : Instance) :
    snapshot.isStale m i = true ↔ snapshot.Differs m i := by
  rw [isStale, Bool.not_eq_true']
  exact beq_map_eq_false (fun f : PersistentField => (i.fieldValue f.field).getD .null) hlen

end Snapshot

/-- An UPDATE or a removal waits for a key. -/
def Session.Awaits (s : Session) (k : EntityKey) : Prop :=
  ∃ a ∈ s.queue.actions, ∃ l ∈ a.key?, (l == k) = true

theorem Session.isPending_iff {s : Session} {k : EntityKey} (hk : k.id.isExact = true) :
    (s.queue.isPending .merge k || s.queue.isPending .remove k) = true ↔ s.Awaits k := by
  have hpending : ∀ kind, s.queue.isPending kind k = true ↔
      ∃ a ∈ s.queue.actions, a.kind = kind ∧ ∃ l ∈ a.key?, (l == k) = true := by
    intro kind
    simp only [ActionQueue.isPending, ActionQueue.ofKind, List.any_eq_true, List.mem_filter,
      beq_iff_eq, Option.any_eq_true, EntityKey.beq_eq_equal_right _ hk]
    exact ⟨fun ⟨a, ⟨ha, hkind⟩, l, hl⟩ => ⟨a, ha, hkind, l, hl⟩,
      fun ⟨a, ha, hkind, l, hl⟩ => ⟨a, ⟨ha, hkind⟩, l, hl⟩⟩
  rw [Bool.or_eq_true, hpending, hpending]
  constructor
  · rintro (⟨a, ha, -, h⟩ | ⟨a, ha, -, h⟩) <;> exact ⟨a, ha, h⟩
  · rintro ⟨a, ha, l, hl, hlk⟩
    cases a with
    | persist h instant => cases hl
    | merge e x => exact .inl ⟨_, ha, rfl, l, hl, hlk⟩
    | remove e => exact .inr ⟨_, ha, rfl, l, hl, hlk⟩

namespace SessionState

variable {s : SessionState σ} {e : Entry}

/-- A known entity differs from its snapshot. -/
def Differs (s : SessionState σ) (e : Entry) : Prop :=
  ∃ snapshot m, s.session.snapshots.find? e.key = some snapshot ∧
    s.space.journal.registry.find? (s.space.heap.get e.handle).type.path = some m ∧
    snapshot.Differs m (s.space.heap.get e.handle)

/-- An entity whose key is exact is found by it. -/
theorem Valid.contains_key (hs : s.Valid) (he : e ∈ s.session.map.values)
    (hk : e.key.id.isExact = true) : s.session.map.contains e.key = true :=
  hs.coherent.contains_of_beq_self he (EntityKey.beq_self hk)

/-- A known entity has a snapshot of all stored fields, and its type is resolved. -/
theorem Kept.snapshot (hs : s.Kept) (he : e ∈ s.session.map.values)
    (hk : e.key.id.isExact = true) : ∃ snapshot m,
      s.session.snapshots.find? e.key = some snapshot ∧
      s.space.journal.registry.find? (s.space.heap.get e.handle).type.path = some m ∧
      snapshot.values.length = m.persistent.length := by
  obtain ⟨snapshot, hsnapshot⟩ :=
    hs.valid.coherent.contains_iff_snapshot.mp (hs.valid.contains_key he hk)
  obtain ⟨p, m, hp, hm, hlen⟩ := hs.covered.find? hsnapshot
  obtain rfl := Option.some.inj (hp.symm.trans (hs.valid.values he).path)
  exact ⟨snapshot, m, hsnapshot, hm, hlen⟩

/-- A check for changes asks for an entity exactly if it differs and no write waits for it. -/
theorem Kept.change?_isSome_iff (hs : s.Kept) (he : e ∈ s.session.map.values)
    (hk : e.key.id.isExact = true) :
    (s.change? e).isSome = true ↔ ¬ s.session.Awaits e.key ∧ s.Differs e := by
  obtain ⟨snapshot, m, hsnapshot, hm, hlen⟩ := hs.snapshot he hk
  have hstale := Snapshot.isStale_iff hlen (s.space.heap.get e.handle)
  rw [Option.isSome_iff_exists, ← isPending_iff hk, Bool.not_eq_true]
  constructor
  · rintro ⟨p, hp⟩
    obtain ⟨snapshot', m', hsnapshot', hpending, hm', hdirty, -⟩ := change?_eq_some_iff.mp hp
    obtain rfl := Option.some.inj (hsnapshot.symm.trans hsnapshot')
    obtain rfl := Option.some.inj (hm.symm.trans hm')
    exact ⟨hpending, snapshot, m, hsnapshot, hm, hstale.mp hdirty⟩
  · rintro ⟨hpending, snapshot', m', hsnapshot', hm', hdiffers⟩
    obtain rfl := Option.some.inj (hsnapshot.symm.trans hsnapshot')
    obtain rfl := Option.some.inj (hm.symm.trans hm')
    exact ⟨_, change?_eq_some_iff.mpr
      ⟨snapshot, m, hsnapshot, hpending, hm, hstale.mpr hdiffers, rfl⟩⟩

theorem Kept.guarded (hs : s.Kept) (he : e ∈ s.session.map.values) {snapshot : Snapshot}
    {m : Metadata} (hsnapshot : s.session.snapshots.find? e.key = some snapshot)
    (hm : s.space.journal.registry.find? (s.space.heap.get e.handle).type.path = some m) :
    s.Guarded e (snapshot.version m) := by
  obtain ⟨t, ht, hpath⟩ := Option.map_eq_some_iff.mp (hs.valid.values he).path
  exact ⟨t, snapshot, m, ht, hsnapshot, by rw [hpath]; exact hm, rfl⟩

end SessionState

namespace Session

variable (g : Gateway σ) {s : SessionState σ}

/-- From one state a search for changes among entries finds those that differ, unless they wait
already, each with the version of its snapshot. It leaves nothing behind but notices. -/
structure Finds (s : SessionState σ) (es : List Entry) (dirty : List (Entry × Value)) : Prop where
  sublist : (dirty.map (·.1)).Sublist es
  mem_iff : ∀ e ∈ es, e ∈ dirty.map (·.1) ↔ ¬ s.session.Awaits e.key ∧ s.Differs e
  version : ∀ p ∈ dirty, s.Guarded p.1 p.2

theorem finds_changes (hs : s.Kept) {es : List Entry} (hes : ∀ e ∈ es, e ∈ s.session.map.values)
    (hexact : ∀ e ∈ es, e.key.id.isExact = true) : Finds s es (es.filterMap s.change?) where
  sublist := by
    rw [map_fst_changes]
    exact List.filter_sublist
  mem_iff e he := by
    rw [map_fst_changes, List.mem_filter, and_iff_right he]
    exact hs.change?_isSome_iff (hes e he) (hexact e he)
  version p hp := by
    obtain ⟨e, he, hpe⟩ := List.mem_filterMap.mp hp
    obtain ⟨snapshot, m, hsnapshot, -, hm, -, rfl⟩ := change?_eq_some_iff.mp hpe
    exact hs.guarded (hes e he) hsnapshot hm

/-- A check for changes queues an UPDATE for each entity that was found, and leaves nothing else
behind but notices. -/
theorem dirtyCheck_apply (hs : s.Open)
    (hexact : ∀ e ∈ s.session.map.values, e.key.id.isExact = true) : ∃ dirty events,
      dirtyCheck g s = (.ok dirty.length, ⟨{ s.session with
        queue := ⟨s.session.queue.actions ++ dirty.map fun p => .merge p.1 p.2⟩ },
        s.space.logged events⟩) ∧ Finds s s.session.map.values dirty := by
  obtain ⟨events, hrun⟩ := dirtyCheckAlong_eq g hs fun _ h => h
  rw [dirtyCheck_eq_along]
  exact ⟨_, events, hrun, finds_changes hs.toKept (fun _ h => h) hexact⟩

/-- When nothing but UPDATEs waits they are drained as they came, each for its own instance. -/
theorem drained_updates (hs : s.Open) {dirty : List (Entry × Value)}
    (hqueue : s.session.queue = ⟨dirty.map fun p => .merge p.1 p.2⟩) :
    drained g s = g.performAll (dirty.map fun p => .merge p.1 p.2) {} s.space ∧
      (dirty.map (·.1.handle)).Nodup := by
  have hmerge : ∀ a ∈ dirty.map fun p => Action.merge p.1 p.2, a.kind = .merge := by
    rintro a ha
    obtain ⟨p, -, rfl⟩ := List.mem_map.mp ha
    rfl
  have hordered : s.session.queue.ordered = dirty.map fun p => .merge p.1 p.2 := by
    have hkinds : (⟨[] ++ _ ++ []⟩ : ActionQueue).ordered = _ :=
      ActionQueue.ordered_of_kinds (by simp) hmerge (by simp)
    rw [hqueue]
    simpa using hkinds
  refine ⟨by rw [drained, Gateway.drain, hordered], ?_⟩
  have hqueued := hs.apart.queued
  rw [hqueue] at hqueued
  dsimp only at hqueued
  rw [List.filterMap_map] at hqueued
  change (dirty.filterMap (some ∘ (·.1.handle))).Nodup at hqueued
  rwa [List.filterMap_eq_map] at hqueued

/-- A flush of nothing but UPDATEs of known entities sends one for each of them with what it holds,
or one of them fails. -/
theorem flushActions_updates (hs : s.Open) {dirty : List (Entry × Value)}
    (hqueue : s.session.queue = ⟨dirty.map fun p => .merge p.1 p.2⟩)
    (hready : ∀ p ∈ dirty, p.1.Ready s.space) : match (flushActions g s).1 with
      | .ok _ => ∃ xs, (flushActions g s).2.space.transcript = s.space.transcript ++ xs ∧
        List.Forall₂ (fun p x => s.space.UpdateOf p.1 p.2 x) dirty xs
      | .error f => ∃ done p rest out v, dirty = done ++ p :: rest ∧
        g.performAll (done.map fun p => .merge p.1 p.2) {} s.space = (⟨.ok (), [], out⟩, v) ∧
        (g.perform (.merge p.1 p.2) out v).1.1 = .error f := by
  obtain ⟨events, hrun⟩ := flushActions_noting g hs.valid
  obtain ⟨hdrained, hdistinct⟩ := drained_updates g hs hqueue
  rw [hrun]
  dsimp only
  cases hresult : (drained g s).1.result with
  | ok u =>
    rw [hdrained] at hresult ⊢
    exact g.updates_performAll hdistinct hready hresult
  | error f =>
    rw [hdrained] at hresult
    obtain ⟨done, a, rest, out, v, hsplit, hdone, ha⟩ := g.performAll_error hresult
    obtain ⟨done, tail, rfl, rfl, htail⟩ := List.map_eq_append_iff.mp hsplit
    obtain ⟨p, rest, rfl, rfl, -⟩ := List.map_eq_cons_iff.mp htail
    exact ⟨done, p, rest, out, v, rfl, hdone, ha⟩

end Session

/-- In an open session whose known entities have exact identifiers a check for changes queues one
UPDATE for each known entity that differs from its snapshot, unless a write waits for it already.
When nothing waits, closing the session sends just these UPDATEs, or it fails as one of them. -/
theorem SessionRun.dirtyCheck_exact {g : Gateway σ} {c : SessionConfig} {w : Workspace σ}
    {evs : List SessionEvent} {s : SessionState σ}
    (h : SessionRun g ⟨{ config := c }, w⟩ evs s) (ho : s.session.closed = false)
    (hexact : ∀ e ∈ s.session.map.values, e.key.id.isExact = true) : ∃ dirty events,
      dirtyCheck g s = (.ok dirty.length, ⟨{ s.session with
        queue := ⟨s.session.queue.actions ++ dirty.map fun p => .merge p.1 p.2⟩ },
        s.space.logged events⟩) ∧
      Finds s s.session.map.values dirty ∧
      (dirty.Pairwise fun p q => (p.1.key == q.1.key) = false) ∧
      (s.session.queue.actions = [] → match close g s with
        | (.ok _, t) => ∃ xs, t.space.transcript = s.space.transcript ++ xs ∧
          List.Forall₂ (fun p x => s.space.UpdateOf p.1 p.2 x) dirty xs
        | (.error f, _) => ∃ done p rest out v, dirty = done ++ p :: rest ∧
          g.performAll (done.map fun p => .merge p.1 p.2) {} (s.space.logged events) =
            (⟨.ok (), [], out⟩, v) ∧
          (g.perform (.merge p.1 p.2) out v).1.1 = .error f) := by
  have hs : s.Open := ⟨h.kept, ho⟩
  obtain ⟨dirty, events, hrun, hfinds⟩ := dirtyCheck_apply g hs hexact
  have hvalues : ∀ p ∈ dirty, p.1 ∈ s.session.map.values := fun p hp =>
    hfinds.sublist.subset (List.mem_map.mpr ⟨p, hp, rfl⟩)
  refine ⟨dirty, events, hrun, hfinds, ?_, fun hq => ?_⟩
  · have hdistinct := hs.valid.coherent.values_distinct.sublist hfinds.sublist
    refine (List.pairwise_map.mp hdistinct).imp_of_mem fun hp hq hne => hne ?_ ?_
    · exact hs.valid.contains_key (hvalues _ hp) (hexact _ (hvalues _ hp))
    · exact hs.valid.contains_key (hvalues _ hq) (hexact _ (hvalues _ hq))
  · have hready : ∀ p ∈ dirty, p.1.Ready (s.space.logged events) := fun p hp => by
      obtain ⟨-, m, -, hm, -⟩ := hs.snapshot (hvalues p hp) (hexact _ (hvalues p hp))
      exact Entry.Ready.mono ⟨hs.valid.values (hvalues p hp), m, hm⟩ (grows_logged _ _)
    have hchecked := meets_dirtyCheck_open g s hs
    rw [hrun] at hchecked
    have hflushed := flushActions_updates g hchecked (by rw [hq]; rfl) hready
    obtain ⟨ended, hclose⟩ := close_of_checked g ho hrun
    rw [hclose]
    rcases hf : flushActions g _ with ⟨e | u, v⟩ <;> rw [hf] at hflushed <;> exact hflushed

namespace SampleVersions

def gateway : Gateway Script :=
  ⟨Script.connection, [SampleTypes.versioned], false⟩

def fresh : SessionState Script :=
  ⟨{ config := {} }, { store := {} }⟩

/-- Two rows were added. -/
def added : SessionState Script :=
  ((SessionCall.persist (.initial SampleTypes.versioned)).run gateway
    ((SessionCall.persist (.initial SampleTypes.versioned)).run gateway fresh).2).2

/-- The first of the two entities was renamed in memory. -/
def renamed : SessionState Script :=
  { added with space := (Work.setValue 0 "name" (.text "second") added.space).2 }

theorem run_renamed : ∃ evs, SessionRun gateway fresh evs renamed :=
  ⟨_, ((SessionRun.refl.call (.persist (.initial SampleTypes.versioned))).call
    (.persist (.initial SampleTypes.versioned))).turn
      (Work.Steady.setValue 0 "name" (.text "second") _)⟩

theorem dirtyCheck_exact_renamed : renamed.session.map.size = 2 ∧ ∃ dirty xs,
    Finds renamed renamed.session.map.values dirty ∧ dirty.map (·.1.handle) = [0] ∧
      (close gateway renamed).1.isOk = true ∧
      (close gateway renamed).2.space.transcript = renamed.space.transcript ++ xs ∧
      List.Forall₂ (fun p x => renamed.space.UpdateOf p.1 p.2 x) dirty xs := by
  obtain ⟨evs, hrun⟩ := run_renamed
  obtain ⟨dirty, events, hchecked, hfinds, -, hclose⟩ :=
    SessionRun.dirtyCheck_exact hrun (by decide) (by decide +kernel)
  have hok : (close gateway renamed).1.isOk = true := by decide +kernel
  have hqueued : (dirtyCheck gateway renamed).2.session.queue.actions.filterMap Action.handle? =
      [0] := by decide +kernel
  have hnone : renamed.session.queue.actions = [] := by decide +kernel
  rw [hchecked] at hqueued
  dsimp only at hqueued
  rw [hnone] at hqueued
  have hhandles : dirty.map (·.1.handle) = [0] := by
    simpa [Action.handle?, Function.comp_def, List.filterMap_map] using hqueued
  refine ⟨by decide +kernel, dirty, ?_⟩
  generalize close gateway renamed = closed at hok hclose ⊢
  obtain ⟨f | u, t⟩ := closed
  · cases hok
  · obtain ⟨xs, hxs, hupdates⟩ := hclose hnone
    exact ⟨xs, hfinds, hhandles, rfl, hxs, hupdates⟩

end SampleVersions

end EntityMapper
