import EntityMapper.Proofs.Flush.Stale
import EntityMapper.Proofs.Session.LostUpdate
import EntityMapper.Proofs.Session.Preserving
/-! Detached copies: an instance from outside that a session takes over is written only over the
version of its row that was loaded then, whatever version the instance itself has. -/

namespace EntityMapper

variable {σ : Type}

open Session Operation SessionState

namespace Session

/-- A session has no second entry with the instance of a given one, and a given snapshot for that
entry as long as it knows it. -/
structure Remembers (s : Session) (e : Entry) (snapshot : Snapshot) : Prop where
  only : ∀ f ∈ s.map.values, f.handle = e.handle → f = e
  taken : s.map.find? e.key = some e → s.snapshots.find? e.key = some snapshot

namespace Remembers

variable {s : Session} {e f : Entry} {snapshot : Snapshot} (h : s.Remembers e snapshot)

include h

theorem of_eq {t : Session} (hmap : t.map = s.map) (hsnapshots : t.snapshots = s.snapshots) :
    t.Remembers e snapshot :=
  ⟨by rw [hmap]; exact h.only, by rw [hmap, hsnapshots]; exact h.taken⟩

/-- An entry with another instance becomes known. -/
theorem keep (hf : f.handle ≠ e.handle) (other : Snapshot) :
    (s.keep f other).Remembers e snapshot := by
  refine ⟨fun d hd heq => ?_, fun hfind => ?_⟩
  · rcases mem_values_keep hd with hd | rfl
    · exact h.only d hd heq
    · exact absurd heq hf
  · cases hk : f.key == e.key with
    | true =>
      have hsame := (Assoc.find?_insert_of_beq s.map hk f).symm.trans hfind
      exact absurd (congrArg Entry.handle (Option.some.inj hsame)) hf
    | false =>
      have hbefore := (Assoc.find?_insert_of_not_beq s.map hk f).symm.trans hfind
      exact (Assoc.find?_insert_of_not_beq s.snapshots hk other).trans (h.taken hbefore)

theorem foldl_keepNow {w : Workspace σ} {es : List Entry}
    (hes : ∀ f ∈ es, f.handle ≠ e.handle) :
    (es.foldl (·.keepNow w ·) s).Remembers e snapshot := by
  induction es generalizing s with
  | nil => exact h
  | cons f es ih =>
    refine ih (s := s.keepNow w f) ?_ fun d hd => hes d (List.mem_cons_of_mem f hd)
    unfold keepNow
    split
    · exact h.keep (hes f List.mem_cons_self) _
    · exact h

theorem forgetAll (hd : s.map.Distinct) (ks : List EntityKey) :
    (s.forgetAll ks).Remembers e snapshot := by
  refine ⟨fun f hf => ?_, fun hfind => ?_⟩
  · obtain ⟨p, hp, rfl⟩ := List.mem_map.mp hf
    exact h.only _ (List.mem_map.mpr ⟨p, (forgetAll_frame ks s).2.2 p hp, rfl⟩)
  · by_cases hks : ∃ k ∈ ks, (k == e.key) = true
    · have hgone := contains_forgetAll_of_beq hd hks
      rw [Assoc.contains, hfind] at hgone
      cases hgone
    · have hheld := held_forgetAll_of_not_beq (k := e.key)
        (fun k hk => Bool.eq_false_iff.mpr fun hbeq => hks ⟨k, hk, hbeq⟩) s
      obtain ⟨hmap, hsnapshots⟩ := Prod.mk.inj hheld
      exact hsnapshots.trans (h.taken (hmap.symm.trans hfind))

end Remembers

end Session

namespace SessionState

/-- All that waits for the instance of an entry is the UPDATE of that entry, which expects the
version of a snapshot that the session has of it. -/
structure Attached (e : Entry) (snapshot : Snapshot) (m : Metadata) (s : SessionState σ) :
    Prop where
  sound : e.Sound s.space
  resolved : s.space.journal.registry.find? (s.space.heap.get e.handle).type.path = some m
  remembered : s.session.Remembers e snapshot
  queued : ∀ a ∈ s.session.queue.actions, a.handle? = some e.handle →
    a = .merge e (snapshot.version m)

section Changes

variable {e : Entry} {snapshot : Snapshot} {m : Metadata} {s : SessionState σ} {w : Workspace σ}

theorem Attached.work (h : s.Attached e snapshot m) (hg : s.space.Grows w) :
    Attached e snapshot m { s with space := w } := by
  refine ⟨h.sound.mono hg, ?_, h.remembered, h.queued⟩
  rw [hg.types _ h.sound.lt]
  exact hg.journal _ _ h.resolved

/-- An UPDATE that a check for changes asks for the instance is the one that may wait. -/
theorem Attached.of_change? (h : s.Attached e snapshot m) (hs : s.Open) {f : Entry}
    (hf : f ∈ s.session.map.values) {p : Entry × Value} (hp : s.change? f = some p)
    (hhandle : p.1.handle = e.handle) : p = (e, snapshot.version m) := by
  have hfound := hs.valid.find?_of_change? hf hp
  obtain ⟨taken, m', hfind, -, hm', -, rfl⟩ := change?_eq_some_iff.mp hp
  obtain rfl := h.remembered.only f hf hhandle
  obtain rfl := Option.some.inj (hfind.symm.trans (h.remembered.taken hfound))
  obtain rfl := Option.some.inj (hm'.symm.trans h.resolved)
  rfl

theorem preserved_attached (e : Entry) (snapshot : Snapshot) (m : Metadata) :
    Preserved (σ := σ) (Attached e snapshot m) where
  work := Attached.work
  quiet h hq := by
    refine ⟨h.sound.mono hq.grows, ?_, h.remembered.of_eq hq.map hq.snapshots,
      fun a ha hhandle => ?_⟩
    · rw [hq.heap]
      exact hq.grows.journal _ _ h.resolved
    · rcases hq.waiting a ha with ha | ⟨f, rfl⟩
      · exact h.queued a ha hhandle
      · cases hhandle
  keep h hg hnew taken := by
    obtain ⟨hsound, hresolved, hremembered, hqueued⟩ := h.work hg
    have hother := Nat.ne_of_gt (Nat.lt_of_lt_of_le h.sound.lt hnew)
    exact ⟨hsound, hresolved, hremembered.keep hother taken, hqueued⟩
  persist h hg hnew := by
    obtain ⟨hsound, hresolved, hremembered, hqueued⟩ := h.work hg
    refine ⟨hsound, hresolved, hremembered.of_eq rfl rfl, fun a ha hhandle => ?_⟩
    rcases List.mem_append.mp ha with ha | ha
    · exact hqueued a ha hhandle
    · obtain rfl := List.mem_singleton.mp ha
      exact absurd h.sound.lt (Nat.not_lt.mpr (Option.some.inj hhandle ▸ hnew))
  check h hs := by
    refine ⟨h.sound, h.resolved, h.remembered.of_eq rfl rfl, fun a ha hhandle => ?_⟩
    rcases List.mem_append.mp ha with ha | ha
    · exact h.queued a ha hhandle
    · obtain ⟨p, hp, rfl⟩ := List.mem_map.mp ha
      obtain ⟨f, hf, hfp⟩ := List.mem_filterMap.mp hp
      rw [h.of_change? hs hf hfp (Option.some.inj hhandle)]
  shut h := ⟨h.sound, h.resolved, ⟨by simp [Assoc.empty, Assoc.values],
    by simp [Assoc.empty, Assoc.find?]⟩, h.queued⟩

end Changes

/-- What a flush records is of instances of queued actions, and an UPDATE records its own entry. -/
theorem Valid.queued_of_recorded {g : Gateway σ} {s : SessionState σ} (hs : s.Valid) {f : Entry}
    (hf : f ∈ (drained g s).1.outcome.persisted ++ (drained g s).1.outcome.merged) :
    ∃ a ∈ s.session.queue.actions, a.handle? = some f.handle ∧
      (a.kind = .merge → a.updates = some f ∧ f ∈ (drained g s).1.outcome.merged) := by
  have hsound : ∀ a ∈ s.session.queue.ordered, a.Sound s.space :=
    fun a ha => hs.actions a (ActionQueue.mem_ordered.mp ha)
  obtain ⟨⟨done, hq, hrecords⟩, -⟩ := g.performAll_drains hsound {}
  change Outcome.Records {} done (drained g s).2 (drained g s).1.outcome at hrecords
  rcases List.mem_append.mp hf with hf | hf
  · obtain ⟨es, hes, hhandles, -⟩ := hrecords.persisted
    rw [List.nil_append] at hes
    have hmem : f.handle ∈ done.filterMap Action.inserts :=
      hhandles ▸ List.mem_map.mpr ⟨f, hes ▸ hf, rfl⟩
    obtain ⟨instant, ha⟩ := Action.mem_inserts_iff.mp hmem
    exact ⟨_, ActionQueue.mem_of_mem_done hq ha, rfl, nofun⟩
  · have hmem : f ∈ done.filterMap Action.updates := by
      rw [← List.nil_append (done.filterMap _), ← hrecords.merged]
      exact hf
    obtain ⟨x, hx⟩ := Action.mem_updates_iff.mp hmem
    exact ⟨_, ActionQueue.mem_of_mem_done hq hx, rfl, fun _ => ⟨rfl, hf⟩⟩

/-- A flush that does not carry out the UPDATE of the entry leaves it as it waits. -/
theorem Attached.flushActions {g : Gateway σ} {e : Entry} {snapshot : Snapshot} {m : Metadata}
    {s : SessionState σ} (h : s.Attached e snapshot m) (hs : s.Open)
    (hunwritten : e ∉ (drained g s).1.outcome.merged) :
    (Session.flushActions g s).2.Attached e snapshot m := by
  have hothers : ∀ f ∈ (drained g s).1.outcome.persisted ++ (drained g s).1.outcome.merged,
      f.handle ≠ e.handle := by
    intro f hf heq
    obtain ⟨a, ha, hhandle, hmerge⟩ := hs.valid.queued_of_recorded hf
    obtain rfl := h.queued a ha (hhandle.trans (congrArg some heq))
    obtain ⟨hupdates, hmem⟩ := hmerge rfl
    obtain rfl := Option.some.inj hupdates
    exact hunwritten hmem
  obtain ⟨done, hq, -⟩ := hs.valid.recorded g
  obtain ⟨hready, -⟩ := reconcile_noting g hs.valid
  obtain ⟨events, hrun⟩ := flushActions_noting g hs.valid
  have hgrows : s.space.Grows ((drained g s).2.logged events) :=
    (g.steady_performAll _ _ _).trans (grows_logged _ events)
  have hkeeps := keeps_keepNow hready { s.session with queue := ⟨(drained g s).1.left⟩ }
  obtain ⟨hsound, hresolved, -, -⟩ := h.work hgrows
  rw [hrun]
  refine ⟨hsound, hresolved, ?_, fun a ha => h.queued a ?_⟩
  · have hremembered := h.remembered.of_eq (t := { s.session with queue := ⟨(drained g s).1.left⟩ })
      rfl rfl
    exact (hremembered.foldl_keepNow hothers).forgetAll
      (hkeeps.coherent (hs.valid.coherent.shorten hs.isOpen hq) hs.isOpen).distinct _
  · rw [Session.noting, (forgetAll_frame _ _).1, hkeeps.frame.1] at ha
    exact ActionQueue.mem_of_mem_left hq ha

/-- An instance from outside whose row was loaded waits for nothing, and its snapshot is that of the
row. -/
theorem Open.attached_keep {s : SessionState σ} (hs : s.Open) {v : Workspace σ}
    (hg : s.space.Grows v) {i : Instance} (loaded : Instance) {m : Metadata}
    (hm : v.journal.registry.find? i.type.path = some m) :
    Attached ⟨.ofInstance i, v.heap.next⟩ (.capture m loaded) m
      ⟨s.session.keep ⟨.ofInstance i, v.heap.next⟩ (.capture m loaded),
        { v with heap := v.heap.push i }⟩ := by
  have hnew {l : Handle} (hl : l < s.space.heap.next) : l ≠ v.heap.next :=
    Nat.ne_of_lt (Nat.lt_of_lt_of_le hl hg.next)
  refine ⟨.push v i, ?_, ⟨fun f hf heq => ?_, fun hfind => ?_⟩, fun a ha hhandle => ?_⟩
  · rw [Heap.get_push_self]
    exact hm
  · rcases mem_values_keep hf with hf | hf
    · exact absurd heq (hnew (hs.valid.values hf).lt)
    · exact hf
  · have hself := Assoc.beq_self_of_contains (Option.isSome_iff_exists.mpr ⟨_, hfind⟩)
    exact Assoc.find?_insert_of_beq _ hself _
  · exact absurd rfl (hnew (hs.valid.handle_lt ha hhandle))

end SessionState

/-- A check for changes sends nothing. -/
theorem Session.silent_dirtyCheck (g : Gateway σ) {s : SessionState σ} (hs : s.Kept) :
    (dirtyCheck g s).2.space.transcript = s.space.transcript ∧
      (dirtyCheck g s).2.space.store = s.space.store := by
  cases hclosed : s.session.closed with
  | true =>
    unfold dirtyCheck
    rw [bind_of_closed hclosed]
    exact ⟨rfl, rfl⟩
  | false =>
    obtain ⟨n, events, hrun⟩ := dirtyCheck_checked g ⟨hs, hclosed⟩
    rw [hrun]
    exact ⟨rfl, rfl⟩

/-- A run of a session in which no flush has carried out an UPDATE of an entry: its operations, and
between them whatever others do to the store and the caller to shared instances. -/
inductive UnwrittenRun (g : Gateway σ) (e : Entry) (start : SessionState σ) : SessionState σ → Prop
  | start : UnwrittenRun g e start start
  | call {s} (h : UnwrittenRun g e start s) {c : SessionCall}
    (hc : c.flushes g s = true → e ∉ (drained g (c.prepared g s)).1.outcome.merged) :
    UnwrittenRun g e start (c.run g s).2
  | turn {s w} (h : UnwrittenRun g e start s) (hg : s.space.Grows w) :
    UnwrittenRun g e start { s with space := w }

/-- In such a run the entry stays attached to its snapshot. -/
theorem UnwrittenRun.attached {g : Gateway σ} {e : Entry} {snapshot : Snapshot} {m : Metadata}
    {start s : SessionState σ} (h : UnwrittenRun g e start s) (hstart : start.Kept)
    (hattached : start.Attached e snapshot m) : s.Kept ∧ s.Attached e snapshot m := by
  induction h with
  | start => exact ⟨hstart, hattached⟩
  | @call s h c hc ih =>
    refine ⟨c.kept_run g ih.1, c.preserved_run (preserved_attached e snapshot m) ih.1 ih.2 ?_⟩
    exact fun hflush hprepared =>
      hprepared.flushActions (SessionCall.open_prepared hflush ih.1) (hc hflush)
  | turn h hg ih => exact ⟨ih.1.work hg, ih.2.work hg⟩

/-- An operation that performs the queued actions writes an instance over its row by one UPDATE
only, and only if the row has the version that this UPDATE expects. Otherwise the UPDATE is refused,
and the operation fails with it. -/
structure SessionCall.Protects (c : SessionCall) (g : Gateway σ) (row : σ → String → Value)
    (column : String) (e : Entry) (x : Value) (s : SessionState σ) : Prop where
  expects : ∀ a ∈ (c.prepared g s).session.queue.actions, a.handle? = some e.handle →
    a = .merge e x
  refused : ∀ o v, g.ComesTo (c.prepared g s).session.queue.ordered (c.prepared g s).space
      (.merge e x) o v → (row v.store column).version? ≠ x.version? →
    ∃ err, g.Refuses row (.merge e x) o v err ∧ (c.run g s).1 = .error err
  written : e ∈ (drained g (c.prepared g s)).1.outcome.merged → ∃ o v,
    g.ComesTo (c.prepared g s).session.queue.ordered (c.prepared g s).space (.merge e x) o v ∧
      (row v.store column).version? = x.version?

/-- What is attached to a snapshot is written over the version of that snapshot only. -/
theorem SessionCall.protects_of_attached {g : Gateway σ} {p : RowPlace}
    {row : σ → String → Value} {column : String} (hstore : g.connection.Guards p row) {e : Entry}
    {snapshot : Snapshot} {m : Metadata} (htable : p.isTable m.table = true)
    (hid : p.isId e.key.id = true) (hversions : p.Versions column g.catalogue.schema m)
    {s : SessionState σ} (hs : s.Kept) (h : s.Attached e snapshot m) {c : SessionCall}
    (hc : c.flushes g s = true) : c.Protects g row column e (snapshot.version m) s := by
  have hprepared := preserved_prepared hc (preserved_attached e snapshot m) hs h
  have hrefused : ∀ o v, g.ComesTo (c.prepared g s).session.queue.ordered (c.prepared g s).space
      (.merge e (snapshot.version m)) o v →
      (row v.store column).version? ≠ (snapshot.version m).version? →
      ∃ err, g.Refuses row (.merge e (snapshot.version m)) o v err := by
    intro o v hcomes hstale
    have hlater := hprepared.work hcomes.grows
    exact g.refuses_stale hstore hlater.sound hlater.resolved htable hid hversions hstale o
  refine ⟨hprepared.queued, fun o v hcomes hstale => ?_, fun hmem => ?_⟩
  · obtain ⟨err, hrefuses⟩ := hrefused o v hcomes hstale
    have hfailed := hcomes.result_of_error (Prod.ext hrefuses.result rfl)
    exact ⟨err, hrefuses, run_of_failed hc hs hfailed⟩
  · obtain ⟨x, o, v, hcomes, hrecorded⟩ := g.comesTo_of_mem_merged hmem
    have hqueued : Action.merge e x ∈ (c.prepared g s).session.queue.actions := by
      obtain ⟨before, after, hsplit, -⟩ := hcomes
      refine ActionQueue.mem_ordered.mp ?_
      rw [hsplit]
      simp
    obtain ⟨-, rfl⟩ := Action.merge.inj (hprepared.queued _ hqueued rfl)
    refine ⟨o, v, hcomes, by_contra fun hstale => ?_⟩
    obtain ⟨err, hrefuses⟩ := hrefused o v hcomes hstale
    exact hrecorded (congrArg Prod.snd hrefuses.result)

/-- A session that takes over an instance whose key it does not know writes it over no other version
of the row than the one that was loaded then. Until it has done so, checks for changes send
nothing, and an operation that comes to the UPDATE while the row has another version leaves the row
alone and fails. -/
theorem SessionRun.stale_copy_refused {g : Gateway σ} {c : SessionConfig} {w : Workspace σ}
    {evs : List SessionEvent} {s : SessionState σ}
    (h : SessionRun g ⟨{ config := c }, w⟩ evs s) (ho : s.session.closed = false)
    {p : RowPlace} {row : σ → String → Value} {column : String}
    (hstore : g.connection.Guards p row) {i loaded : Instance}
    (hnew : s.session.map.contains (.ofInstance i) = false) {v : Workspace σ}
    (hload : g.load i.type (EntityKey.ofInstance i).id s.space = (.ok (some loaded), v))
    {m : Metadata} (hm : v.journal.registry.find? i.type.path = some m)
    (htable : p.isTable m.table = true) (hid : p.isId (EntityKey.ofInstance i).id = true)
    (hversions : p.Versions column g.catalogue.schema m) :
    ∃ t, merge g i s = (.ok (some v.heap.next), t) ∧ t.space.heap.get v.heap.next = i ∧
      ∀ u, UnwrittenRun g ⟨.ofInstance i, v.heap.next⟩ t u →
        ((dirtyCheck g u).2.space.transcript = u.space.transcript ∧
          (dirtyCheck g u).2.space.store = u.space.store) ∧
        ∀ call : SessionCall, call.flushes g u = true →
          call.Protects g row column ⟨.ofInstance i, v.heap.next⟩
            ((Snapshot.capture m loaded).version m) u := by
  have hs : s.Open := ⟨h.kept, ho⟩
  have hread := g.reads_load Command.allowsSelect_any i.type (EntityKey.ofInstance i).id s.space
  rw [hload] at hread
  have hunknown : s.session.map.handle? s.space.heap i.type (.ofInstance i) = none := by
    cases hh : s.session.map.handle? s.space.heap i.type (.ofInstance i) with
    | none => rfl
    | some l =>
      obtain ⟨e, hfind, -⟩ := find?_of_handle? hh
      rw [Assoc.contains, hfind] at hnew
      cases hnew
  have hrun := merge_of_some g ho hunknown hload hm
  have hattached := hs.attached_keep hread.grows loaded hm
  refine ⟨_, hrun, Heap.get_push_self _ i, fun u hu => ?_⟩
  have ht := (meets_merge_open g i).final hs
  rw [hrun] at ht
  obtain ⟨hkept, hu⟩ := hu.attached ht.toKept hattached
  exact ⟨silent_dirtyCheck g hkept, fun call hcall =>
    SessionCall.protects_of_attached hstore htable hid hversions hkept hu hcall⟩

namespace OneRowStore

/-- The row with another name and another version. -/
def written (name : String) (n : Int) (h : IntWidth.big.Holds n := by decide) : Cells :=
  assign cells [("name", .text name), ("version", .big n h)]

/-- A copy of the row from when it had the version 3. -/
def copy : Instance where
  type := SampleTypes.versioned
  slots := [("id", .value one), ("name", .value (.text "old")), ("version", .value (.big 3))]

/-- A new session, when the row has the version 8. -/
def outside : SessionState Cells :=
  ⟨{ config := {} }, { store := written "new" 8 }⟩

/-- The session has taken over the copy. -/
def merged : SessionState Cells :=
  (merge gateway copy outside).2

/-- The row has been written once more since. -/
def rewritten : SessionState Cells :=
  { merged with space := { merged.space with store := written "newer" 9 } }

theorem grows_rewritten : merged.space.Grows rewritten.space :=
  .of_heap (fun _ _ h => h) rfl

/-- What there is when the row has been loaded for the copy. -/
def loading : Except Error (Option Instance) × Workspace Cells :=
  gateway.load copy.type (EntityKey.ofInstance copy).id outside.space

theorem maps_loading : Crowd.Maps { fresh with space := loading.2 } gateway.catalogue.schema place
    "version" :=
  maps_of_entries (by decide)

/-- The copy is not written over the row that has changed since. -/
theorem stale_copy_refused_rewritten : ∃ err,
    gateway.Refuses id (.merge ⟨.ofInstance copy, 0⟩ (.big 8)) {}
      (SessionCall.close.prepared gateway rewritten).space err ∧
    (SessionCall.close.run gateway rewritten).1 = .error err ∧ err.isOptimisticLock = true ∧
    ((SessionCall.close.run gateway rewritten).2.space.store "name").toText = "'newer'" := by
  obtain ⟨loaded, m, hloaded, hm, htable, hversion⟩ : ∃ loaded m,
      loading.1 = .ok (some loaded) ∧
      loading.2.journal.registry.find? copy.type.path = some m ∧
      place.isTable m.table = true ∧ (Snapshot.capture m loaded).version m = .big 8 :=
    ⟨_, _, rfl, rfl, rfl, rfl⟩
  have hload : loading = (.ok (some loaded), loading.2) := Prod.ext hloaded rfl
  obtain ⟨t, hrun, -, hruns⟩ := SessionRun.stale_copy_refused (g := gateway) (s := outside) .refl
    rfl guards (i := copy) (by decide) hload hm htable (by decide) (maps_loading _ m hm htable)
  obtain rfl : merged = t := congrArg Prod.snd hrun
  have hrewritten : UnwrittenRun gateway ⟨.ofInstance copy, loading.2.heap.next⟩ merged rewritten :=
    .turn .start grows_rewritten
  have hprotects := (hruns _ hrewritten).2 .close (by decide +kernel)
  rw [hversion] at hprotects
  obtain ⟨err, hrefuses, hfails⟩ := hprotects.refused {} _ ⟨[], [], rfl, rfl⟩ (by decide +kernel)
  have hlock : (match (SessionCall.close.run gateway rewritten).1 with
      | .error err => err.isOptimisticLock
      | .ok _ => false) = true := by decide +kernel
  rw [hfails] at hlock
  exact ⟨err, hrefuses, hfails, hlock, by decide +kernel⟩

/-- Nothing but the version that was loaded guards the row, so a copy of the version 3 is written
over the version 8. -/
theorem stale_copy_overwrites :
    outside.session.map.contains (.ofInstance copy) = false ∧
    (copy.fieldValue "version").bind Value.version? = some 3 ∧
    (outside.space.store "version").version? = some 8 ∧
    (outside.space.store "name").toText = "'new'" ∧
    (close gateway merged).1.isOk = true ∧
    ((close gateway merged).2.space.store "name").toText = "'old'" := by
  refine ⟨by decide, by decide, by decide, by decide, by decide +kernel, by decide +kernel⟩

end OneRowStore

end EntityMapper
