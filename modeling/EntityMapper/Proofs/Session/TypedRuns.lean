import EntityMapper.Proofs.Session.Reconciling
/-! Typed runs: as long as a caller brings and looks for entities of the types of a catalogue, all
shared instances hold what their types show, and so do the instances that snapshots were taken of
and the versions that queued UPDATEs expect. -/

namespace EntityMapper

variable {σ : Type}

open Session Operation SessionState

namespace Gateway

variable (g : Gateway σ)

/-- All instances that work gives hold what their types show. -/
def Fitting (x : Work σ (List Instance)) : Prop :=
  Meets (fun _ => True) x (fun is _ => ∀ i ∈ is, i.Fits) (fun _ => True)

variable {t : EntityType} (ht : t.Formed)

include ht

theorem fitting_hydrate (l : Linker (StateM (Workspace σ))) (rows : List Row) :
    Fitting (hydrate l t rows) := by
  refine (meets_hydrate t rows).weaken (fun _ h => h) (fun is _ h i hi => ?_) fun _ h => h
  obtain ⟨r, -, hr⟩ := h i hi
  exact hr.fits ht

theorem fitting_findAllBy (field : String) (v : Value) : Fitting (g.findAllBy t field v) := by
  refine Meets.trivially.bind fun m => ?_
  split
  · exact .throw fun _ _ => trivial
  · exact Meets.trivially.bind fun rows => fitting_hydrate ht _ rows

theorem fitting_nativeAll (sql : String) (params : List Value) :
    Fitting (g.nativeAll t sql params) :=
  Meets.trivially.bind fun _ => Meets.trivially.bind fun rows => fitting_hydrate ht _ rows

theorem fitting_load (id : Value) : Fitting (Option.toList <$> g.load t id) := by
  refine Meets.map ?_
  unfold load
  cases g.catalogue.length with
  | zero => exact .throw fun _ _ => trivial
  | succ depth =>
    refine Meets.trivially.bind fun m => Meets.trivially.bind fun rows =>
      (fitting_hydrate ht _ rows).bind fun found => .lift (fun r hr _ hfits => ?_)
        fun _ _ => trivial
    rw [toList_of_atMostOne hr]
    exact hfits

end Gateway

namespace Snapshot.TakenOf

variable {snapshot : Snapshot} {g : Gateway σ} {w v : Workspace σ} {k l : EntityKey} {i : Instance}
  {m : Metadata}

theorem mono (h : snapshot.TakenOf g w k i m) (hg : w.Grows v) : snapshot.TakenOf g v k i m :=
  ⟨h.known, h.path, hg.journal _ _ h.resolved, h.fits, h.eq⟩

theorem of_beq (h : snapshot.TakenOf g w k i m) (hkl : (k == l) = true) :
    snapshot.TakenOf g w l i m :=
  ⟨h.known, (EntityKey.path?_eq_of_beq hkl).symm.trans h.path, h.resolved, h.fits, h.eq⟩

/-- A snapshot of a shared instance. -/
theorem capture {e : Entry} (he : e.Sound w) (hw : w.heap.Fits g.catalogue)
    (hm : w.journal.registry.find? (w.heap.get e.handle).type.path = some m) :
    (Snapshot.capture m (w.heap.get e.handle)).TakenOf g w e.key (w.heap.get e.handle) m :=
  ⟨(hw _ he.lt).1, he.path, hm, (hw _ he.lt).2, rfl⟩

end Snapshot.TakenOf

/-- A value is the version in a snapshot of an instance of the type of a key. -/
def Workspace.Captured (w : Workspace σ) (g : Gateway σ) (k : EntityKey) (x : Value) : Prop :=
  ∃ (snapshot : Snapshot) (i : Instance) (m : Metadata),
    snapshot.TakenOf g w k i m ∧ x = snapshot.version m

namespace SessionState

/-- The shared instances and those of the snapshots are of types of the catalogue and hold what
these show, and UPDATEs expect versions of such snapshots. -/
structure Typed (s : SessionState σ) (g : Gateway σ) : Prop where
  heap : s.space.heap.Fits g.catalogue
  taken : ∀ p ∈ s.session.snapshots.entries, ∃ i m, p.2.TakenOf g s.space p.1 i m
  expected : ∀ e x, .merge e x ∈ s.session.queue.actions → s.space.Captured g e.key x

/-- The second state shares the instances of the first one and knows the same entities, and of the
actions that wait in it only removals are new. -/
structure Quiet (s t : SessionState σ) : Prop where
  grows : s.space.Grows t.space
  heap : t.space.heap = s.space.heap
  map : t.session.map = s.session.map
  snapshots : t.session.snapshots = s.session.snapshots
  waiting : ∀ a ∈ t.session.queue.actions, a ∈ s.session.queue.actions ∨ ∃ e, a = .remove e

instance : IsPreorder (SessionState σ) Quiet where
  refl _ := ⟨.refl _, rfl, rfl, rfl, fun _ h => .inl h⟩
  trans _ _ _ h h' := ⟨h.grows.trans h'.grows, h'.heap.trans h.heap, h'.map.trans h.map,
    h'.snapshots.trans h.snapshots, fun a ha => (h'.waiting a ha).elim (h.waiting a) .inr⟩

theorem Quiet.updates {s t : SessionState σ} (h : Quiet s t) {e : Entry} {x : Value}
    (ha : .merge e x ∈ t.session.queue.actions) : .merge e x ∈ s.session.queue.actions :=
  (h.waiting _ ha).resolve_right fun ⟨_, heq⟩ => nomatch heq

namespace Typed

variable {g : Gateway σ} {s t : SessionState σ} {w : Workspace σ}

theorem fresh (c : SessionConfig) (hw : w.heap.Fits g.catalogue) :
    Typed ⟨{ config := c }, w⟩ g where
  heap := hw
  taken := by simp [Assoc.empty]
  expected := by simp

variable (h : s.Typed g)

include h

theorem find? {k : EntityKey} {snapshot : Snapshot}
    (hfind : s.session.snapshots.find? k = some snapshot) :
    ∃ i m, snapshot.TakenOf g s.space k i m := by
  obtain ⟨l, hl, hlk⟩ := Assoc.mem_of_find? hfind
  obtain ⟨i, m, htaken⟩ := h.taken _ hl
  exact ⟨i, m, htaken.of_beq hlk⟩

theorem of_grows (hg : s.space.Grows t.space) (ht : t.space.heap.Fits g.catalogue)
    (hsnapshots : t.session.snapshots.entries ⊆ s.session.snapshots.entries)
    (hupdates : ∀ e x, Action.merge e x ∈ t.session.queue.actions →
      Action.merge e x ∈ s.session.queue.actions) : t.Typed g where
  heap := ht
  taken p hp := by
    obtain ⟨i, m, htaken⟩ := h.taken p (hsnapshots hp)
    exact ⟨i, m, htaken.mono hg⟩
  expected e x ha := by
    obtain ⟨snapshot, i, m, htaken, hx⟩ := h.expected e x (hupdates e x ha)
    exact ⟨snapshot, i, m, htaken.mono hg, hx⟩

theorem quiet (hq : Quiet s t) : t.Typed g :=
  h.of_grows hq.grows (by rw [hq.heap]; exact h.heap) (by rw [hq.snapshots]; exact fun _ hp => hp)
    fun _ _ => hq.updates

theorem work (hg : s.space.Grows w) (hw : w.heap.Fits g.catalogue) :
    Typed { s with space := w } g :=
  h.of_grows hg hw (fun _ hp => hp) fun _ _ ha => ha

/-- An entity becomes known with a snapshot that was taken of an instance of its type. -/
theorem keep {e : Entry} (hg : s.space.Grows w) (hw : w.heap.Fits g.catalogue)
    {snapshot : Snapshot} {i : Instance} {m : Metadata}
    (htaken : snapshot.TakenOf g w e.key i m) : Typed ⟨s.session.keep e snapshot, w⟩ g := by
  refine ⟨hw, fun p hp => ?_, (h.work hg hw).expected⟩
  rcases Assoc.mem_insert hp with hp | ⟨hsnapshot, hkey⟩
  · exact (h.work hg hw).taken p hp
  · rw [hsnapshot]
    rcases hkey with hkey | hkey
    · exact ⟨i, m, by rwa [hkey]⟩
    · exact ⟨i, m, htaken.of_beq (BEq.symm hkey)⟩

/-- Entries that are ready are kept as their instances are now. -/
theorem foldl_keepNow {es : List Entry} (hes : ∀ e ∈ es, e.Ready s.space) :
    Typed { s with session := es.foldl (·.keepNow s.space ·) s.session } g := by
  induction es generalizing s with
  | nil => exact h
  | cons e es ih =>
    have he := hes e List.mem_cons_self
    obtain ⟨m, hm⟩ := he.resolved
    rw [List.foldl_cons, keepNow_of_find? hm]
    exact ih (s := { s with session := s.session.keep e _ })
      (h.keep (.refl _) h.heap (.capture he.toSound h.heap hm))
      fun f hf => hes f (List.mem_cons_of_mem e hf)

end Typed

end SessionState

namespace Session

variable (g : Gateway σ) {s : SessionState σ}

section Quietly

theorem snapshots_forgetAll (ks : List EntityKey) (s : Session) :
    (s.forgetAll ks).snapshots.entries ⊆ s.snapshots.entries := by
  induction ks generalizing s with
  | nil => exact fun _ hp => hp
  | cons k ks ih => exact fun p hp => List.mem_of_mem_eraseP (ih (s.forget k) hp)

/-- A transaction is ended, or another one opened. -/
theorem quiet_takeStep (step : TransactionStep) (active : Bool) (message : String) :
    Within Quiet (takeStep g step active message) := by
  intro s
  have hg := g.steady_transact step s.space
  have hheap := (g.transact_frame step s.space).1
  rw [takeStep_apply]
  rcases hr : g.transact step s.space with ⟨e | u, w⟩ <;> rw [hr] at hg hheap
  · exact ⟨hg, hheap, rfl, rfl, fun _ ha => .inl ha⟩
  · exact ⟨hg.trans (grows_note _ _ _), hheap, rfl, rfl, fun _ ha => .inl ha⟩

theorem quiet_begin : Within Quiet (begin g) :=
  within_begin (quiet_takeStep g .start true _)

theorem quiet_ensureActive : Within Quiet (ensureActive : Operation σ Unit) := by
  intro s
  rw [ensureActive_apply]
  cases s.session.active <;> exact refl s

theorem quiet_rollback : Within Quiet (rollback g) :=
  Within.ensureOpen.bind fun _ => quiet_ensureActive.bind fun _ =>
    .bind (fun _ => ⟨.refl _, rfl, rfl, rfl, fun _ ha => nomatch ha⟩) fun _ =>
      quiet_takeStep g .rollback false _

theorem quiet_remove (h : Handle) : Within Quiet (remove h : Operation σ Unit) := by
  refine within_remove (fun e s => ?_) h
  rw [enqueue_apply]
  refine ⟨grows_note _ _ _, rfl, rfl, rfl, fun a ha => ?_⟩
  exact (List.mem_append.mp ha).imp_right fun ha => ⟨_, List.mem_singleton.mp ha⟩

end Quietly

section Searches

variable (hc : g.catalogue.Formed)

/-- An instance is of a type of the catalogue that is resolved, and holds what the type shows. -/
def IsTyped (i : Instance) (s : SessionState σ) : Prop :=
  IsResolved i s ∧ i.type ∈ g.catalogue ∧ i.Fits

theorem keeper_typed : Keeper g (fun _ => True) (fun s => s.Open ∧ s.Typed g) (IsTyped g) where
  select := Command.allowsSelect_any
  read s w hs hread :=
    ⟨hs.1.work hread.grows, hs.2.work hread.grows (by rw [hread.heap]; exact hs.2.heap)⟩
  manage s i hs hi := by
    obtain ⟨⟨m, hm⟩, hknown, hfits⟩ := hi
    rcases manage_cases g hs.1.valid hm with ⟨e, -, hrun⟩ | ⟨-, hrun⟩
    · exact ⟨_, s, hrun, hs, fun _ h => h⟩
    · exact ⟨_, _, hrun, ⟨hs.1.adopt_push i hm,
        hs.2.keep (.push _ i) (hs.2.heap.push hknown hfits) ⟨hknown, rfl, hm, hfits, rfl⟩⟩,
        fun _ h => h⟩

include hc

theorem loader_typed : Loader g (· ∈ g.catalogue) (fun t _ => t ∈ g.catalogue)
    (fun s => s.Open ∧ s.Typed g) (IsTyped g) := by
  have hloaded {t : EntityType} (ht : t ∈ g.catalogue) {x : Work σ (List Instance)}
      (hx : Gateway.Loads t x) (hfitting : Gateway.Fitting x) :
      Loaded (fun s => s.Open ∧ s.Typed g) (IsTyped g) x := by
    intro s _ is v hv i hi
    obtain ⟨-, ⟨m, hm⟩, htype⟩ := (hx s.space).ok (.refl _) hv
    refine ⟨⟨m, ?_⟩, ?_, hfitting.ok trivial hv i hi⟩ <;> rw [htype i hi]
    · exact hm
    · exact ht
  exact ⟨fun t id ht => hloaded ht (g.loads_load t id) (g.fitting_load (hc.types t ht) id),
    fun t field v ht => hloaded ht (g.loads_findAllBy t field v)
      (g.fitting_findAllBy (hc.types t ht) field v),
    fun t sql params ht => hloaded ht (g.loads_nativeAll t sql params)
      (g.fitting_nativeAll (hc.types t ht) sql params)⟩

theorem typed_searched {c : SessionCall}
    (hsearches : c.Searches g (· ∈ g.catalogue) fun t _ => t ∈ g.catalogue) (hs : s.Open)
    (h : s.Typed g) : (c.run g s).2.Typed g :=
  (SessionCall.meets_searched (keeper_typed g) (loader_typed g hc) (fun _ _ _ => trivial)
    hsearches).final ⟨hs, h⟩ |>.2

theorem typed_merge {i : Instance} (ht : i.type ∈ g.catalogue) (hi : i.Fits) (hs : s.Open)
    (h : s.Typed g) : (merge g i s).2.Typed g := by
  refine ((keeper_typed g).meets_merge i fun s v loaded m hs _ _ hv hread hm => ?_).final
    ⟨hs, h⟩ |>.2
  have hload : (Option.toList <$> g.load i.type (EntityKey.ofInstance i).id) s.space =
      (.ok [loaded], v) := by
    rw [map_apply, hv]
    rfl
  have htype := ((g.loads_load i.type _ s.space).ok (.refl _) hload).2.2 loaded List.mem_cons_self
  have hfits := (g.fitting_load (hc.types _ ht) _).ok trivial hload loaded List.mem_cons_self
  refine ⟨(hs.1.work hread.grows).adopt_push loaded hm, ?_⟩
  have hv : v.heap.Fits g.catalogue := by
    rw [hread.heap]
    exact hs.2.heap
  refine hs.2.keep (hread.grows.trans (.push v i)) (hv.push ht hi) (i := loaded) (m := m) ?_
  exact ⟨by rwa [htype], by rw [htype]; rfl, by rw [htype]; exact hm, hfits, rfl⟩

end Searches

section Writes

theorem typed_persistDeferred {i : Instance} (ht : i.type ∈ g.catalogue) (hi : i.Fits)
    (ho : s.session.closed = false) (h : s.Typed g) :
    (persistDeferred i s : _ × SessionState σ).2.Typed g := by
  unfold persistDeferred
  rw [bind_of_open ho]
  refine h.of_grows ((Workspace.Grows.push s.space i).trans (grows_note _ .trace "Queued action"))
    (h.heap.push ht hi) (fun _ hp => hp) fun e x ha => ?_
  rcases List.mem_append.mp ha with ha | ha
  · exact ha
  · cases List.mem_singleton.mp ha

theorem typed_persist (hc : g.catalogue.Formed) {i : Instance} (ht : i.type ∈ g.catalogue)
    (hi : i.Fits) (ho : s.session.closed = false) (h : s.Typed g) :
    (persist g i s).2.Typed g := by
  have hfits := g.fits_persist hc (w := { s.space with heap := s.space.heap.push i })
    (h.heap.push ht hi) s.space.heap.next
  change (added g i s).2.heap.Fits g.catalogue at hfits
  obtain ⟨v, hg, ⟨f, hr, hrun⟩ | ⟨e, m, hr, -, hready, hm, hrun⟩⟩ := persist_ends g ho i <;>
    rw [hr] at hfits <;> rw [hrun]
  · exact h.work hg hfits
  · exact h.keep hg hfits (.capture hready.toSound hfits hm)

theorem typed_dirtyCheck (hs : s.Open) (h : s.Typed g) : (dirtyCheck g s).2.Typed g := by
  obtain ⟨w, hg, hheap, -, ⟨e, hrun⟩ | ⟨dirty, hrun, -, hguarded⟩⟩ :=
    dirtyCheck_ends g hs.valid hs.isOpen <;> rw [hrun]
  · exact h.work hg (by rw [hheap]; exact h.heap)
  · have hw : Typed { s with space := w } g := h.work hg (by rw [hheap]; exact h.heap)
    refine ⟨hw.heap, hw.taken, fun e x ha => ?_⟩
    rcases List.mem_append.mp ha with ha | ha
    · exact hw.expected e x ha
    · obtain ⟨p, hp, hpx⟩ := List.mem_map.mp ha
      cases hpx
      obtain ⟨t, snapshot, m, ht, hfind, hm, hx⟩ := hguarded p hp
      obtain ⟨i, m', htaken⟩ := hw.find? hfind
      have hpath : p.1.key.path? = some t.path := by
        rw [EntityKey.path?, ht]
        rfl
      obtain hsame : t.path = i.type.path := Option.some.inj (hpath.symm.trans htaken.path)
      obtain rfl : m = m' := by
        rw [hsame, htaken.resolved] at hm
        exact (Option.some.inj hm).symm
      exact ⟨snapshot, i, m, htaken, hx⟩

variable (hc : g.catalogue.Formed)

include hc

theorem typed_flushActions (hs : s.Open) (h : s.Typed g) : (flushActions g s).2.Typed g := by
  obtain ⟨hready, -⟩ := reconcile_noting g hs.valid
  obtain ⟨done, hq, -⟩ := hs.valid.recorded g
  obtain ⟨events, hrun⟩ := flushActions_noting g hs.valid
  have hleft : Typed ⟨{ s.session with queue := ⟨(drained g s).1.left⟩ }, (drained g s).2⟩ g :=
    h.of_grows (g.steady_performAll _ _ _) (g.fits_performAll hc _ _ h.heap) (fun _ hp => hp)
      fun e x ha => ActionQueue.mem_of_mem_left hq ha
  have hkept := hleft.foldl_keepNow hready
  rw [hrun]
  refine hkept.of_grows (grows_logged _ events) hkept.heap (snapshots_forgetAll _ _)
    fun e x ha => ?_
  exact (forgetAll_frame (drained g s).1.outcome.removed _).1 ▸ ha

theorem typed_flush (hs : s.Open) (h : s.Typed g) : (flush g s).2.Typed g := by
  rw [flush, bind_of_open hs.isOpen]
  exact typed_flushActions g hc hs h

theorem typed_commit (hs : s.Open) (h : s.Typed g) : (commit g s).2.Typed g := by
  cases ha : s.session.active with
  | false =>
    rw [commit_apply g hs.isOpen, ha]
    exact h
  | true =>
    exact (typed_flushActions g hc hs h).quiet
      (commit_within (quiet_takeStep g .commit false _) hs.isOpen ha)

theorem typed_close (hs : s.Open) (h : s.Typed g) : (close g s).2.Typed g := by
  have hopen := meets_dirtyCheck_open g s hs
  have hcheck := typed_dirtyCheck g hs h
  rcases hr : dirtyCheck g s with ⟨e | n, t⟩ <;> rw [hr] at hopen hcheck
  · rw [close_of_unchecked g hs.isOpen hr]
    exact hcheck
  · have hflush := typed_flushActions g hc hopen hcheck
    obtain ⟨events, hrun⟩ := close_of_checked g hs.isOpen hr
    rw [hrun]
    rcases hf : flushActions g t with ⟨e | u, v⟩ <;> rw [hf] at hflush
    · exact hflush
    · exact hflush.of_grows (grows_logged _ events) hflush.heap (fun _ hp => nomatch hp)
        fun _ _ ha => ha

end Writes

end Session

/-- What the caller brings is of types of the catalogue and holds what these show, and what it looks
for is of such types. -/
def SessionCall.IsTyped (c : SessionCall) (g : Gateway σ) : Prop :=
  match c with
  | persist i | persistDeferred i | merge i => i.type ∈ g.catalogue ∧ i.Fits
  | remove _ | dirtyCheck | flush | close | begin | commit | rollback => True
  | c => c.Searches g (· ∈ g.catalogue) fun t _ => t ∈ g.catalogue

/-- Every typed operation leaves a session typed. -/
theorem SessionCall.typed_run {g : Gateway σ} (hc : g.catalogue.Formed) {s : SessionState σ}
    (hs : s.Kept) (h : s.Typed g) {c : SessionCall} (htyped : c.IsTyped g) :
    (c.run g s).2.Typed g := by
  cases hclosed : s.session.closed with
  | true => rwa [run_of_closed g hclosed]
  | false =>
    have hopen : s.Open := ⟨hs, hclosed⟩
    have answer {α : Type} {f : α → SessionAnswer} {x : Operation σ α}
        (hx : (x s).2.Typed g) : ((f <$> x) s).2.Typed g := by
      rw [map_apply]
      exact hx
    cases c with
    | persist i => exact answer (typed_persist g hc htyped.1 htyped.2 hclosed h)
    | persistDeferred i => exact answer (typed_persistDeferred g htyped.1 htyped.2 hclosed h)
    | merge i => exact answer (typed_merge g hc htyped.1 htyped.2 hopen h)
    | remove k => exact answer (h.quiet (quiet_remove k s))
    | dirtyCheck => exact answer (typed_dirtyCheck g hopen h)
    | flush => exact answer (typed_flush g hc hopen h)
    | close => exact answer (typed_close g hc hopen h)
    | begin => exact answer (h.quiet (quiet_begin g s))
    | commit => exact answer (typed_commit g hc hopen h)
    | rollback => exact answer (h.quiet (quiet_rollback g s))
    | findById _ _ | findBy _ _ _ | findAllBy _ _ _ | nativeBy _ _ _ | nativeAll _ _ _
    | queryBy _ _ | queryAll _ _ => exact typed_searched g hc htyped hopen h

/-- A run of a session whose caller keeps to the types of the catalogue: its operations, and between
them whatever others do to the store and the caller to shared instances, within their types. -/
inductive TypedRun (g : Gateway σ) (start : SessionState σ) : SessionState σ → Prop
  | start : TypedRun g start start
  | call {s} (h : TypedRun g start s) {c : SessionCall} (hc : c.IsTyped g) :
    TypedRun g start (c.run g s).2
  | turn {s w} (h : TypedRun g start s) (hg : s.space.Grows w) (hw : w.heap.Fits g.catalogue) :
    TypedRun g start { s with space := w }

namespace TypedRun

variable {g : Gateway σ} {start s : SessionState σ}

theorem kept (h : TypedRun g start s) (hstart : start.Kept) : s.Kept := by
  induction h with
  | start => exact hstart
  | @call s _ c _ ih => exact c.kept_run g ih
  | turn _ hg _ ih => exact ih.work hg

/-- A session stays typed in every such run. -/
theorem typed (hc : g.catalogue.Formed) (h : TypedRun g start s) (hstart : start.Kept)
    (htyped : start.Typed g) : s.Typed g := by
  induction h with
  | start => exact htyped
  | call h hcall ih => exact SessionCall.typed_run hc (h.kept hstart) ih hcall
  | turn _ hg hw ih => exact ih.work hg hw

end TypedRun

end EntityMapper
