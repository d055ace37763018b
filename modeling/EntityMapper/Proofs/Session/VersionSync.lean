import EntityMapper.Proofs.Flush.VersionSteps
import EntityMapper.Proofs.Session.SoloRun
import EntityMapper.Proofs.Session.TypedRuns
import EntityMapper.Proofs.Store.Fetching
/-! Versions in sync: an UPDATE that a check for changes has queued and that the store carries out
gives the row, the entity and its snapshot the same version. -/

namespace EntityMapper

variable {σ : Type}

open Session Operation SessionState

section Queued

variable {g : Gateway σ} {s : SessionState σ} {e : Entry} {x : Value}

/-- An UPDATE that waits after a check for changes waited before, or it expects the version of the
snapshot. -/
theorem Session.updates_dirtyCheck (hs : s.Open)
    (h : Action.merge e x ∈ (dirtyCheck g s).2.session.queue.actions) :
    Action.merge e x ∈ s.session.queue.actions ∨
      ∃ n t, dirtyCheck g s = (.ok n, t) ∧ t.Guarded e x := by
  obtain ⟨w, -, -, -, ⟨f, hrun⟩ | ⟨dirty, hrun, -, hguarded⟩⟩ :=
    dirtyCheck_ends g hs.valid hs.isOpen <;> rw [hrun] at h
  · exact .inl h
  · refine (List.mem_append.mp h).imp id fun h => ⟨_, _, hrun, ?_⟩
    obtain ⟨p, hp, hpx⟩ := List.mem_map.mp h
    cases hpx
    exact hguarded p hp

variable {c : SessionCall}

theorem SessionCall.mem_prepared_of_mem_run (hs : s.Kept) {a : Action}
    (h : a ∈ (c.run g s).2.session.queue.actions) :
    a ∈ (c.prepared g s).session.queue.actions := by
  rw [c.queue_run] at h
  split at h
  · rename_i hflush
    obtain ⟨done, hq, -⟩ := (prepared_of_flushes g hflush hs.valid).1.recorded g
    exact ActionQueue.mem_of_mem_left hq h
  · split at h
    · cases h
    · exact h

/-- A close that leaves an UPDATE stopped at its flush. -/
theorem SessionCall.close_as_flush (hs : s.Open) {n : Nat} {t : SessionState σ}
    (hcheck : Session.dirtyCheck g s = (.ok n, t))
    (h : Action.merge e x ∈ (SessionCall.close.run g s).2.session.queue.actions) :
    (SessionCall.close.run g s).2 = (SessionCall.flush.run g t).2 := by
  have hchecked := meets_dirtyCheck_open g s hs
  rw [hcheck] at hchecked
  obtain ⟨events, hrun⟩ := close_of_checked g hs.isOpen hcheck
  rw [SessionCall.run, map_apply, hrun] at h ⊢
  rw [SessionCall.run, map_apply, Session.flush, bind_of_open hchecked.isOpen]
  rcases hf : flushActions g t with ⟨f | u, v⟩
  · rfl
  · rw [hf] at h
    rw [show v.session.queue.actions = [] from queue_of_flushed g hf] at h
    cases h

/-- An UPDATE that waits after an operation waited before, or a check for changes has just queued
it. At most that check was followed by a flush. -/
theorem SessionCall.updates_run (hs : s.Kept)
    (h : Action.merge e x ∈ (c.run g s).2.session.queue.actions) :
    Action.merge e x ∈ s.session.queue.actions ∨
      ∃ n t, Session.dirtyCheck g s = (.ok n, t) ∧ Action.merge e x ∈ t.session.queue.actions ∧
        t.Guarded e x ∧ ((c.run g s).2 = t ∨ (c.run g s).2 = (SessionCall.flush.run g t).2) := by
  cases hclosed : s.session.closed with
  | true =>
    rw [SessionCall.run_of_closed g hclosed] at h
    exact .inl h
  | false =>
    have hopen : s.Open := ⟨hs, hclosed⟩
    have hprepared := mem_prepared_of_mem_run hs h
    cases c with
    | persistDeferred i =>
      rw [SessionCall.run, map_apply] at h
      unfold Session.persistDeferred at h
      rw [bind_of_open hclosed] at h
      rcases List.mem_append.mp h with h | h
      · exact .inl h
      · cases List.mem_singleton.mp h
    | remove k =>
      rw [SessionCall.run, map_apply] at h
      exact .inl ((quiet_remove k s).updates h)
    | dirtyCheck =>
      rw [SessionCall.run, map_apply] at h ⊢
      refine (updates_dirtyCheck hopen h).imp id ?_
      rintro ⟨n, t, hcheck, hguarded⟩
      rw [hcheck] at h
      exact ⟨n, t, hcheck, h, hguarded, .inl (by rw [hcheck])⟩
    | close =>
      refine (updates_dirtyCheck hopen hprepared).imp id ?_
      rintro ⟨n, t, hcheck, hguarded⟩
      rw [SessionCall.prepared, hcheck] at hprepared
      exact ⟨n, t, hcheck, hprepared, hguarded, .inr (close_as_flush hopen hcheck h)⟩
    | _ => exact .inl hprepared

end Queued

/-- In a run from a given state a check for changes has queued an UPDATE, which expects the version
of the snapshot of that time. -/
def QueuedByCheck (g : Gateway σ) (start s : SessionState σ) (e : Entry) (x : Value) : Prop :=
  ∃ t n u, TypedRun g start t ∧ dirtyCheck g t = (.ok n, u) ∧
    Action.merge e x ∉ t.session.queue.actions ∧ Action.merge e x ∈ u.session.queue.actions ∧
    u.Guarded e x ∧ TypedRun g u s

namespace TypedRun

variable {g : Gateway σ} {start s : SessionState σ} {e : Entry} {x : Value}

/-- All UPDATEs that wait were queued by checks for changes. -/
theorem queuedByCheck (h : TypedRun g start s) (hstart : start.Kept)
    (hnone : start.session.queue.actions = [])
    (ha : Action.merge e x ∈ s.session.queue.actions) : QueuedByCheck g start s e x := by
  induction h with
  | start =>
    rw [hnone] at ha
    cases ha
  | @call s h c hc ih =>
    by_cases hbefore : Action.merge e x ∈ s.session.queue.actions
    · obtain ⟨t, n, u, ht, hcheck, hnew, hmem, hguarded, hrest⟩ := ih hbefore
      exact ⟨t, n, u, ht, hcheck, hnew, hmem, hguarded, hrest.call hc⟩
    · obtain ⟨n, t, hcheck, hmem, hguarded, hend⟩ :=
        (c.updates_run (h.kept hstart) ha).resolve_left hbefore
      refine ⟨s, n, t, h, hcheck, hbefore, hmem, hguarded, ?_⟩
      rcases hend with hend | hend <;> rw [hend]
      · exact .start
      · exact TypedRun.start.call (c := .flush) trivial
  | turn h hg hw ih =>
    obtain ⟨t, n, u, ht, hcheck, hnew, hmem, hguarded, hrest⟩ := ih ha
    exact ⟨t, n, u, ht, hcheck, hnew, hmem, hguarded, hrest.turn hg hw⟩

theorem prepared (h : TypedRun g start s) {c : SessionCall} (hc : c.flushes g s = true) :
    TypedRun g start (c.prepared g s) := by
  cases c with
  | flush | commit => exact h
  | close =>
    have hcheck := h.call (c := .dirtyCheck) trivial
    rwa [SessionCall.run, map_apply] at hcheck
  | _ => cases (Bool.and_eq_true_iff.mp hc).2

end TypedRun

theorem Workspace.Maps.derives {g : Gateway σ} {w : Workspace σ} (h : w.Maps g) : w.Derives g :=
  fun t ht m hm => (h t ht m hm).checked

namespace SessionState

variable {g : Gateway σ} {s : SessionState σ} {e : Entry} {x : Value} {f : EntityField}

/-- An UPDATE of a versioned entity expects a version that the version field shows. -/
theorem Typed.versioned (h : s.Typed g) (hs : s.Valid) (hc : g.catalogue.Formed)
    (hmaps : s.space.Derives g) (ha : Action.merge e x ∈ s.session.queue.actions)
    (hversion : (s.space.heap.get e.handle).type.versionField? = some f) (hid : f.isId = false) :
    ∃ m, e.Versioned g s.space f m ∧ (s.space.heap.get e.handle).type.ShowsVersion f x := by
  obtain ⟨snapshot, i, m, htaken, rfl⟩ := h.expected e x ha
  have hsound : e.Sound s.space := hs.actions _ ha
  obtain ⟨hknown, hfits⟩ := h.heap _ hsound.lt
  have htype : i.type = (s.space.heap.get e.handle).type :=
    hc.paths _ htaken.known _ hknown (Option.some.inj (htaken.path.symm.trans hsound.path))
  have hchecked := hmaps _ htaken.known _ htaken.resolved
  refine ⟨m, ⟨hsound, hc.types _ hknown, hfits, htype ▸ htaken.resolved, htype ▸ hchecked, hversion,
    hid⟩, .inr fun a hf => ?_⟩
  rw [← htype] at hversion hf
  rw [htaken.eq]
  exact Snapshot.shows_version hchecked (hc.types _ htaken.known) htaken.fits hversion hf

/-- Where a flush has recorded an UPDATE and no removal of its key, the session holds the entry with
a snapshot of what it is then. -/
theorem Valid.held_of_mem_merged (hs : s.Valid) (g : Gateway σ)
    (he : e ∈ (drained g s).1.outcome.merged)
    (hkept : ∀ k ∈ (drained g s).1.outcome.removed, (k == e.key) = false) :
    ∃ m, (drained g s).2.journal.registry.find? ((drained g s).2.heap.get e.handle).type.path =
        some m ∧
      (flushActions g s).2.session.held e.key =
        (some e, some (.capture m ((drained g s).2.heap.get e.handle))) := by
  obtain ⟨hready, -⟩ := reconcile_noting g hs
  obtain ⟨events, hrun⟩ := flushActions_noting g hs
  obtain ⟨m, hm, hheld⟩ := held_foldl_keepNow
    (fun f hf => hready f (List.mem_append_right _ hf)) (hs.merged_distinct g) he
    (Assoc.beq_self_of_contains (hs.of_mem_merged g he).2)
    ((drained g s).1.outcome.persisted.foldl (·.keepNow (drained g s).2 ·)
      { s.session with queue := ⟨(drained g s).1.left⟩ })
  refine ⟨m, hm, ?_⟩
  rw [hrun, Session.noting, List.foldl_append]
  exact (held_forgetAll_of_not_beq hkept _).trans hheld

end SessionState

/-- An UPDATE of a versioned entity that waits in a session with typed entities was queued by a
check for changes, with the version of the snapshot. If no version comes after that one, it fails
before anything is sent. If the store carries it out, it gives the row the next version, nothing
fails, and when the operation that flushes returns the entity has that version, and so has its
snapshot unless the same flush removed the row or the session is closed. -/
theorem TypedRun.versions_in_sync {g : Gateway σ} {c : SessionConfig} {w : Workspace σ}
    {s : SessionState σ} (hc : g.catalogue.Formed) (hw : w.heap.Fits g.catalogue)
    (h : TypedRun g ⟨{ config := c }, w⟩ s) {call : SessionCall} (hflush : call.flushes g s = true)
    (hmaps : (call.prepared g s).space.Derives g) {e : Entry} {x : Value}
    (hqueued : .merge e x ∈ (call.prepared g s).session.queue.actions) {f : EntityField}
    (hversion : ((call.prepared g s).space.heap.get e.handle).type.versionField? = some f)
    (hid : f.isId = false) :
    QueuedByCheck g ⟨{ config := c }, w⟩ (call.prepared g s) e x ∧
      ∀ o v, g.ComesTo (call.prepared g s).session.queue.ordered (call.prepared g s).space
          (.merge e x) o v →
        (x.IsGreatest → ∃ err, g.perform (.merge e x) o v = ((.error err, o), v) ∧
          (drained g (call.prepared g s)).1.result = .error err) ∧
        ∀ xs y, (g.perform (.merge e x) o v).2.transcript = v.transcript ++ xs → y ∈ xs →
          y.isAcceptedWrite = true → ∃ m next z,
            Metadata.ofDescriptor g.catalogue.schema (v.heap.get e.handle).type.descriptor =
              .ok m ∧
            Gateway.Advances e m f x o y (g.perform (.merge e x) o v) next z ∧
            ((call.run g s).2.space.heap.get e.handle).fieldValue f.name = some z ∧
            ((∀ k ∈ (drained g (call.prepared g s)).1.outcome.removed, (k == e.key) = false) →
              (call = .close → (call.run g s).1.isOk = false) →
              ∃ snapshot, (call.run g s).2.session.held e.key = (some e, some snapshot) ∧
                snapshot.version m = z) := by
  have hstart := (Open.fresh c w).toKept
  have hrun := h.prepared hflush
  have hkept := hrun.kept hstart
  have htyped := hrun.typed hc hstart (.fresh c hw)
  have hheld := sameHeld_run g hflush
  have hheap := heap_run g hflush
  refine ⟨hrun.queuedByCheck hstart rfl hqueued, fun o v hcomes => ?_⟩
  generalize call.prepared g s = p at *
  obtain ⟨m, hversioned, hx⟩ :=
    htyped.versioned hkept.valid hc hmaps hqueued hversion hid
  have hgrows := hcomes.grows
  have hlater : e.Versioned g v f m := hversioned.mono hgrows
    ((hcomes.fits hc htyped.heap) _ (Nat.lt_of_lt_of_le hversioned.lt hgrows.next)).2
  refine ⟨fun hgreatest => ?_, fun xs y hxs hy haccepted => ?_⟩
  · obtain ⟨err, herr⟩ := g.perform_unsent hlater hgreatest.nextVersion o
    exact ⟨err, herr, hcomes.result_of_error herr⟩
  · obtain ⟨next, z, hadvances⟩ := g.perform_advances hlater
      (by rw [hgrows.types _ hversioned.lt]; exact hx) hxs hy haccepted
    obtain ⟨hmerged, hget⟩ := hcomes.recorded
      (fun a ha => hkept.valid.actions a (ActionQueue.mem_ordered.mp ha))
      hkept.apart.nodup_ordered
      hadvances.written
    have hend : (drained g p).2.heap.get e.handle =
      (g.perform (.merge e x) o v).2.heap.get e.handle := hget
    have hmemory := hadvances.inMemory
    rw [← hend] at hmemory
    have hflushed := sameHeld_flushActions g hkept.valid
    refine ⟨m, next, z, hlater.checked, hadvances, ?_, fun hremoved hclose => ?_⟩
    · rw [hheap, hflushed.heap]
      exact hmemory
    · have hfinal : e.Versioned g (drained g p).2 f m := by
        have hgrown : p.space.Grows (drained g p).2 := g.steady_performAll _ _ _
        exact hversioned.mono hgrown (g.fits_performAll hc _ _ htyped.heap _
          (Nat.lt_of_lt_of_le hversioned.lt hgrown.next)).2
      obtain ⟨m', hm', hkeeps⟩ := hkept.valid.held_of_mem_merged g hmerged hremoved
      obtain rfl := Option.some.inj (hm'.symm.trans hfinal.resolved)
      exact ⟨_, ((hheld hclose).held e.key).trans hkeeps,
        Snapshot.version_capture hfinal.checked hfinal.formed hfinal.version hmemory⟩

namespace SampleTables

/-- The first row was added without a version, and renamed in memory. -/
def edited : SessionState TableStore :=
  { added with space := (Work.setValue 0 "name" (.text "second") added.space).2 }

def checked : SessionState TableStore :=
  (SessionCall.dirtyCheck.run gateway edited).2

theorem typedRun_checked : TypedRun gateway fresh checked := by
  have hadded : TypedRun gateway fresh added := .call .start brings_persist
  have hfits := hadded.typed formed (Open.fresh {} fresh.space).toKept (.fresh {} fits_fresh)
  exact (hadded.turn (Work.Steady.setValue 0 "name" (.text "second") _)
    (gateway.fits_setValue formed hfits.heap 0 "name" (.text "second"))).call trivial

theorem queue_checked : checked.session.queue.actions = [.merge ⟨first, 0⟩ .null] := rfl

/-- The version field of the entity. -/
def counted : EntityField :=
  SampleTypes.version "version" (.optional (.integer .big))

/-- The UPDATE of the new name gives the row, the entity and the snapshot the version 1. -/
theorem versions_in_sync_renamed :
    QueuedByCheck gateway fresh checked ⟨first, 0⟩ .null ∧
      ∃ y m next z snapshot, Gateway.Advances ⟨first, 0⟩ m counted .null {} y
          (gateway.perform (.merge ⟨first, 0⟩ .null) {} checked.space) next z ∧
        z.version? = some 1 ∧
        ((SessionCall.flush.run gateway checked).2.space.heap.get 0).fieldValue "version" =
          some z ∧
        (SessionCall.flush.run gateway checked).2.session.held first =
          (some ⟨first, 0⟩, some snapshot) ∧
        snapshot.version m = z := by
  have hqueued : Action.merge ⟨first, 0⟩ .null ∈ checked.session.queue.actions := by
    rw [queue_checked]
    exact List.mem_singleton_self _
  have hflush : SessionCall.flush.flushes gateway checked = true := by decide +kernel
  obtain ⟨hcheck, hcome⟩ := TypedRun.versions_in_sync formed fits_fresh typedRun_checked hflush
    (Workspace.maps_of_checked (by decide +kernel)).derives hqueued (f := counted) rfl rfl
  obtain ⟨-, hsent⟩ := hcome {} checked.space ⟨[], [], rfl, rfl⟩
  obtain ⟨y, hy⟩ := Option.isSome_iff_exists.mp (by decide +kernel :
    (gateway.exchange? checked.space (.merge ⟨first, 0⟩ .null)).isSome = true)
  have haccepted : ∀ y ∈ gateway.exchange? checked.space (.merge ⟨first, 0⟩ .null),
      y.isAcceptedWrite = true := by decide +kernel
  obtain ⟨m, next, z, -, hadvances, hmemory, hsnapshot⟩ := hsent _ y
    (gateway.transcript_perform_request _ _ _) (by simp [hy]) (haccepted y hy)
  obtain ⟨snapshot, hheld, hversion⟩ := hsnapshot (by decide +kernel) nofun
  refine ⟨hcheck, y, m, next, z, snapshot, hadvances, ?_, hmemory, hheld, hversion⟩
  rw [hadvances.same]
  cases hadvances.precedes
  rfl

end SampleTables

end EntityMapper
