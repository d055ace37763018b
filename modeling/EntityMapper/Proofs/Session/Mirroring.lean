import EntityMapper.Proofs.Session.History
import EntityMapper.Proofs.Session.Holding
/-! Mirroring: every operation of a session that works alone on a store leaves each known entity
with a snapshot that mirrors its row, unless a rollback has changed the row under it. -/

namespace EntityMapper

variable {σ : Type}

open Session Operation SessionState

/-- A query of the caller changes no row, and answers with rows of the table of a type. -/
structure Gateway.Lists (g : Gateway σ) (rows : σ → EntityType → List TableRow) (t : EntityType)
    (c : Command) : Prop where
  known : t ∈ g.catalogue
  harmless : g.Harmless rows c
  answers : g.Answers rows t c fun _ => True

/-- A row of the entity of a key was changed or removed. -/
def Gateway.Loses (g : Gateway σ) (rows : σ → EntityType → List TableRow) (k : EntityKey)
    (s s' : σ) : Prop :=
  ∃ t ∈ g.catalogue, ∃ r ∈ rows s t, t.HasId r k ∧ r ∉ rows s' t

/-- An instance was loaded from its row. -/
structure Instance.Loaded (g : Gateway σ) (rows : σ → EntityType → List TableRow) (i : Instance)
    (s : SessionState σ) : Prop where
  known : i.type ∈ g.catalogue
  fits : i.Fits
  read : ∃ m, s.space.journal.registry.find? i.type.path = some m ∧
    (g.Mapped i.type m → ∃ cells ∈ rows s.space.store i.type, i.ReadFrom cells)

theorem Instance.ReadFrom.recalls {g : Gateway σ} {rows : σ → EntityType → List TableRow}
    {X : EntityKey → Snapshot → Prop} {w : Workspace σ} {i : Instance} {m : Metadata}
    {cells : TableRow} {k : EntityKey} (h : i.ReadFrom cells) (hcells : cells ∈ rows w.store i.type)
    (hknown : i.type ∈ g.catalogue) (hfits : i.Fits)
    (hm : w.journal.registry.find? i.type.path = some m) (hk : k.path? = some i.type.path)
    (hid : i.type.HasId cells k) : (Snapshot.capture m i).Recalls g rows X w k :=
  ⟨i, m, ⟨hknown, hk, hm, hfits, rfl⟩, .inr ⟨cells, hcells, hid, h.shows⟩⟩

namespace Session

variable {g : Gateway σ} {rows : σ → EntityType → List TableRow} {X : EntityKey → Snapshot → Prop}
  (hrows : g.Tabular rows) (hc : g.catalogue.Formed)

include hrows hc

section Searches

theorem keeper_working :
    Keeper g (g.Harmless rows) (Working g rows X) (Instance.Loaded g rows) where
  select := hrows.select
  read s w hs hread := hs.look hread.grows hread.heap (hread.store.keeps fun _ s h => h s)
  manage s i hs hi := by
    obtain ⟨hknown, hfits, m, hm, hcells⟩ := hi
    rcases manage_cases g hs.valid hm with ⟨e, -, hrun⟩ | ⟨-, hrun⟩
    · exact ⟨_, s, hrun, hs, fun _ h => h⟩
    · refine ⟨_, _, hrun, hs.adopt (.push _ i) (.push _ i) (Nat.le_refl _)
        fun hmaps htidy => ?_, fun j hj => ⟨hj.known, hj.fits, hj.read⟩⟩
      have hmapped := hmaps _ hknown m hm
      obtain ⟨cells, hcells, hread⟩ := hcells hmapped
      obtain ⟨f, a, hid, hf, -⟩ := Metadata.id_of_formed (hc.types _ hknown) hmapped.checked
      refine ⟨htidy.heap.push hknown hfits, .of_eq rfl, ?_, fun k hk => ?_⟩
      · rw [Heap.get_push_self]
        exact Instance.isOf_key hmapped (hc.types _ hknown) hfits
      · exact hread.recalls hcells hknown hfits hm (EntityKey.path?_eq_of_beq hk).symm
          (hread.hasId hid hf hk)

theorem loader_working : Loader g (· ∈ g.catalogue) (g.Lists rows) (Working g rows X)
    (Instance.Loaded g rows) := by
  have hloaded {t : EntityType} (ht : t ∈ g.catalogue) {x : Work σ (List Instance)}
      (hx : Meets (fun _ => True) x (g.Found rows t fun _ => True) (fun _ => True)) :
      Session.Loaded (Working g rows X) (Instance.Loaded g rows) x := by
    intro s _ is w hw i hi
    obtain ⟨m, hm, hall⟩ := hx.ok trivial hw
    obtain ⟨rfl, hfits, hread⟩ := hall i hi
    refine ⟨ht, hfits, m, hm, fun hmapped => ?_⟩
    obtain ⟨cells, hcells, -, hread⟩ := hread hmapped
    exact ⟨cells, hcells, hread⟩
  exact ⟨fun t id ht => hloaded ht (Gateway.found_load hrows (hc.types t ht) fun m hm =>
      hrows.selected t m m.id.column _ hm),
    fun t field v ht => hloaded ht (Gateway.found_findAllBy hrows (hc.types t ht) field v),
    fun t sql params hn => hloaded hn.known (Gateway.found_nativeAll hrows (hc.types t hn.known)
      hn.harmless hn.answers)⟩

/-- An instance from outside becomes known with a snapshot of its row. -/
theorem meets_merge_working {i : Instance} (ht : i.type ∈ g.catalogue) (hi : i.Fits) :
    Meets (Working g rows X) (merge g i) (fun _ => Working g rows X) (Working g rows X) := by
  refine (keeper_working hrows hc).meets_merge i fun s w loaded m hs _ _ hw hread hm => ?_
  have hanswers (m : Metadata) (hm : g.Mapped i.type m) : g.Answers rows i.type
      ⟨m.selectById, [(EntityKey.ofInstance i).id.identity]⟩
      fun cells => i.type.HasId cells (.ofInstance i) := by
    rw [show (EntityKey.ofInstance i).id.identity = (EntityKey.ofInstance i).id from
      Value.identity_identity _]
    exact hrows.identified _ m _ hm (Instance.isOf_key hm (hc.types _ ht) hi)
  have hfound := (Gateway.found_load hrows (hc.types _ ht) hanswers).ok (b := w) (v := [loaded])
    trivial (by rw [map_apply, hw]; rfl)
  obtain ⟨m', hm', hall⟩ := hfound
  obtain rfl : m' = m := Option.some.inj (hm'.symm.trans hm)
  obtain ⟨htype, hfits, hcells⟩ := hall loaded List.mem_cons_self
  have hlooked : Working g rows X { s with space := w } :=
    hs.look hread.grows hread.heap (hread.store.keeps fun _ s h => h s)
  refine hlooked.adopt (.push w i) (.push w i) (Nat.le_refl _) fun hmaps htidy => ?_
  have hmapped := hmaps _ ht _ hm
  obtain ⟨cells, hcells, hid, hread⟩ := hcells hmapped
  refine ⟨htidy.heap.push ht hi, .of_eq rfl, ?_, fun k hk => ?_⟩
  · rw [Heap.get_push_self]
    exact Instance.isOf_key hmapped (hc.types _ ht) hi
  · rw [← htype] at ht hm hcells hid
    exact hread.recalls hcells ht hfits hm
      ((EntityKey.path?_eq_of_beq hk).symm.trans (by rw [htype]; rfl)) (hid.of_beq hk)

end Searches

section Writes

/-- A row that is added at once is mirrored by the snapshot of its instance. -/
theorem meets_persist_working {i : Instance} (ht : i.type ∈ g.catalogue) (hi : i.Fits) :
    Meets (Working g rows X) (persist g i) (fun _ => Working g rows X) (Working g rows X) := by
  intro s hs
  have hstores (hf : s.space.heap.Fits g.catalogue) :=
    Gateway.stores_persist hrows hc (hf.push ht hi) (Nat.lt_succ_self _) true
      { s.space with heap := s.space.heap.push i } rfl
  obtain ⟨v, hg, ⟨f, hr, hrun⟩ | ⟨e, m, hr, hhandle, hready, hm, hrun⟩⟩ :=
    persist_ends g hs.isOpen i <;> rw [show g.persist _ _ = _ from hr] at hstores <;> rw [hrun]
  · exact hs.work hg (fun hf => (hstores hf).touches.fits (hf.push ht hi)) fun hmaps =>
      (hstores (hs.tidy (hmaps.of_grows hg)).heap).spares hmaps
  · refine hs.adopt hg hready.toSound (Nat.le_of_eq hhandle.symm) fun hmaps htidy => ?_
    obtain ⟨rfl, hstored⟩ := hstores htidy.heap
    have hheap := hstored.touches.fits (htidy.heap.push ht hi)
    obtain ⟨hknown, hfits⟩ := hheap _ hready.lt
    refine ⟨hheap, hstored.spares hmaps, ?_, fun k hk =>
      (hstored.stored _ rfl hmaps).recalls hready hheap hm hk⟩
    exact Instance.isOf_key (hmaps _ hknown m hm) (hc.types _ hknown) hfits

omit hrows hc in
theorem meets_persistDeferred_working {i : Instance} (ht : i.type ∈ g.catalogue) (hi : i.Fits) :
    Meets (Working g rows X) (persistDeferred i) (fun _ => Working g rows X)
      (Working g rows X) := by
  intro s hs
  unfold persistDeferred
  rw [bind_of_open hs.isOpen]
  exact hs.queuePersist ((hs.share ht hi).note .trace "Queued action") (Nat.le_refl _)
    (Nat.lt_succ_self _)

omit hrows hc in
theorem meets_remove_working (h : Handle) :
    Meets (Working g rows X) (remove h) (fun _ => Working g rows X) (Working g rows X) := by
  intro s hs
  have hvalid := (remove_moves hs.valid hs.isOpen h).valid hs.valid
  obtain ⟨answer, hrun⟩ | ⟨e, he, -, -, hrun⟩ := remove_ends hs.valid hs.isOpen h <;>
    rw [hrun] at hvalid ⊢
  · cases answer <;> exact hs
  · exact (hs.note .trace "Queued action").queueRemove he hvalid

omit hrows in
theorem meets_dirtyCheck_working :
    Meets (Working g rows X) (dirtyCheck g) (fun _ => Working g rows X) (Working g rows X) := by
  intro s hs
  have hvalid := (dirtyCheck_moves g hs.valid hs.isOpen).1.valid hs.valid
  obtain ⟨w, hg, hheap, hstore, ⟨e, hrun⟩ | ⟨dirty, hrun, hunqueued, hguarded⟩⟩ :=
    dirtyCheck_ends g hs.valid hs.isOpen
  · rw [hrun]
    exact hs.look hg hheap (congrArg rows hstore)
  · rw [hrun] at hvalid ⊢
    have hlooked : Working g rows X { s with space := w } := hs.look hg hheap (congrArg rows hstore)
    exact hlooked.queueMerges hc hunqueued hguarded hvalid

/-- What a drain wrote is taken note of. -/
theorem working_drained {s : SessionState σ} (hs : s.Working g rows X) :
    ∃ t, reconcile g (drained g s).1.outcome
        ⟨{ s.session with queue := ⟨(drained g s).1.left⟩ }, (drained g s).2⟩ =
          (.ok (), ⟨t, (drained g s).2⟩) ∧ Working g rows X ⟨t, (drained g s).2⟩ := by
  obtain ⟨t, hrun, hmove, htq, htc⟩ := settle_drained g hs.valid hs.isOpen
  have hg : s.space.Grows (drained g s).2 := g.steady_performAll _ _ _
  obtain ⟨done, -, -, hq, -⟩ := reconcile_drained g hs.valid
  refine ⟨t, hrun, hs.settle hc hg hq (hmove.valid hs.valid) htc htq fun hmaps htidy => ?_⟩
  have hwrites := Gateway.performAll_writes hrows hc htidy.heap
    (fun a ha => htidy.actions a (ActionQueue.mem_ordered.mp ha)) htidy.apart.nodup_ordered {}
  change g.Writes rows _ {} s.space (drained g s).1 (drained g s).2 at hwrites
  obtain ⟨done', hq', houtcome, hready, hrecalls⟩ := hwrites.recorded
  obtain rfl : done = done' := List.append_cancel_right (hq.symm.trans hq')
  have hnoted := reconcile_noted g
    (s := ⟨{ s.session with queue := ⟨(drained g s).1.left⟩ }, (drained g s).2⟩) hq hready
  dsimp only at hnoted
  rw [← houtcome, hrun] at hnoted
  obtain rfl : t = _ := congrArg SessionState.session (Prod.mk.inj hnoted).2
  refine ⟨hwrites.touches.fits htidy.heap, fun e he => ?_, ?_⟩
  · refine (mem_values_foldl_noted he).imp_right ?_
    rintro ⟨a, ha, hae⟩
    exact ⟨a, ha, hae, hready a ha e hae⟩
  · exact hrecalls _ X hs.valid.coherent.distinct htidy.recalls hmaps

theorem meets_flushActions_working :
    Meets (Working g rows X) (flushActions g) (fun _ => Working g rows X)
      (Working g rows X) := by
  intro s hs
  by_cases hq : s.session.queue.actions = []
  · simpa [flushActions, hq] using hs
  · obtain ⟨t, hrun, hworking⟩ := working_drained hrows hc hs
    rw [flushActions_apply g hq hrun]
    cases (drained g s).1.result with
    | error e => exact hworking
    | ok u => exact hworking.note .info "Flushed session"

end Writes

section Transactions

omit hrows hc

theorem working_activate {s : SessionState σ} (hs : s.Working g rows X) (active : Bool) :
    Working g rows X { s with session := { s.session with active := active } } := by
  refine ⟨⟨(Move.switch active hs.isOpen).valid hs.valid, fun hmaps => ?_⟩, hs.isOpen⟩
  obtain ⟨hheap, hkeys, hactions, ⟨hqueued, hknown, hsame⟩, hrecalls⟩ := hs.tidy hmaps
  exact ⟨hheap, hkeys, hactions, ⟨hqueued, hknown, hsame⟩, hrecalls⟩

include hrows

/-- All steps of transactions but rollbacks leave the rows alone. -/
theorem meets_takeStep_working {step : TransactionStep} (hstep : step ≠ .rollback) (active : Bool)
    (message : String) : Meets (Working g rows X) (takeStep g step active message)
      (fun _ => Working g rows X) (Working g rows X) := by
  intro s hs
  have hg := g.steady_transact step s.space
  obtain ⟨hheap, hstore⟩ := g.transact_frame step s.space
  have hsame : rows (g.transact step s.space).2.store = rows s.space.store :=
    (congrArg rows hstore).trans (hrows.transact step s.space.store hstep)
  have hlooked := hs.look hg hheap hsame
  rw [takeStep_apply]
  rcases hr : g.transact step s.space with ⟨e | u, w⟩ <;> rw [hr] at hlooked
  · exact hlooked
  · exact (working_activate hlooked active).note .info message

theorem meets_begin_working :
    Meets (Working g rows X) (begin g) (fun _ => Working g rows X) (Working g rows X) :=
  meets_begin g (meets_takeStep_working hrows (by decide) true _)

include hc

theorem meets_flush_working :
    Meets (Working g rows X) (flush g) (fun _ => Working g rows X) (Working g rows X) :=
  meets_ensureOpen.bind fun _ => meets_flushActions_working hrows hc

theorem meets_commit_working :
    Meets (Working g rows X) (commit g) (fun _ => Working g rows X) (Working g rows X) :=
  meets_commit g (meets_flushActions_working hrows hc)
    (meets_takeStep_working hrows (by decide) false _)

omit hrows hc in
/-- A session that was closed knows nothing. -/
theorem mirroring_shut {s : SessionState σ} (hs : s.Working g rows X)
    (hq : s.session.queue.actions = []) : Mirroring g rows X { s with session := { s.session with
      map := .empty, snapshots := .empty, closed := true } } := by
  refine ⟨(Move.close hs.isOpen hq).valid hs.valid, fun hmaps => ?_⟩
  obtain ⟨hheap, -, hactions, ⟨hqueued, -, -⟩, -⟩ := hs.tidy hmaps
  exact ⟨hheap, by simp [Assoc.empty, Assoc.values], hactions,
    ⟨hqueued, by simp [Assoc.empty, Assoc.values], by simp [Assoc.empty, Assoc.values]⟩,
    fun k e h => by simp [Assoc.find?, Assoc.empty] at h⟩

theorem mirroring_close {s : SessionState σ} (hs : s.Working g rows X) :
    Mirroring g rows X (close g s).2 := by
  have hcheck := meets_dirtyCheck_working hc s hs
  rcases hr : dirtyCheck g s with ⟨e | n, t⟩ <;> rw [hr] at hcheck
  · rw [close_of_unchecked g hs.isOpen hr]
    exact hcheck.toMirroring
  · obtain ⟨events, hclose⟩ := close_of_checked g hs.isOpen hr
    have hflush := meets_flushActions_working hrows hc t hcheck
    have hempty := (flushActions_moves g hcheck.valid hcheck.isOpen).2.2
    rw [hclose]
    rcases hf : flushActions g t with ⟨e | u, v⟩ <;> rw [hf] at hflush hempty
    · exact hflush.toMirroring
    · exact (mirroring_shut hflush (hempty rfl)).work (grows_logged _ events) id
        fun _ => .of_eq rfl

omit hrows hc in
/-- A rollback at the store may change rows, and a row that it has changed or removed is no longer
mirrored. -/
theorem working_undone {s : SessionState σ} (hs : s.Working g rows X) :
    Working g rows (fun k snapshot => X k snapshot ∨
      g.Loses rows k s.space.store (g.transact .rollback s.space).2.store)
      ⟨{ s.session with queue := {} }, (g.transact .rollback s.space).2⟩ := by
  obtain ⟨hheap, -⟩ := g.transact_frame .rollback s.space
  have hg := g.steady_transact .rollback s.space
  refine ⟨⟨((Move.drop hs.isOpen).valid hs.valid).work hg, fun hmaps => ?_⟩, hs.isOpen⟩
  obtain ⟨hfits, hkeys, -, ⟨-, -, hsame⟩, hrecalls⟩ := hs.tidy (hmaps.of_grows hg)
  refine ⟨by rw [hheap]; exact hfits, fun e he => ?_, by simp, ⟨by simp, by simp, hsame⟩,
    fun k e hk hks => ?_⟩
  · rw [hheap]
    exact hkeys e he
  · obtain ⟨snapshot, hfind, i, m, htaken, hor⟩ := hrecalls k e hk hks
    refine ⟨snapshot, hfind, i, m, ⟨htaken.known, htaken.path, hg.journal _ _ htaken.resolved,
      htaken.fits, htaken.eq⟩, ?_⟩
    rcases hor with hx | ⟨r, hr, hid, hshows⟩
    · exact .inl (.inl hx)
    · by_cases hstill : r ∈ rows (g.transact .rollback s.space).2.store i.type
      · exact .inr ⟨r, hstill, hid, hshows⟩
      · exact .inl (.inr ⟨i.type, htaken.known, r, hr, hid, hstill⟩)

omit hrows hc in
theorem mirroring_rollback {s : SessionState σ} (hs : s.Working g rows X) :
    Mirroring g rows (fun k snapshot => X k snapshot ∨
      g.Loses rows k s.space.store (rollback g s).2.space.store) (rollback g s).2 := by
  have hundone := working_undone hs
  rw [rollback_apply g hs.isOpen]
  cases s.session.active with
  | false => exact hs.toMirroring.exempt fun _ _ _ hx => .inl hx
  | true =>
    rw [if_pos rfl, takeStep_apply]
    rcases hr : g.transact .rollback s.space with ⟨e | u, w⟩ <;> rw [hr] at hundone
    · exact hundone.toMirroring
    · exact ((working_activate hundone false).note .info "Transaction rolled back").toMirroring

end Transactions

end Session

end EntityMapper
