import EntityMapper.Proofs.Session.Guarding
import EntityMapper.Proofs.Session.Recording
import Mathlib.Data.List.Pairwise
/-! Holding: what a session that works alone on a store holds of entities, and the few ways in which
its operations change that. -/

namespace EntityMapper

variable {σ : Type}

/-- An instance is identified by a key of its type. -/
theorem Instance.isOf_key {g : Gateway σ} {i : Instance} {m : Metadata} (hm : g.Mapped i.type m)
    (ht : i.type.Formed) (hi : i.Fits) : (EntityKey.ofInstance i).IsOf i.type := by
  obtain ⟨f, a, hid, hf, -⟩ := Metadata.id_of_formed ht hm.checked
  exact ⟨f, a, i.idValue, hid, hf, (Instance.idValue_of_fits hi hid hf).2, rfl⟩

/-- The version of a snapshot is what the version field held. -/
theorem Snapshot.version_capture {schema : Schema} {i : Instance} {m : Metadata}
    (hm : Metadata.ofDescriptor schema i.type.descriptor = .ok m) (ht : i.type.Formed)
    {f : EntityField} (hversion : i.type.versionField? = some f) {v : Value}
    (hv : i.fieldValue f.name = some v) : (Snapshot.capture m i).version m = v := by
  rcases Metadata.version_of_formed ht hm with ⟨-, hnone⟩ | ⟨f', a, hversion', hf, -, hmv⟩
  · rw [hnone] at hversion
    cases hversion
  · obtain rfl := Option.some.inj (hversion.symm.trans hversion')
    have hcaptured := Metadata.valueOf?_capture i (Metadata.mem_persistent hf hm)
    simp [Snapshot.version, hmv, hcaptured, hv]

/-- It is one that the version field shows. -/
theorem Snapshot.shows_version {schema : Schema} {i : Instance} {m : Metadata}
    (hm : Metadata.ofDescriptor schema i.type.descriptor = .ok m) (ht : i.type.Formed)
    (hi : i.Fits) {f : EntityField} {a : FieldType} (hversion : i.type.versionField? = some f)
    (hf : i.type.HasColumn f a) : a.Shows ((Snapshot.capture m i).version m) := by
  obtain ⟨v, hv, hshows⟩ := hi f a hf
  rwa [Snapshot.version_capture hm ht hversion (Instance.fieldValue_of_slot? hv)]

namespace Action

theorem handle?_of_written {a : Action} {heap : Heap} {e : Entry} (h : e ∈ a.written heap) :
    a.handle? = some e.handle := by
  cases a <;> cases h <;> rfl

theorem written_of_updates {a : Action} {heap : Heap} {e : Entry} (h : a.updates = some e) :
    a.written heap = some e := by
  cases a <;> cases h
  rfl

end Action

namespace Session

/-- No instance is held twice: not by two actions that wait, not by two known entities, and by an
action besides an entity only if it is an UPDATE of that entity. -/
structure Apart (s : Session) : Prop where
  queued : (s.queue.actions.filterMap Action.handle?).Nodup
  known : ∀ e ∈ s.map.values, ∀ a ∈ s.queue.actions, a.handle? = some e.handle →
    a.updates = some e
  same : ∀ e ∈ s.map.values, ∀ f ∈ s.map.values, e.handle = f.handle → e = f

namespace Apart

variable {s t : Session} {e : Entry}

/-- An entity becomes known with an instance that was not held. -/
theorem keep (h : s.Apart) (hq : ∀ a ∈ s.queue.actions, a.handle? ≠ some e.handle)
    (hm : ∀ f ∈ s.map.values, f.handle ≠ e.handle) (snapshot : Snapshot) :
    (s.keep e snapshot).Apart := by
  refine ⟨h.queued, fun f hf a ha hh => ?_, fun f hf f' hf' heq => ?_⟩
  · rcases mem_values_keep hf with hf | rfl
    · exact h.known f hf a ha hh
    · exact absurd hh (hq a ha)
  · rcases mem_values_keep hf with hf | hfe <;> rcases mem_values_keep hf' with hf' | hfe'
    · exact h.same f hf f' hf' heq
    · exact absurd (hfe' ▸ heq) (hm f hf)
    · exact absurd (hfe ▸ heq.symm) (hm f' hf')
    · exact hfe.trans hfe'.symm

/-- Actions are queued whose instances are not held by others that wait. -/
theorem queue (h : s.Apart) {as : List Action} (has : (as.filterMap Action.handle?).Nodup)
    (hq : ∀ a ∈ s.queue.actions, ∀ b ∈ as, ∀ l ∈ b.handle?, a.handle? ≠ some l)
    (hm : ∀ e ∈ s.map.values, ∀ b ∈ as, b.handle? = some e.handle → b.updates = some e) :
    Apart { s with queue := ⟨s.queue.actions ++ as⟩ } := by
  refine ⟨?_, fun e he a ha hh => ?_, h.same⟩
  · rw [List.filterMap_append]
    refine List.nodup_append.mpr ⟨h.queued, has, fun l hl k hk heq => ?_⟩
    obtain ⟨a, ha, hal⟩ := List.mem_filterMap.mp hl
    obtain ⟨b, hb, hbk⟩ := List.mem_filterMap.mp hk
    exact hq a ha b hb k hbk (heq ▸ hal)
  · rcases List.mem_append.mp ha with ha | ha
    · exact h.known e he a ha hh
    · exact hm e he a ha hh

/-- A removal that waits holds no instance. -/
theorem queueRemove (h : s.Apart) (f : Entry) :
    Apart { s with queue := s.queue.add (.remove f) } := by
  refine h.queue ?_ ?_ ?_ <;> simp [Action.handle?, List.filterMap_cons]

theorem nodup_ordered (h : s.Apart) : (s.queue.ordered.filterMap Action.handle?).Nodup :=
  (s.queue.ordered_perm.filterMap _).nodup_iff.mpr h.queued

theorem nodup_split (h : s.Apart) {done left : List Action}
    (hq : s.queue.ordered = done ++ left) :
    (done.filterMap Action.handle? ++ left.filterMap Action.handle?).Nodup := by
  rw [← List.filterMap_append, ← hq]
  exact h.nodup_ordered

/-- Some of the queued actions were carried out, and the entries that they wrote became known. An
UPDATE writes its own entry. -/
theorem settleWritten (h : s.Apart) {done left : List Action} (hq : s.queue.ordered = done ++ left)
    (htq : t.queue = ⟨left⟩) (written : List Entry) (hnodup : (written.map (·.handle)).Nodup)
    (hwritten : ∀ e ∈ written, ∃ a ∈ done, a.handle? = some e.handle ∧ ∀ f ∈ a.updates, f = e)
    (hvalues : ∀ e ∈ t.map.values, e ∈ s.map.values ∨ e ∈ written) : t.Apart := by
  obtain ⟨-, hleft, hdisjoint⟩ := List.nodup_append.mp (h.nodup_split hq)
  refine ⟨by rwa [htq], fun e he a ha hh => ?_, fun e he f hf heq => ?_⟩
  · rw [htq] at ha
    rcases hvalues e he with he | he
    · exact h.known e he a (ActionQueue.mem_of_mem_left hq ha) hh
    · obtain ⟨b, hb, hbe, -⟩ := hwritten e he
      exact absurd rfl (hdisjoint _ (List.mem_filterMap.mpr ⟨b, hb, hbe⟩) _
        (List.mem_filterMap.mpr ⟨a, ha, hh⟩))
  · -- What was known of an instance that was written is the entry that was written.
    have hknown {e f : Entry} (he : e ∈ s.map.values) (hf : f ∈ written)
        (heq : e.handle = f.handle) : e = f := by
      obtain ⟨a, ha, haf, hupdates⟩ := hwritten f hf
      exact hupdates e (h.known e he a (ActionQueue.mem_of_mem_done hq ha) (haf.trans (heq ▸ rfl)))
    rcases hvalues e he with he | he <;> rcases hvalues f hf with hf | hf
    · exact h.same e he f hf heq
    · exact hknown he hf heq
    · exact (hknown hf he heq.symm).symm
    · exact List.inj_on_of_nodup_map hnodup he hf heq

/-- Some of the queued actions were carried out, and what they wrote became known. -/
theorem settle (h : s.Apart) {done left : List Action} (hq : s.queue.ordered = done ++ left)
    (htq : t.queue = ⟨left⟩) (heap : Heap) (hvalues : ∀ e ∈ t.map.values, e ∈ s.map.values ∨
      ∃ a ∈ done, e ∈ a.written heap) : t.Apart := by
  refine h.settleWritten hq htq (done.filterMap (Action.written heap)) ?_ (fun e he => ?_)
    fun e he => (hvalues e he).imp_right List.mem_filterMap.mpr
  · have hsame : ∀ a : Action, (a.written heap).map (·.handle) = a.handle? := by
      intro a
      cases a <;> rfl
    rw [List.map_filterMap]
    simpa only [hsame] using (List.nodup_append.mp (h.nodup_split hq)).1
  · obtain ⟨a, ha, hae⟩ := List.mem_filterMap.mp he
    refine ⟨a, ha, Action.handle?_of_written hae, fun f hf => ?_⟩
    rw [Action.written_of_updates hf] at hae
    exact Option.some.inj hae

end Apart

end Session

namespace SessionState

/-- All that a session holds fits the types of a catalogue, no instance is held twice, and the
snapshots recall the rows. -/
structure Tidy (g : Gateway σ) (rows : σ → EntityType → List TableRow)
    (X : EntityKey → Snapshot → Prop) (s : SessionState σ) : Prop where
  heap : s.space.heap.Fits g.catalogue
  keys : ∀ e ∈ s.session.map.values, e.key.IsOf (s.space.heap.get e.handle).type
  actions : ∀ a ∈ s.session.queue.actions, a.Fits g.catalogue s.space
  apart : s.session.Apart
  recalls : s.session.Recalls g rows X s.space []

/-- The session is valid, and tidy as long as all mappings that are kept are right. -/
structure Mirroring (g : Gateway σ) (rows : σ → EntityType → List TableRow)
    (X : EntityKey → Snapshot → Prop) (s : SessionState σ) : Prop where
  valid : s.Valid
  tidy : s.space.Maps g → s.Tidy g rows X

/-- The session is open besides. -/
structure Working (g : Gateway σ) (rows : σ → EntityType → List TableRow)
    (X : EntityKey → Snapshot → Prop) (s : SessionState σ) : Prop extends s.Mirroring g rows X where
  isOpen : s.session.closed = false

variable {g : Gateway σ} {rows : σ → EntityType → List TableRow} {X : EntityKey → Snapshot → Prop}
  {s : SessionState σ} {w : Workspace σ} {e : Entry}

theorem Valid.values (hs : s.Valid) (he : e ∈ s.session.map.values) : e.Sound s.space := by
  obtain ⟨p, hp, rfl⟩ := List.mem_map.mp he
  exact hs.entries p hp

theorem Valid.handle_lt (hs : s.Valid) {a : Action} (ha : a ∈ s.session.queue.actions) {l : Handle}
    (hl : a.handle? = some l) : l < s.space.heap.next := by
  have hsound := hs.actions a ha
  cases a with
  | persist k instant => exact Option.some.inj hl ▸ hsound
  | merge f x => exact Option.some.inj hl ▸ Entry.Sound.lt hsound
  | remove f => cases hl

/-- An entity becomes known with an instance that was not shared before. -/
theorem Valid.apart_keep (hs : s.Valid) (h : s.session.Apart) (hnew : s.space.heap.next ≤ e.handle)
    (snapshot : Snapshot) : (s.session.keep e snapshot).Apart := by
  refine h.keep (fun a ha hh => ?_) (fun f hf heq => ?_) snapshot
  · exact Nat.not_lt.mpr hnew (hs.handle_lt ha hh)
  · exact Nat.not_lt.mpr hnew (heq ▸ (hs.values hf).lt)

theorem Valid.apart_queuePersist (hs : s.Valid) (h : s.session.Apart) {l : Handle}
    (hnew : s.space.heap.next ≤ l) :
    Session.Apart { s.session with queue := s.session.queue.add (.persist l false) } := by
  refine h.queue ?_ ?_ ?_
  · simp [Action.handle?]
  · rintro a ha b hb k hk heq
    obtain rfl := List.mem_singleton.mp hb
    obtain rfl := Option.some.inj hk
    exact Nat.not_lt.mpr hnew (hs.handle_lt ha heq)
  · rintro e he b hb heq
    obtain rfl := List.mem_singleton.mp hb
    exact absurd (hs.values he).lt (Nat.not_lt.mpr (Option.some.inj heq ▸ hnew))

/-- Changed entities wait to be written. -/
theorem Valid.apart_queueMerges (hs : s.Valid) (h : s.session.Apart) {dirty : List (Entry × Value)}
    (hunqueued : s.session.Unqueued s.session.map.values dirty) :
    Session.Apart { s.session with
      queue := ⟨s.session.queue.actions ++ dirty.map fun p => .merge p.1 p.2⟩ } := by
  obtain ⟨hsub, hknown, hfree⟩ := hunqueued
  have hmem {p : Entry × Value} (hp : p ∈ dirty) : p.1 ∈ s.session.map.values :=
    hsub.subset (List.mem_map.mpr ⟨p, hp, rfl⟩)
  have hself {p : Entry × Value} (hp : p ∈ dirty) : (p.1.key == p.1.key) = true :=
    Assoc.beq_self_of_contains (hknown _ (List.mem_map.mpr ⟨p, hp, rfl⟩))
  refine h.queue ?_ ?_ ?_
  · have hpair := List.pairwise_map.mp (hs.coherent.values_distinct.sublist hsub)
    have hnodup : (dirty.map fun p => p.1.handle).Nodup := by
      refine List.pairwise_map.mpr (hpair.imp_of_mem fun {p q} hp hq hne heq => ?_)
      have hfalse := hne (hknown _ (List.mem_map.mpr ⟨p, hp, rfl⟩))
        (hknown _ (List.mem_map.mpr ⟨q, hq, rfl⟩))
      rw [h.same _ (hmem hp) _ (hmem hq) heq, hself hq] at hfalse
      cases hfalse
    simpa [List.filterMap_map, Function.comp_def, Action.handle?] using hnodup
  · rintro a ha b hb l hl heq
    obtain ⟨p, hp, rfl⟩ := List.mem_map.mp hb
    obtain rfl := Option.some.inj hl
    have hupdates := h.known _ (hmem hp) a ha heq
    cases a with
    | merge f x =>
      cases hupdates
      have hfalse := hfree _ (List.mem_map.mpr ⟨p, hp, rfl⟩) (.merge p.1 x)
        (List.mem_filter.mpr ⟨ha, rfl⟩) _ rfl
      rw [hself hp] at hfalse
      cases hfalse
    | _ => cases hupdates
  · rintro e he b hb heq
    obtain ⟨p, hp, rfl⟩ := List.mem_map.mp hb
    exact congrArg some (h.same _ (hmem hp) e he (Option.some.inj heq))

/-- A session that was just made has nothing to be tidied. -/
theorem Working.fresh (c : SessionConfig) (hw : w.heap.Fits g.catalogue) :
    Working g rows X ⟨{ config := c }, w⟩ where
  valid := .fresh c w
  tidy _ := ⟨hw, by simp [Assoc.empty, Assoc.values], by simp,
    ⟨by simp, by simp, by simp [Assoc.empty, Assoc.values]⟩,
    fun k e h => by simp [Assoc.find?, Assoc.empty] at h⟩
  isOpen := rfl

/-- Snapshots with `X` may be counted otherwise. -/
theorem Mirroring.exempt {Y : EntityKey → Snapshot → Prop} (hs : s.Mirroring g rows X)
    (h : ∀ k snapshot, s.session.snapshots.find? k = some snapshot → X k snapshot →
      Y k snapshot) : s.Mirroring g rows Y := by
  refine ⟨hs.valid, fun hmaps => ?_⟩
  obtain ⟨hheap, hkeys, hactions, hapart, hrecalls⟩ := hs.tidy hmaps
  refine ⟨hheap, hkeys, hactions, hapart, fun k e hk hks => ?_⟩
  obtain ⟨snapshot, hfind, i, m, ht, hor⟩ := hrecalls k e hk hks
  exact ⟨snapshot, hfind, i, m, ht, hor.imp_left (h k snapshot hfind)⟩

/-- Work on the store that loses no row leaves a session tidy. -/
theorem Mirroring.work (hs : s.Mirroring g rows X) (hg : s.space.Grows w)
    (hheap : s.space.heap.Fits g.catalogue → w.heap.Fits g.catalogue)
    (hspares : w.Maps g → g.Spares rows [] s.space.store w.store) :
    Mirroring g rows X { s with space := w } := by
  refine ⟨hs.valid.work hg, fun hmaps => ?_⟩
  have htidy := hs.tidy (hmaps.of_grows hg)
  refine ⟨hheap htidy.heap, fun e he => ?_, fun a ha => (htidy.actions a ha).mono hg, htidy.apart,
    htidy.recalls.mono hg (hspares hmaps)⟩
  rw [hg.types _ (hs.valid.values he).lt]
  exact htidy.keys e he

/-- An UPDATE that expects the version of the snapshot fits. -/
theorem Tidy.fits_merge (hc : g.catalogue.Formed) (htidy : s.Tidy g rows X) (hs : s.Valid)
    (hmaps : s.space.Maps g) (he : e ∈ s.session.map.values)
    (hk : s.session.map.contains e.key = true) {x : Value} (hguarded : s.Guarded e x) :
    (Action.merge e x).Fits g.catalogue s.space := by
  obtain ⟨t, snapshot, m, ht, hfind, hm, rfl⟩ := hguarded
  have hsound := hs.values he
  obtain ⟨snapshot', hfind', i, m', htaken, -⟩ :=
    htidy.recalls _ e (hs.coherent.find?_of_mem_values he hk) (by simp)
  obtain rfl := Option.some.inj (hfind.symm.trans hfind')
  have hknown := (htidy.heap _ hsound.lt).1
  have htype : i.type = (s.space.heap.get e.handle).type :=
    hc.paths _ htaken.known _ hknown (Option.some.inj (htaken.path.symm.trans hsound.path))
  have hpath : t.path = i.type.path := by
    have hkey : e.key.path? = some t.path := by rw [EntityKey.path?, ht]; rfl
    exact Option.some.inj (hkey.symm.trans htaken.path)
  obtain rfl : m = m' := by
    rw [hpath, htaken.resolved] at hm
    exact (Option.some.inj hm).symm
  refine ⟨hsound.lt, htidy.keys e he, fun f a hversion hf => .inr ?_⟩
  rw [← htype] at hversion hf
  rw [htaken.eq]
  exact Snapshot.shows_version (hmaps _ htaken.known _ htaken.resolved).checked
    (hc.types _ htaken.known) htaken.fits hversion hf

namespace Working

variable (hs : s.Working g rows X)

include hs

theorem work (hg : s.space.Grows w)
    (hheap : s.space.heap.Fits g.catalogue → w.heap.Fits g.catalogue)
    (hspares : w.Maps g → g.Spares rows [] s.space.store w.store) :
    Working g rows X { s with space := w } :=
  ⟨hs.toMirroring.work hg hheap hspares, hs.isOpen⟩

/-- Work that changes neither instances nor rows. -/
theorem look (hg : s.space.Grows w) (hheap : w.heap = s.space.heap)
    (hrows : rows w.store = rows s.space.store) : Working g rows X { s with space := w } :=
  hs.work hg (fun h => hheap ▸ h) fun _ => .of_eq hrows

theorem note (level : Level) (message : String) :
    Working g rows X { s with space := s.space.note level message } :=
  hs.look (Session.grows_note _ _ _) rfl rfl

/-- A new instance is shared. -/
theorem share {i : Instance} (ht : i.type ∈ g.catalogue) (hi : i.Fits) :
    Working g rows X { s with space := { s.space with heap := s.space.heap.push i } } :=
  hs.work (.push _ _) (·.push ht hi) fun _ => .of_eq rfl

/-- An entity becomes known with an instance that was not shared before, and with a snapshot that
recalls its row. -/
theorem adopt (hg : s.space.Grows w) (he : e.Sound w) (hnew : s.space.heap.next ≤ e.handle)
    {snapshot : Snapshot} (h : w.Maps g → s.Tidy g rows X → w.heap.Fits g.catalogue ∧
      g.Spares rows [] s.space.store w.store ∧ e.key.IsOf (w.heap.get e.handle).type ∧
      ∀ k, (e.key == k) = true → snapshot.Recalls g rows X w k) :
    Working g rows X ⟨s.session.keep e snapshot, w⟩ := by
  refine ⟨⟨hs.valid.keep hs.isOpen hg he snapshot, fun hmaps => ?_⟩, hs.isOpen⟩
  have htidy := hs.tidy (hmaps.of_grows hg)
  obtain ⟨hheap, hspares, hkey, hrecalls⟩ := h hmaps htidy
  refine ⟨hheap, fun f hf => ?_, fun a ha => (htidy.actions a ha).mono hg, ?_,
    (htidy.recalls.mono hg hspares).keep (by simp) hrecalls⟩
  · rcases Session.mem_values_keep hf with hf | rfl
    · rw [hg.types _ (hs.valid.values hf).lt]
      exact htidy.keys f hf
    · exact hkey
  · exact hs.valid.apart_keep htidy.apart hnew snapshot

/-- Actions that fit are queued. -/
theorem queue {as : List Action} (hvalid : Valid { s with session := { s.session with
      queue := ⟨s.session.queue.actions ++ as⟩ } })
    (h : s.space.Maps g → s.Tidy g rows X → (∀ a ∈ as, a.Fits g.catalogue s.space) ∧
      Session.Apart { s.session with queue := ⟨s.session.queue.actions ++ as⟩ }) :
    Working g rows X { s with session := { s.session with
      queue := ⟨s.session.queue.actions ++ as⟩ } } := by
  refine ⟨⟨hvalid, fun hmaps => ?_⟩, hs.isOpen⟩
  have htidy := hs.tidy hmaps
  obtain ⟨hfits, hapart⟩ := h hmaps htidy
  exact ⟨htidy.heap, htidy.keys, List.forall_mem_append.mpr ⟨htidy.actions, hfits⟩, hapart,
    htidy.recalls⟩

/-- A new instance waits to be added. -/
theorem queuePersist {h : Handle} (hs' : Working g rows X { s with space := w })
    (hnew : s.space.heap.next ≤ h) (hh : h < w.heap.next) :
    Working g rows X ⟨{ s.session with queue := s.session.queue.add (.persist h false) }, w⟩ := by
  refine hs'.queue ((Move.queuePersist hs'.isOpen hh).valid hs'.valid) fun _ htidy => ?_
  exact ⟨by simpa [Action.Fits] using hh, hs.valid.apart_queuePersist htidy.apart hnew⟩

/-- A known entity waits to be removed. -/
theorem queueRemove (he : e ∈ s.session.map.values) (hvalid : Valid { s with session :=
      { s.session with queue := s.session.queue.add (.remove e) } }) :
    Working g rows X { s with session :=
      { s.session with queue := s.session.queue.add (.remove e) } } := by
  refine hs.queue hvalid fun _ htidy => ⟨?_, htidy.apart.queueRemove e⟩
  have hknown := (htidy.heap _ (hs.valid.values he).lt).1
  simpa [Action.Fits] using ⟨_, hknown, htidy.keys e he⟩

variable (hc : g.catalogue.Formed)

include hc

/-- Changed entities wait to be written. -/
theorem queueMerges {dirty : List (Entry × Value)}
    (hunqueued : s.session.Unqueued s.session.map.values dirty)
    (hguarded : ∀ p ∈ dirty, s.Guarded p.1 p.2)
    (hvalid : Valid { s with session := { s.session with
      queue := ⟨s.session.queue.actions ++ dirty.map fun p => .merge p.1 p.2⟩ } }) :
    Working g rows X { s with session := { s.session with
      queue := ⟨s.session.queue.actions ++ dirty.map fun p => .merge p.1 p.2⟩ } } := by
  refine hs.queue hvalid fun hmaps htidy =>
    ⟨fun a ha => ?_, hs.valid.apart_queueMerges htidy.apart hunqueued⟩
  obtain ⟨p, hp, rfl⟩ := List.mem_map.mp ha
  have hmem : p.1 ∈ dirty.map (·.1) := List.mem_map.mpr ⟨p, hp, rfl⟩
  exact htidy.fits_merge hc hs.valid hmaps (hunqueued.sublist.subset hmem)
    (hunqueued.known _ hmem) (hguarded p hp)

/-- Some of the queued actions were carried out, and note was taken of them. -/
theorem settle (hg : s.space.Grows w) {done left : List Action}
    (hq : s.session.queue.ordered = done ++ left) {t : Session} (hvalid : Valid ⟨t, w⟩)
    (ht : t.closed = false) (htq : t.queue = ⟨left⟩)
    (h : w.Maps g → s.Tidy g rows X → w.heap.Fits g.catalogue ∧
      (∀ e ∈ t.map.values, e ∈ s.session.map.values ∨
        ∃ a ∈ done, e ∈ a.written w.heap ∧ e.Ready w) ∧ t.Recalls g rows X w []) :
    Working g rows X ⟨t, w⟩ := by
  refine ⟨⟨hvalid, fun hmaps => ?_⟩, ht⟩
  have htidy := hs.tidy (hmaps.of_grows hg)
  obtain ⟨hheap, hvalues, hrecalls⟩ := h hmaps htidy
  refine ⟨hheap, fun e he => ?_, fun a ha => ?_,
    htidy.apart.settle hq htq w.heap fun e he => ?_, hrecalls⟩
  · rcases hvalues e he with he | ⟨a, ha, hae, hready⟩
    · rw [hg.types _ (hs.valid.values he).lt]
      exact htidy.keys e he
    · cases a with
      | persist l instant =>
        cases hae
        obtain ⟨hknown, hfits⟩ := hheap _ hready.lt
        obtain ⟨m, hm⟩ := hready.resolved
        exact Instance.isOf_key (hmaps _ hknown m hm) (hc.types _ hknown) hfits
      | merge f x =>
        cases hae
        obtain ⟨hlt, hkey, -⟩ := htidy.actions _ (ActionQueue.mem_of_mem_done hq ha)
        rw [hg.types _ hlt]
        exact hkey
      | remove f => cases hae
  · rw [show _ = _ from htq] at ha
    exact (htidy.actions a (ActionQueue.mem_of_mem_left hq ha)).mono hg
  · refine (hvalues e he).imp_right ?_
    rintro ⟨a, ha, hae, -⟩
    exact ⟨a, ha, hae⟩

end Working

end SessionState

end EntityMapper
