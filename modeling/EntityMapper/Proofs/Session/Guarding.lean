import EntityMapper.Proofs.Session.Finding
import EntityMapper.Proofs.Session.Steps
/-! Guarding: a session that only searches, merges, looks for changes and flushes waits with UPDATEs
that are guarded by the versions in its snapshots. -/

namespace EntityMapper

variable {σ : Type}

open Session Operation

namespace Session

/-- Keeping entries leaves the snapshots of all other keys. -/
theorem Keeps.snapshot_of_not_beq {s t : Session} {es : List Entry} (h : s.Keeps es t)
    {k : EntityKey} (hk : ∀ e ∈ es, (e.key == k) = false) :
    t.snapshots.find? k = s.snapshots.find? k := by
  induction h with
  | nil s => rfl
  | cons e snapshot _ ih =>
    rw [ih fun f hf => hk f (List.mem_cons_of_mem e hf)]
    exact Assoc.find?_insert_of_not_beq _ (hk e List.mem_cons_self) snapshot

/-- A snapshot that is there stays when an entity becomes known by a key that was not known. -/
theorem snapshot_keep {s : Session} (hs : s.map.keys = s.snapshots.keys) {e : Entry}
    (hnew : s.map.contains e.key = false) (taken : Snapshot) {k : EntityKey} {snapshot : Snapshot}
    (h : s.snapshots.find? k = some snapshot) :
    (s.keep e taken).snapshots.find? k = some snapshot := by
  have hne : (e.key == k) = false := by
    refine Bool.eq_false_iff.mpr fun hbeq => ?_
    have hknown : s.snapshots.contains k = true := by simp [Assoc.contains, h]
    have hsame := Assoc.contains_of_beq (BEq.symm hbeq) hknown
    rw [← Assoc.contains_congr hs, hnew] at hsame
    cases hsame
  exact (Assoc.find?_insert_of_not_beq _ hne taken).trans h

end Session

namespace SessionState

/-- All that waits in an open session are UPDATEs that expect the version of their snapshots. -/
structure Waiting (s : SessionState σ) : Prop where
  valid : s.Valid
  isOpen : s.session.closed = false
  guarded : ∀ a ∈ s.session.queue.actions, ∃ e x, a = .merge e x ∧ s.Guarded e x

variable {s t : SessionState σ} {e : Entry} {x : Value}

namespace Waiting

theorem fresh (c : SessionConfig) (w : Workspace σ) : Waiting ⟨{ config := c }, w⟩ :=
  ⟨.fresh c w, rfl, by simp⟩

variable (hs : s.Waiting)

include hs

theorem work {w : Workspace σ} (hg : s.space.Grows w) : Waiting { s with space := w } :=
  ⟨hs.valid.work hg, hs.isOpen, fun a ha => by
    obtain ⟨e, x, hae, hguarded⟩ := hs.guarded a ha
    exact ⟨e, x, hae, hguarded.mono hg fun _ h => h⟩⟩

/-- An entity that becomes known changes nothing for what waits. -/
theorem adopt {w : Workspace σ} (hg : s.space.Grows w) (he : e.Sound w)
    (hnew : s.session.map.contains e.key = false) (taken : Snapshot) :
    Waiting ⟨s.session.keep e taken, w⟩ :=
  ⟨hs.valid.keep hs.isOpen hg he taken, hs.isOpen, fun a ha => by
    obtain ⟨e, x, hae, hguarded⟩ := hs.guarded a ha
    exact ⟨e, x, hae, hguarded.mono hg fun _ h =>
      snapshot_keep hs.valid.coherent.sameKeys hnew taken h⟩⟩

/-- All that waits is performed in the order in which it came. -/
theorem ordered_eq : s.session.queue.ordered = s.session.queue.ofKind .merge := by
  have hmerge : ∀ a ∈ s.session.queue.actions, a.kind = .merge := by
    intro a ha
    obtain ⟨e, x, rfl, -⟩ := hs.guarded a ha
    rfl
  have hnone : ∀ kind, kind ≠ .merge → s.session.queue.ofKind kind = [] := by
    intro kind hkind
    refine List.filter_eq_nil_iff.mpr fun a ha => ?_
    simp [hmerge a ha, hkind.symm]
  simp [ActionQueue.ordered, hnone .persist (by decide), hnone .remove (by decide)]

/-- The UPDATEs that wait are for different keys. -/
theorem pairwise_ordered : s.session.queue.ordered.Pairwise fun a b =>
    ∀ k ∈ a.key?, ∀ l ∈ b.key?, (k == l) = false := by
  rw [hs.ordered_eq]
  exact hs.valid.coherent.single .merge

end Waiting

end SessionState

open SessionState

namespace Session

variable (g : Gateway σ) {s : SessionState σ}

/-- What holds of a session that goes on waiting while nothing is written. -/
def Idle (w : Workspace σ) (s : SessionState σ) : Prop :=
  s.Waiting ∧ w.Grows s.space ∧ g.connection.Queried (fun _ => True) w.store s.space.store

/-- The type of an instance is resolved. -/
def IsResolved (i : Instance) (s : SessionState σ) : Prop :=
  ∃ m, s.space.journal.registry.find? i.type.path = some m

/-- What is resolved can be given out in any state. -/
theorem keeper_resolved : Keeper g (fun _ => True) (fun _ => True) IsResolved where
  select := Command.allowsSelect_any
  read _ _ _ _ := trivial
  manage s i _ hi := by
    obtain ⟨m, hm⟩ := hi
    cases hh : s.session.map.handle? s.space.heap i.type (.ofInstance i) with
    | some h => exact ⟨h, s, manage_known g hh, trivial, fun _ h => h⟩
    | none => exact ⟨_, _, manage_unknown g hh hm, trivial, fun _ h => h⟩

/-- Searches keep what holds of valid sessions, if reading keeps it and so does a new instance that
becomes known with a snapshot of it. -/
theorem keeper_of_adopt {ok : Command → Prop} {P : SessionState σ → Prop}
    (hselect : Command.AllowsSelect ok) (hvalid : ∀ s, P s → s.Valid)
    (hread : ∀ s w, P s → s.space.Searched g.connection ok w → P { s with space := w })
    (hadopt : ∀ s i m, P s → s.space.journal.registry.find? i.type.path = some m →
      s.session.map.contains (.ofInstance i) = false →
      P ⟨s.session.keep ⟨.ofInstance i, s.space.heap.next⟩ (.capture m i),
        { s.space with heap := s.space.heap.push i }⟩) : Keeper g ok P IsResolved where
  select := hselect
  read := hread
  manage s i hs hi := by
    obtain ⟨m, hm⟩ := hi
    rcases manage_cases g (hvalid s hs) hm with ⟨e, -, hrun⟩ | ⟨hnew, hrun⟩
    · exact ⟨_, s, hrun, hs, fun _ h => h⟩
    · exact ⟨_, _, hrun, hadopt s i m hs hm hnew, fun _ h => h⟩

theorem keeper_idle (w : Workspace σ) : Keeper g (fun _ => True) (Idle g w) IsResolved := by
  refine keeper_of_adopt g Command.allowsSelect_any (fun _ hs => hs.1.valid)
    (fun s v hs hv => ⟨hs.1.work hv.grows, hs.2.1.trans hv.grows, hs.2.2.trans hv.store⟩)
    fun s i m hs _ hnew => ?_
  obtain ⟨hw, hg, hq⟩ := hs
  have hpush := Workspace.Grows.push s.space i
  exact ⟨hw.adopt hpush (.push _ i) hnew _, hg.trans hpush, hq⟩

/-- The types of all that is loaded are resolved. -/
theorem loader_resolved (P : SessionState σ → Prop) :
    Loader g (fun _ => True) (fun _ _ => True) P IsResolved := by
  have hresolved {t : EntityType} {x : Work σ (List Instance)} (hx : Gateway.Loads t x) :
      Loaded P IsResolved x := by
    intro s _ is v hv i hi
    obtain ⟨-, ⟨m, hm⟩, htype⟩ := (hx s.space).ok (.refl _) hv
    exact ⟨m, by rw [htype i hi]; exact hm⟩
  exact ⟨fun t id _ => hresolved (g.loads_load t id),
    fun t field v _ => hresolved (g.loads_findAllBy t field v),
    fun t sql params _ => hresolved (g.loads_nativeAll t sql params)⟩

theorem meets_searched_idle (w : Workspace σ) {c : SessionCall} {t : EntityType}
    (hc : c.searched? = some t) : Meets (Idle g w) (c.run g) (fun _ => Idle g w) (Idle g w) :=
  SessionCall.meets_searched (keeper_idle g w) (loader_resolved g _) (fun _ _ _ => trivial)
    (SessionCall.searches_of_searched? g hc)

theorem meets_merge_idle (w : Workspace σ) (i : Instance) :
    Meets (Idle g w) (merge g i) (fun _ => Idle g w) (Idle g w) := by
  refine (keeper_idle g w).meets_merge i fun s v loaded m ⟨hw, hg, hq⟩ _ hh _ hread _ => ?_
  have hpush := hread.grows.trans (.push v i)
  have hnew := not_contains_of_handle? hw.valid (k := .ofInstance i) rfl hh
  exact ⟨hw.adopt hpush (.push v i) hnew _, hg.trans hpush, hq.trans hread.store⟩

/-- A session that looks for changes goes on waiting, and the store is left alone. -/
theorem dirtyCheck_waiting (hs : s.Waiting) :
    (dirtyCheck g s).2.Waiting ∧ s.space.Grows (dirtyCheck g s).2.space ∧
      (dirtyCheck g s).2.space.store = s.space.store := by
  obtain ⟨hmoves, hopen⟩ := dirtyCheck_moves g hs.valid hs.isOpen
  have hvalid := hmoves.valid hs.valid
  obtain ⟨w, hg, -, hstore, ⟨e, hrun⟩ | ⟨dirty, hrun, -, hguarded⟩⟩ :=
    dirtyCheck_ends g hs.valid hs.isOpen
  · rw [hrun]
    exact ⟨hs.work hg, hg, hstore⟩
  · rw [hrun] at hvalid hopen ⊢
    refine ⟨⟨hvalid, hopen, fun a ha => ?_⟩, hg, hstore⟩
    rcases List.mem_append.mp ha with ha | ha
    · obtain ⟨e, x, hae, hguard⟩ := hs.guarded a ha
      exact ⟨e, x, hae, hguard.mono hg fun _ h => h⟩
    · obtain ⟨p, hp, rfl⟩ := List.mem_map.mp ha
      exact ⟨p.1, p.2, rfl, hguarded p hp⟩

end Session

namespace SessionState

/-- A flush of the session is under way: some of the queued actions were carried out and recorded,
and the others are left. -/
def Draining (s : SessionState σ) (d : Drained) : Prop :=
  ∃ done, s.session.queue.ordered = done ++ d.left ∧ Outcome.Records {} done s.space d.outcome

namespace Draining

variable {s : SessionState σ} {d : Drained}

theorem start (s : SessionState σ) : s.Draining ⟨.ok (), s.session.queue.ordered, {}⟩ :=
  ⟨[], rfl, .nil _ _⟩

theorem work (hd : s.Draining d) {w : Workspace σ} (hg : s.space.Grows w) :
    Draining { s with space := w } d := by
  obtain ⟨done, hq, hrecs⟩ := hd
  exact ⟨done, hq, by simpa using hrecs.append hg (.nil _ _)⟩

theorem mem_left (hd : s.Draining d) {a : Action} (ha : a ∈ d.left) :
    a ∈ s.session.queue.actions := by
  obtain ⟨done, hq, -⟩ := hd
  exact ActionQueue.mem_of_mem_left hq ha

end Draining

end SessionState

namespace Session

variable (g : Gateway σ) {s : SessionState σ} {d : Drained}

/-- A drain stays under way with every step. -/
theorem draining_advance (hs : s.Valid) (hd : s.Draining d) :
    s.space.Grows (g.advance d s.space).2 ∧
      Draining { s with space := (g.advance d s.space).2 } (g.advance d s.space).1 := by
  cases hr : d.result with
  | error e =>
    rw [g.advance_of_stopped hr]
    exact ⟨.refl _, hd⟩
  | ok u =>
    cases hl : d.left with
    | nil =>
      have hsame : g.advance d s.space = (d, s.space) := by simp [Gateway.advance, hr, hl]
      rw [hsame]
      exact ⟨.refl _, hd⟩
    | cons a rest =>
      have hg := g.steady_perform a d.outcome s.space
      have hrec := g.perform_records
        (hs.actions a (hd.mem_left (hl ▸ List.mem_cons_self))) d.outcome
      obtain ⟨done, hq, hrecs⟩ := hd
      rw [hl] at hq
      rcases hp : g.perform a d.outcome s.space with ⟨⟨e | u, written⟩, v⟩ <;> rw [hp] at hg hrec
      · rw [g.advance_of_error hp hr hl]
        have hnote := grows_note v .warn "Action failed; remaining actions stay queued"
        refine ⟨hg.trans hnote, ?_⟩
        rcases hrec with ⟨-, hsame⟩ | hrec
        · obtain rfl : written = d.outcome := hsame
          exact ⟨done, by simp [hq], by simpa using hrecs.append (hg.trans hnote) (.nil _ _)⟩
        · have hsize : ¬ written.size = d.outcome.size := hrec.size_singleton
          refine ⟨done ++ [a], by simp [hq, hsize], ?_⟩
          simpa using (hrecs.append hg hrec).append hnote (.nil written _)
      · rw [g.advance_of_ok hp hr hl]
        rcases hrec with ⟨⟨e, he⟩, -⟩ | hrec
        · cases he
        · exact ⟨hg, done ++ [a], by simp [hq], hrecs.append hg hrec⟩

/-- What the end of a flush of a waiting session does, with its answer and the state after it. -/
structure Settles (s : SessionState σ) (d : Drained) (run : Except Error Unit × SessionState σ) :
    Prop where
  waiting : run.2.Waiting
  grows : s.space.Grows run.2.space
  store : run.2.space.store = s.space.store
  answer : run.1 = d.result
  /-- The snapshots of what is left stay. -/
  kept : ∀ a ∈ d.left, ∀ k ∈ a.key?, run.2.session.snapshots.find? k = s.session.snapshots.find? k

/-- The session that has taken note of UPDATEs goes on waiting, with the snapshots of all that is
left. -/
theorem reconcile_waiting (hs : s.Waiting) (hd : s.Draining d) :
    ∃ t, reconcile g d.outcome { s with session := { s.session with queue := ⟨d.left⟩ } } =
        (.ok (), ⟨t, s.space⟩) ∧ Waiting ⟨t, s.space⟩ ∧
      ∀ a ∈ d.left, ∀ k ∈ a.key?, t.snapshots.find? k = s.session.snapshots.find? k := by
  have hleft := fun a => hd.mem_left (a := a)
  obtain ⟨done, hq, hrecs⟩ := hd
  obtain ⟨es, t, hinserts, hready, -, ht, hrun⟩ := reconcile_records g
    (s := { s with session := { s.session with queue := ⟨d.left⟩ } }) hrecs
  have hmove : Move s _ ⟨t.forgetAll (done.filterMap Action.deletes), s.space⟩ :=
    .settle hs.isOpen (.refl _) hq hinserts (fun e he => (hready e he).toSound) ht
  -- All that was carried out are UPDATEs, so nothing was added or removed.
  have hmerges : ∀ a ∈ done, ∃ e x, a = .merge e x := by
    intro a ha
    obtain ⟨e, x, rfl, -⟩ := hs.guarded a (ActionQueue.mem_of_mem_done hq ha)
    exact ⟨e, x, rfl⟩
  have hnone {β : Type} {f : Action → Option β} (hf : ∀ e x, f (.merge e x) = none) :
      done.filterMap f = [] := by
    refine List.filterMap_eq_nil_iff.mpr fun a ha => ?_
    obtain ⟨e, x, rfl⟩ := hmerges a ha
    exact hf e x
  rw [hnone (f := Action.inserts) fun _ _ => rfl] at hinserts
  rw [List.map_eq_nil_iff.mp hinserts, List.nil_append] at ht
  rw [hnone (f := Action.deletes) fun _ _ => rfl] at hrun hmove
  have hsame : ∀ a ∈ d.left, ∀ k ∈ a.key?,
      t.snapshots.find? k = s.session.snapshots.find? k := by
    intro a ha k hk
    refine ht.snapshot_of_not_beq fun e he => ?_
    obtain ⟨b, hb, hbe⟩ := List.mem_filterMap.mp he
    obtain ⟨f, x, rfl⟩ := hmerges b hb
    cases hbe
    have hpair := hs.pairwise_ordered
    rw [hq, List.pairwise_append] at hpair
    exact hpair.2.2 _ hb a ha _ rfl k hk
  obtain ⟨htq, htc⟩ := ht.frame
  refine ⟨t, hrun, ⟨hmove.valid hs.valid, htc.trans hs.isOpen, fun a ha => ?_⟩, hsame⟩
  rw [show _ = _ from htq] at ha
  obtain ⟨e, x, rfl, hguarded⟩ := hs.guarded a (hleft a ha)
  exact ⟨e, x, rfl, hguarded.mono (.refl _) fun snapshot h => (hsame _ ha _ rfl).trans h⟩

theorem settles_of_waiting (hs : s.Waiting) (hd : s.Draining d) :
    Settles s d (settle g d s) := by
  obtain ⟨t, hrun, hwaiting, hsame⟩ := reconcile_waiting g hs hd
  cases hr : d.result with
  | error e =>
    have hend : settle g d s = (.error e, ⟨t, s.space⟩) := by simp [settle, hrun, hr]
    rw [hend]
    exact ⟨hwaiting, .refl _, rfl, hr.symm, hsame⟩
  | ok u =>
    have hend : settle g d s = (.ok (), ⟨t, s.space.note .info "Flushed session"⟩) := by
      simp [settle, hrun, hr]
    have hnote := grows_note s.space .info "Flushed session"
    rw [hend]
    exact ⟨hwaiting.work hnote, hnote, rfl, hr.symm, hsame⟩

end Session

end EntityMapper
