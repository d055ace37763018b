import EntityMapper.Proofs.Query.Kinds
import EntityMapper.Proofs.Session.Differing
import EntityMapper.Proofs.Session.Enumerating
/-! Reading runs: a session that is asked for nothing but what it finds, and is closed then. -/

namespace EntityMapper

variable {σ : Type}

open Session Operation SessionState

/-- The command is a SELECT. -/
def Command.IsSelect (c : Command) : Prop :=
  c.statement.kind? = some .select

theorem Command.allowsSelect_isSelect : AllowsSelect IsSelect :=
  fun table column _ => Statement.kind?_select table column

/-- A stored field of the instance holds a NaN, or a document with one. -/
def Instance.storesNaN (m : Metadata) (i : Instance) : Bool :=
  m.persistent.any fun f => ((i.fieldValue f.field).getD .null).hasNaN

/-- An instance is as the snapshot says that was just taken of it, unless it holds a NaN. -/
theorem Snapshot.isStale_capture (m : Metadata) (i : Instance) :
    (capture m i).isStale m i = i.storesNaN m := by
  unfold isStale equal capture Instance.storesNaN
  induction m.persistent with
  | nil => rfl
  | cons f fs ih =>
    rw [List.map_cons, List.cons_beq_cons, Bool.not_and, ih, List.any_cons]
    congr 1
    exact (congrArg Bool.not (Value.equal_self_eq _)).trans (Bool.not_not _)

namespace SessionCall

/-- A search that sends SELECTs only: by a field, by a SELECT of the caller, or by a query that is a
SELECT. -/
def Reads : SessionCall → Prop
  | findById _ _ | findBy _ _ _ | findAllBy _ _ _ => True
  | nativeBy _ sql _ | nativeAll _ sql _ => (Statement.native sql).kind? = some .select
  | queryBy _ q | queryAll _ q => q.kind? = some .select
  | _ => False

theorem Reads.searches (g : Gateway σ) {c : SessionCall} (hc : c.Reads) :
    c.Searches g (fun _ => True) fun _ command => command.IsSelect := by
  cases c with
  | queryBy t q | queryAll t q =>
    intro strict j c hcompiled
    exact EntityQuery.kind?_of_compile (Prod.ext hcompiled rfl) hc
  | findById | findBy | findAllBy => trivial
  | nativeBy | nativeAll => exact hc
  | _ => exact hc.elim

end SessionCall

/-- A run in which the caller only reads: it searches, merges instances of known entities, and looks
at what it was given, which may load lists. -/
inductive ReadingRun (g : Gateway σ) (start : SessionState σ) : SessionState σ → Prop
  | start : ReadingRun g start start
  | search {s} (h : ReadingRun g start s) {c : SessionCall} (hc : c.Reads) :
    ReadingRun g start (c.run g s).2
  | merge {s} (h : ReadingRun g start s) {i : Instance} {handle : Handle}
    (hit : s.session.map.handle? s.space.heap i.type (.ofInstance i) = some handle) :
    ReadingRun g start ((SessionCall.merge i).run g s).2
  | look {s w} (h : ReadingRun g start s)
    (hread : s.space.Searched g.connection Command.IsSelect w) :
    ReadingRun g start { s with space := w }

namespace SessionState

variable {w : Workspace σ} {s : SessionState σ} {e : Entry}

/-- Whether a stored field of a known entity holds a NaN, by the mapping of its type. -/
def holdsNaN (s : SessionState σ) (e : Entry) : Bool :=
  (s.space.journal.registry.find? (s.space.heap.get e.handle).type.path).any fun m =>
    (s.space.heap.get e.handle).storesNaN m

/-- Only SELECTs were sent since a workspace, nothing waits, and all known entities hold what their
snapshots were taken of. -/
structure Unwritten (w : Workspace σ) (s : SessionState σ) : Prop extends s.Open where
  idle : s.session.queue.actions = []
  told : ∃ xs, s.space.transcript = w.transcript ++ xs ∧ ∀ x ∈ xs, x.Queries Command.IsSelect
  taken : ∀ e ∈ s.session.map.values, ∀ snapshot,
    s.session.snapshots.find? e.key = some snapshot → ∃ m,
      s.space.journal.registry.find? (s.space.heap.get e.handle).type.path = some m ∧
        snapshot = .capture m (s.space.heap.get e.handle)

namespace Unwritten

theorem fresh (c : SessionConfig) (w : Workspace σ) : Unwritten w ⟨{ config := c }, w⟩ where
  toOpen := .fresh c w
  idle := rfl
  told := ⟨[], (List.append_nil _).symm, by simp⟩
  taken := by simp [Assoc.empty, Assoc.values]

theorem look {g : Gateway σ} {v : Workspace σ} (hs : s.Unwritten w)
    (hread : s.space.Searched g.connection Command.IsSelect v) :
    Unwritten w { s with space := v } where
  toOpen := hs.toOpen.work hread.grows
  idle := hs.idle
  told := by
    obtain ⟨xs, hxs, hall⟩ := hs.told
    obtain ⟨ys, hys, hall'⟩ := hread.told
    exact ⟨xs ++ ys, by rw [hys, hxs, List.append_assoc],
      List.forall_mem_append.mpr ⟨hall, hall'⟩⟩
  taken e he snapshot hsnapshot := by
    obtain ⟨m, hm, htaken⟩ := hs.taken e he snapshot hsnapshot
    exact ⟨m, by rw [hread.heap]; exact hread.journal _ _ hm, by rw [hread.heap]; exact htaken⟩

/-- An instance becomes known with a snapshot of it. -/
theorem adopt (hs : s.Unwritten w) {i : Instance} {m : Metadata}
    (hm : s.space.journal.registry.find? i.type.path = some m)
    (hnew : s.session.map.contains (.ofInstance i) = false) :
    Unwritten w ⟨s.session.keep ⟨.ofInstance i, s.space.heap.next⟩ (.capture m i),
      { s.space with heap := s.space.heap.push i }⟩ where
  toOpen := hs.toOpen.adopt (.push _ i) (.push _ i) (Nat.le_refl _) (.capture rfl hm i)
  idle := hs.idle
  told := hs.told
  taken e he snapshot hsnapshot := by
    have hvalid := hs.valid
    obtain ⟨p, hp, rfl⟩ := List.mem_map.mp he
    by_cases hbeq : (EntityKey.ofInstance i == p.2.key) = true
    · -- The instance is the new one: its key would be known otherwise.
      have hfound := (Assoc.find?_insert_of_beq _ hbeq _).symm.trans hsnapshot
      obtain rfl := Option.some.inj hfound
      rcases Assoc.mem_insert hp with hold | ⟨hentry, -⟩
      · have hknown := hvalid.coherent.contains_of_beq_self (List.mem_map.mpr ⟨p, hold, rfl⟩)
          (BEq.trans (BEq.symm hbeq) hbeq)
        rw [Assoc.contains_of_beq (BEq.symm hbeq) hknown] at hnew
        cases hnew
      · rw [hentry]
        exact ⟨m, by rw [Heap.get_push_self]; exact hm, by rw [Heap.get_push_self]⟩
    · have hfound := (Assoc.find?_insert_of_not_beq _ (Bool.eq_false_iff.mpr hbeq) _).symm.trans
        hsnapshot
      rcases Assoc.mem_insert hp with hold | ⟨hentry, -⟩
      · have hold' : p.2 ∈ s.session.map.values := List.mem_map.mpr ⟨p, hold, rfl⟩
        have hne := Nat.ne_of_lt (hvalid.values hold').lt
        obtain ⟨m', hm', htaken⟩ := hs.taken p.2 hold' snapshot hfound
        exact ⟨m', by rw [Heap.get_push_of_ne _ _ hne]; exact hm',
          by rw [Heap.get_push_of_ne _ _ hne]; exact htaken⟩
      · rw [hentry] at hfound
        rw [hvalid.coherent.contains_iff_snapshot.mpr ⟨snapshot, hfound⟩] at hnew
        cases hnew

/-- What asks for an UPDATE is what holds a NaN, among the entities that their keys find. -/
theorem change?_isSome_iff (hs : s.Unwritten w) (he : e ∈ s.session.map.values) :
    (s.change? e).isSome = true ↔ (e.key == e.key) = true ∧ s.holdsNaN e = true := by
  rw [holdsNaN, Option.any_eq_true]
  constructor
  · intro h
    obtain ⟨p, hp⟩ := Option.isSome_iff_exists.mp h
    obtain ⟨snapshot, m, hsnapshot, -, hm, hstale, -⟩ := change?_eq_some_iff.mp hp
    obtain ⟨m', hm', rfl⟩ := hs.taken e he snapshot hsnapshot
    obtain rfl := Option.some.inj (hm.symm.trans hm')
    rw [Snapshot.isStale_capture] at hstale
    have hknown : s.session.snapshots.contains e.key = true := by simp [Assoc.contains, hsnapshot]
    exact ⟨Assoc.beq_self_of_contains hknown, m, hm, hstale⟩
  · rintro ⟨hself, m, hm, hnan⟩
    obtain ⟨snapshot, hsnapshot⟩ := hs.valid.coherent.contains_iff_snapshot.mp
      (hs.valid.coherent.contains_of_beq_self he hself)
    obtain ⟨m', hm', rfl⟩ := hs.taken e he snapshot hsnapshot
    obtain rfl := Option.some.inj (hm.symm.trans hm')
    have hpending : (s.session.queue.isPending .merge e.key ||
        s.session.queue.isPending .remove e.key) = false := by
      simp [ActionQueue.isPending, ActionQueue.ofKind, hs.idle]
    rw [Option.isSome_iff_exists]
    exact ⟨_, change?_eq_some_iff.mpr
      ⟨_, m, hsnapshot, hpending, hm, by rw [Snapshot.isStale_capture]; exact hnan, rfl⟩⟩

end Unwritten

end SessionState

namespace Session

variable (g : Gateway σ) {w : Workspace σ} {s : SessionState σ}

theorem keeper_unwritten (w : Workspace σ) :
    Keeper g Command.IsSelect (Unwritten w) IsResolved :=
  keeper_of_adopt g Command.allowsSelect_isSelect (fun _ hs => hs.valid)
    (fun _ _ hs hread => hs.look hread) fun _ _ _ hs hm hnew => hs.adopt hm hnew

theorem loader_select (P : SessionState σ → Prop) :
    Loader g (fun _ => True) (fun _ command => command.IsSelect) P IsResolved where
  load := (loader_resolved g P).load
  findAllBy := (loader_resolved g P).findAllBy
  nativeAll t sql params _ := (loader_resolved g P).nativeAll t sql params trivial

end Session

theorem ReadingRun.unwritten {g : Gateway σ} {c : SessionConfig} {w : Workspace σ}
    {s : SessionState σ} (h : ReadingRun g ⟨{ config := c }, w⟩ s) : s.Unwritten w := by
  induction h with
  | start => exact .fresh c w
  | search h hc ih =>
    exact (SessionCall.meets_searched (keeper_unwritten g w) (loader_select g _)
      (fun _ _ h => h) (hc.searches g)).final ih
  | merge h hit ih =>
    rw [SessionCall.run, map_apply, merge_known g ih.isOpen hit]
    exact ih
  | look h hread ih => exact ih.look hread

namespace Session

variable (g : Gateway σ) {w : Workspace σ} {s : SessionState σ}

/-- A session in which nothing asks for an UPDATE is closed without a statement. -/
theorem close_silent (hs : s.Unwritten w)
    (hnone : ∀ e ∈ s.session.map.values, s.change? e = none) :
    ∃ t, close g s = (.ok (), t) ∧ t.space.transcript = s.space.transcript := by
  obtain ⟨events, hcheck⟩ := dirtyCheckAlong_eq g hs.toOpen fun _ h => h
  rw [List.filterMap_eq_nil_iff.mpr hnone, ← dirtyCheck_eq_along] at hcheck
  obtain ⟨ended, hclose⟩ := close_of_checked g hs.isOpen hcheck
  have hidle : s.session.queue.actions ++ [] = [] := by rw [hs.idle, List.append_nil]
  rw [(flushActions_of_nil g hidle).1] at hclose
  exact ⟨_, hclose, rfl⟩

/-- A session in which something asks for an UPDATE is not closed without one. -/
theorem close_writes (hs : s.Unwritten w) {e : Entry} (he : e ∈ s.session.map.values)
    (hchange : (s.change? e).isSome = true) {t : SessionState σ}
    (hclose : close g s = (.ok (), t)) : ∃ xs, t.space.transcript = s.space.transcript ++ xs ∧
      ∃ x ∈ xs, ¬ x.Queries Command.IsSelect := by
  obtain ⟨events, hcheck⟩ := dirtyCheckAlong_eq g hs.toOpen fun _ h => h
  generalize hdirty : s.session.map.values.filterMap s.change? = dirty at hcheck
  rw [← dirtyCheck_eq_along] at hcheck
  have hready : ∀ p ∈ dirty, p.1.Ready (s.space.logged events) := by
    intro p hp
    rw [← hdirty] at hp
    obtain ⟨f, hf, hp⟩ := List.mem_filterMap.mp hp
    obtain ⟨hpf, hready⟩ := hs.valid.ready_of_change? hf hp
    exact hpf ▸ hready.mono (grows_logged _ _)
  have hopen := meets_dirtyCheck_open g s hs.toOpen
  rw [hcheck] at hopen
  have hflush := flushActions_updates g hopen (by rw [hs.idle]; rfl) hready
  obtain ⟨ended, hrun⟩ := close_of_checked g hs.isOpen hcheck
  rw [hclose] at hrun
  rcases hf : flushActions g _ with ⟨f | u, v⟩ <;> rw [hf] at hflush hrun
  · cases hrun
  obtain ⟨-, rfl⟩ := Prod.mk.inj hrun
  obtain ⟨xs, hxs, hupdates⟩ := hflush
  obtain ⟨p, hp⟩ := Option.isSome_iff_exists.mp hchange
  have hmem : p ∈ dirty := hdirty ▸ List.mem_filterMap.mpr ⟨e, he, hp⟩
  obtain ⟨x, hx, hupdate⟩ := exists_of_forall₂ hupdates p hmem
  obtain ⟨m, next, c, n, u, -, -, rfl, -⟩ := hupdate
  exact ⟨xs, hxs, _, hx, id⟩

end Session

/-- A session that was only read from is closed without a write exactly if no entity that its key
finds holds a NaN: then close succeeds, and nothing but SELECTs was sent in the whole run. -/
theorem ReadingRun.closes_unwritten_iff {g : Gateway σ} {c : SessionConfig} {w : Workspace σ}
    {s : SessionState σ} (h : ReadingRun g ⟨{ config := c }, w⟩ s) :
    (∃ t xs, close g s = (.ok (), t) ∧ t.space.transcript = w.transcript ++ xs ∧
        ∀ x ∈ xs, x.Queries Command.IsSelect) ↔
      ∀ e ∈ s.session.map.values, (e.key == e.key) = true → s.holdsNaN e = false := by
  have hs := h.unwritten
  obtain ⟨xs, hxs, hselects⟩ := hs.told
  constructor
  · rintro ⟨t, ys, hclose, hys, hall⟩ e he hself
    refine Bool.eq_false_iff.mpr fun hnan => ?_
    obtain ⟨zs, hzs, x, hx, hwrite⟩ :=
      close_writes g hs he ((hs.change?_isSome_iff he).mpr ⟨hself, hnan⟩) hclose
    rw [hxs, hys, List.append_assoc, List.append_cancel_left_eq] at hzs
    exact hwrite (hall x (hzs ▸ List.mem_append_right _ hx))
  · intro hnone
    obtain ⟨t, hclose, ht⟩ := close_silent g hs fun e he => by
      refine Option.not_isSome_iff_eq_none.mp fun hchange => ?_
      obtain ⟨hself, hnan⟩ := (hs.change?_isSome_iff he).mp hchange
      rw [hnone e he hself] at hnan
      cases hnan
    exact ⟨t, xs, hclose, ht.trans hxs, hselects⟩

namespace SampleOrders

def gateway : Gateway Script :=
  ⟨Script.connection, SampleTypes.catalogue, false⟩

/-- The row of an order. -/
def row (total : Double) : List Value :=
  [.double total, .null, .null, .null, .integer .medium ⟨1, IntWidth.medium.holds_one⟩,
    .big 1 IntWidth.big.holds_one]

def answer (total : Double) : ScriptedAnswer where
  rows := some (["total", "customer_id", "detail_id", "approved_by", "revision", "id"], [row total])

/-- A store that answers the first query with one order. -/
def fresh (total : Double) : SessionState Script :=
  ⟨{ config := {} }, { store := { answers := [answer total] } }⟩

/-- The order was looked for. -/
def found (total : Double) : SessionState Script :=
  ((SessionCall.findById SampleTypes.order (.big 1 IntWidth.big.holds_one)).run gateway
    (fresh total)).2

theorem run_found (total : Double) : ReadingRun gateway (fresh total) (found total) :=
  .search .start trivial

/-- An order over an infinite total is left alone when its session is closed, and one whose total is
a NaN is not. -/
theorem closes_unwritten_iff_orders :
    (found (.infinity .double false)).session.map.size = 1 ∧
    (∃ t xs, close gateway (found (.infinity .double false)) = (.ok (), t) ∧
      t.space.transcript = xs ∧ ∀ x ∈ xs, x.Queries Command.IsSelect) ∧
    ¬ ∃ t xs, close gateway (found (.nan .double)) = (.ok (), t) ∧
      t.space.transcript = xs ∧ ∀ x ∈ xs, x.Queries Command.IsSelect := by
  refine ⟨by decide +kernel, (run_found _).closes_unwritten_iff.mpr (by decide +kernel),
    fun h => ?_⟩
  have hnone := (run_found _).closes_unwritten_iff.mp h
  revert hnone
  decide +kernel

end SampleOrders

end EntityMapper
