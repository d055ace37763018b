import EntityMapper.Proofs.Flush.Accepted
import EntityMapper.Proofs.Session.Enumerating
import EntityMapper.Proofs.Session.Reconciling
/-! Reordering: in which order a check for changes goes through the known entities makes no
difference to what is written and to what a session is then. -/

namespace EntityMapper

variable {σ α : Type}

open Session Operation SessionState

namespace Session

/-- A flush of what a check for changes finds when it goes through entries in a given order. -/
def flushAlong (g : Gateway σ) (es : List Entry) : Operation σ Unit := do
  let _ ← dirtyCheckAlong g es
  flush g

variable {s t : Session} {es : List Entry}

/-- Of known entries that are kept nothing but the snapshots are new. -/
theorem Keeps.of_known (h : s.Keeps es t) (hes : ∀ e ∈ es, s.map.find? e.key = some e) :
    t = { s with snapshots := t.snapshots } := by
  induction h with
  | nil s => rfl
  | @cons s es t e snapshot h ih =>
    have hmap : (s.keep e snapshot).map = s.map :=
      Assoc.insert_of_find? (hes e List.mem_cons_self)
    have hrest := ih fun f hf => by rw [hmap]; exact hes f (List.mem_cons_of_mem e hf)
    rw [hrest, keep, show s.map.put e = s.map from hmap]

end Session

namespace SessionState

/-- What was said over the connection since a state. -/
def said (s t : SessionState σ) : List Exchange :=
  t.space.transcript.drop s.space.transcript.length

/-- A number of writes was carried out since a state, and nothing else was said. -/
def Accepts (s t : SessionState σ) (n : Nat) : Prop :=
  (s.said t).length = n ∧ ∀ x ∈ s.said t, x.isAcceptedWrite = true

/-- Two states hold the same entities, with the same values, snapshots and mappings, and the same
waits in them, if maybe in another order. -/
structure Alike (s t : SessionState σ) : Prop where
  config : s.session.config = t.session.config
  active : s.session.active = t.session.active
  closed : s.session.closed = t.session.closed
  queue : s.session.queue.actions.Perm t.session.queue.actions
  map : s.session.map = t.session.map
  snapshots : ∀ k, s.session.snapshots.find? k = t.session.snapshots.find? k
  heap : ∀ l, s.space.heap.get l = t.space.heap.get l
  registry : s.space.journal.registry = t.space.journal.registry

/-- Two runs answer the same, and end alike. -/
def EndAlike (x y : Except Error α × SessionState σ) : Prop :=
  x.1 = y.1 ∧ x.2.Alike y.2

/-- Two runs from a state send the same statements with the same parameters besides, if maybe in
another order. -/
def WriteAlike (s : SessionState σ) (x y : Except Error α × SessionState σ) : Prop :=
  ((s.said x.2).map (·.command)).Perm ((s.said y.2).map (·.command)) ∧ EndAlike x y

theorem Alike.refl (s : SessionState σ) : s.Alike s :=
  ⟨rfl, rfl, rfl, .refl _, rfl, fun _ => rfl, fun _ => rfl, rfl⟩

/-- The UPDATEs of known entities, each of them only once, and nothing else, wait in an open
session. -/
structure Awaiting (s : SessionState σ) (dirty : List (Entry × Value)) : Prop extends s.Open where
  queue : s.session.queue = ⟨dirty.map fun p => .merge p.1 p.2⟩
  ready : ∀ p ∈ dirty, p.1.Ready s.space
  known : ∀ p ∈ dirty, s.session.map.find? p.1.key = some p.1

/-- A flush has carried out UPDATEs, and taken note of all of them. -/
structure Written (s : SessionState σ) (dirty : List (Entry × Value)) (xs : List Exchange)
    (run : Except Error Unit × SessionState σ) : Prop where
  carried : ∃ d, run.1 = d.result ∧ Gateway.AllCarriedOut s.space dirty {} xs d run.2.space
  others : ∀ l ∉ dirty.map (·.1.handle), run.2.space.heap.get l = s.space.heap.get l
  session : run.2.session =
    { s.session with queue := ⟨[]⟩, snapshots := run.2.session.snapshots }
  noted : ∀ p ∈ dirty, ∃ m,
    run.2.space.journal.registry.find? (run.2.space.heap.get p.1.handle).type.path = some m ∧
      run.2.session.snapshots.find? p.1.key =
        some (.capture m (run.2.space.heap.get p.1.handle))
  kept : ∀ k, (∀ p ∈ dirty, (p.1.key == k) = false) →
    run.2.session.snapshots.find? k = s.session.snapshots.find? k

namespace Written

variable {s t : SessionState σ} {dirty dirty' : List (Entry × Value)} {xs ys : List Exchange}
  {x y : Except Error Unit × SessionState σ} (hx : s.Written dirty xs x)
  (hy : t.Written dirty' ys y) (h : s.Alike t) (hperm : dirty.Perm dirty')

include hx hy h

theorem registry_eq : x.2.space.journal.registry = y.2.space.journal.registry := by
  obtain ⟨d, -, hxs⟩ := hx.carried
  obtain ⟨d', -, hys⟩ := hy.carried
  exact hxs.registry.trans (h.registry.trans hys.registry.symm)

include hperm

theorem heap_eq (l : Handle) : x.2.space.heap.get l = y.2.space.heap.get l := by
  obtain ⟨d, -, hxs⟩ := hx.carried
  obtain ⟨d', -, hys⟩ := hy.carried
  by_cases hl : l ∈ dirty.map (·.1.handle)
  · obtain ⟨p, hp, rfl⟩ := List.mem_map.mp hl
    rw [hxs.written p hp, hys.written p (hperm.mem_iff.mp hp),
      Workspace.carriedOut?_congr (h.heap _) h.registry, h.heap]
  · rw [hx.others l hl, hy.others l fun hl' => hl ((hperm.map _).mem_iff.mpr hl'), h.heap]

theorem snapshots_eq (k : EntityKey) :
    x.2.session.snapshots.find? k = y.2.session.snapshots.find? k := by
  by_cases hk : ∃ p ∈ dirty, (p.1.key == k) = true
  · obtain ⟨p, hp, hpk⟩ := hk
    obtain ⟨m, hm, hsnapshot⟩ := hx.noted p hp
    obtain ⟨m', hm', hsnapshot'⟩ := hy.noted p (hperm.mem_iff.mp hp)
    rw [← heap_eq hx hy h hperm, ← registry_eq hx hy h] at hm'
    obtain rfl := Option.some.inj (hm.symm.trans hm')
    rw [← Assoc.find?_congr _ hpk, ← Assoc.find?_congr _ hpk, hsnapshot, hsnapshot',
      heap_eq hx hy h hperm]
  · have hnone : ∀ p ∈ dirty, (p.1.key == k) = false := fun p hp =>
      Bool.eq_false_iff.mpr fun hpk => hk ⟨p, hp, hpk⟩
    rw [hx.kept k hnone, hy.kept k fun p hp => hnone p (hperm.mem_iff.mpr hp), h.snapshots]

/-- UPDATEs that wait in states that are alike send the same and leave the states alike. -/
theorem alike : (xs.map (·.command)).Perm (ys.map (·.command)) ∧ EndAlike x y := by
  obtain ⟨d, hd, hxs⟩ := hx.carried
  obtain ⟨d', hd', hys⟩ := hy.carried
  obtain ⟨hcommands, hresult⟩ := hxs.perm hys hperm fun _ =>
    Workspace.carriedOut?_congr (h.heap _) h.registry
  refine ⟨hcommands, hd.trans (hresult.trans hd'.symm), ?_, ?_, ?_, ?_, ?_,
    snapshots_eq hx hy h hperm, heap_eq hx hy h hperm, registry_eq hx hy h⟩
  · rw [hx.session, hy.session]
    exact h.config
  · rw [hx.session, hy.session]
    exact h.active
  · rw [hx.session, hy.session]
    exact h.closed
  · rw [hx.session, hy.session]
  · rw [hx.session, hy.session]
    exact h.map

end Written

end SessionState

namespace Session

variable (g : Gateway σ) {s t : SessionState σ} {dirty : List (Entry × Value)}

theorem said_eq {xs : List Exchange} (h : t.space.transcript = s.space.transcript ++ xs) :
    s.said t = xs := by
  rw [said, h, List.drop_left]

/-- A flush says more than was said before. -/
theorem transcript_flushActions (hs : s.Valid) :
    (flushActions g s).2.space.transcript = s.space.transcript ++ s.said (flushActions g s).2 := by
  obtain ⟨events, hrun⟩ := flushActions_noting g hs
  obtain ⟨xs, hxs⟩ := g.prefix_performAll s.session.queue.ordered {} s.space
  have htold : (flushActions g s).2.space.transcript = s.space.transcript ++ xs := by
    rw [hrun]
    exact hxs.symm
  rw [said_eq htold]
  exact htold

theorem carried_of_accepts (hs : s.Awaiting dirty)
    (haccepts : s.Accepts (flushActions g s).2 dirty.length) :
    Gateway.AllCarriedOut s.space dirty {} (s.said (flushActions g s).2) (drained g s).1
      (drained g s).2 := by
  obtain ⟨hlength, haccepted⟩ := haccepts
  obtain ⟨events, hrun⟩ := flushActions_noting g hs.valid
  obtain ⟨hdrained, hdistinct⟩ := drained_updates g hs.toOpen hs.queue
  have hsaid := transcript_flushActions g hs.valid
  have htranscript : (flushActions g s).2.space.transcript = (drained g s).2.transcript := by
    rw [hrun]
    rfl
  rw [htranscript, hdrained] at hsaid
  rw [hdrained]
  exact g.allCarriedOut_performAll hdistinct hs.ready hsaid hlength haccepted

/-- A drain leaves alone what none of the UPDATEs holds. -/
theorem get_drained_of_awaiting (hs : s.Awaiting dirty) {l : Handle}
    (hl : l ∉ dirty.map (·.1.handle)) : (drained g s).2.heap.get l = s.space.heap.get l := by
  rw [(drained_updates g hs.toOpen hs.queue).1]
  refine g.get_performAll_of_ne (fun a ha heq => ?_) _ _
  obtain ⟨p, hp, rfl⟩ := List.mem_map.mp ha
  exact hl (List.mem_map.mpr ⟨p, hp, Option.some.inj heq⟩)

/-- A flush that takes note of UPDATEs of known entities changes nothing of the session but the
queue and the snapshots. -/
theorem session_of_carried (hs : s.Awaiting dirty) {xs : List Exchange}
    (hall : Gateway.AllCarriedOut s.space dirty {} xs (drained g s).1 (drained g s).2) :
    (flushActions g s).2.session =
      { s.session with queue := ⟨[]⟩, snapshots := (flushActions g s).2.session.snapshots } := by
  have houtcome : (drained g s).1.outcome = { merged := dirty.map (·.1) } := hall.outcome
  obtain ⟨events, hrun⟩ := flushActions_noting g hs.valid
  obtain ⟨hready, -⟩ := reconcile_noting g hs.valid
  have hkeeps := keeps_keepNow hready { s.session with queue := ⟨(drained g s).1.left⟩ }
  have hknown := hkeeps.of_known fun e he => by
    rw [houtcome] at he
    obtain ⟨p, hp, rfl⟩ := List.mem_map.mp he
    exact hs.known p hp
  rw [hrun]
  dsimp only [Session.noting]
  rw [houtcome] at hknown ⊢
  rw [hall.left] at hknown ⊢
  exact hknown

/-- When all UPDATEs that wait are carried out, a flush takes note of all of them. -/
theorem written_flushActions (hs : s.Awaiting dirty)
    (haccepts : s.Accepts (flushActions g s).2 dirty.length) :
    s.Written dirty (s.said (flushActions g s).2) (flushActions g s) := by
  have hall := carried_of_accepts g hs haccepts
  have houtcome : (drained g s).1.outcome = { merged := dirty.map (·.1) } := hall.outcome
  have hfresh : s.session.Fresh (drained g s).1.outcome := by
    rw [houtcome]
    exact ⟨by simp, by simp, .nil⟩
  have hreconciled := reconciled_flushActions g hs.valid hs.isOpen hfresh
  rw [houtcome] at hreconciled
  obtain ⟨events, hrun⟩ := flushActions_noting g hs.valid
  have hspace : (flushActions g s).2.space = (drained g s).2.logged events := by rw [hrun]
  refine ⟨⟨(drained g s).1, by rw [hrun], ?_⟩, fun l hl => ?_, session_of_carried g hs hall,
    fun p hp => ?_, fun k hk => ?_⟩
  · rw [hspace]
    exact ⟨hall.commands, hall.failed, hall.left, hall.outcome, hall.written, hall.registry⟩
  · rw [hspace]
    exact get_drained_of_awaiting g hs hl
  · obtain ⟨m, hm, hheld⟩ := hreconciled.written p.1 (List.mem_map.mpr ⟨p, hp, rfl⟩) (by simp)
    exact ⟨m, hm, congrArg Prod.snd hheld⟩
  · have hheld := hreconciled.others k (fun e he => ?_) (by simp)
    · exact congrArg Prod.snd hheld
    · obtain ⟨p, hp, rfl⟩ := List.mem_map.mp he
      exact hk p hp

variable {es fs : List Entry}

/-- After a check for changes the session is open, whatever the order of the check. -/
theorem open_dirtyCheckAlong (hs : s.Open) (hes : es.Perm s.session.map.values) :
    Open (dirtyCheckAlong g es s).2 := by
  obtain ⟨events, hrun⟩ := dirtyCheckAlong_eq g hs fun _ => hes.mem_iff.mp
  obtain ⟨events', hrun'⟩ := dirtyCheckAlong_eq g hs fun _ h => h
  have hchecked := meets_dirtyCheck_open g s hs
  rw [dirtyCheck_eq_along, hrun'] at hchecked
  rw [hrun]
  exact (hchecked.work (grows_logged _ events)).reorder
    (q := ⟨s.session.queue.actions ++ (es.filterMap s.change?).map fun p => .merge p.1 p.2⟩)
    (((hes.filterMap _).map _).append_left _)

/-- What a check for changes finds waits then, if nothing waited before. -/
theorem awaiting_dirtyCheckAlong (hs : s.Open) (hq : s.session.queue.actions = [])
    (hes : es.Perm s.session.map.values) :
    (dirtyCheckAlong g es s).2.Awaiting (es.filterMap s.change?) := by
  have hopen := open_dirtyCheckAlong g hs hes
  obtain ⟨events, hrun⟩ := dirtyCheckAlong_eq g hs fun _ => hes.mem_iff.mp
  rw [hrun] at hopen ⊢
  have hmem {p : Entry × Value} (hp : p ∈ es.filterMap s.change?) :
      p.1 ∈ s.session.map.values ∧ s.change? p.1 = some p := by
    obtain ⟨e, he, hep⟩ := List.mem_filterMap.mp hp
    obtain ⟨rfl, -⟩ := hs.valid.ready_of_change? (hes.mem_iff.mp he) hep
    exact ⟨hes.mem_iff.mp he, hep⟩
  refine ⟨hopen, by rw [hq, List.nil_append], fun p hp => ?_, fun p hp => ?_⟩
  · obtain ⟨he, hep⟩ := hmem hp
    exact (hs.valid.ready_of_change? he hep).2.mono (grows_logged _ _)
  · obtain ⟨he, hep⟩ := hmem hp
    exact hs.valid.find?_of_change? he hep

/-- What becomes of a run when the session ends if it succeeds. -/
def ended (events : List Event) :
    Except Error Unit × SessionState σ → Except Error Unit × SessionState σ
  | (.error e, u) => (.error e, u)
  | (.ok _, u) => (.ok (), ⟨{ u.session with
      map := .empty, snapshots := .empty, closed := true }, u.space.logged events⟩)

theorem alike_dirtyCheckAlong (hs : s.Open) (hes : es.Perm s.session.map.values)
    (hfs : fs.Perm s.session.map.values) :
    EndAlike (dirtyCheckAlong g es s) (dirtyCheckAlong g fs s) := by
  obtain ⟨events, hrun⟩ := dirtyCheckAlong_eq g hs fun _ => hes.mem_iff.mp
  obtain ⟨events', hrun'⟩ := dirtyCheckAlong_eq g hs fun _ => hfs.mem_iff.mp
  have hperm := (hes.trans hfs.symm).filterMap s.change?
  rw [hrun, hrun']
  exact ⟨congrArg Except.ok hperm.length_eq, rfl, rfl, rfl, (hperm.map _).append_left _, rfl,
    fun _ => rfl, fun _ => rfl, rfl⟩

theorem flushAlong_eq (hs : s.Open) (hes : es.Perm s.session.map.values) :
    flushAlong g es s = flushActions g (dirtyCheckAlong g es s).2 := by
  have hopen := open_dirtyCheckAlong g hs hes
  obtain ⟨events, hrun⟩ := dirtyCheckAlong_eq g hs fun _ => hes.mem_iff.mp
  rw [hrun] at hopen
  rw [flushAlong, bind_apply, hrun]
  exact bind_of_open hopen.isOpen _

theorem closeAlong_eq (hs : s.Open) (hes : es.Perm s.session.map.values) :
    ∃ events, closeAlong g es s = ended events (flushActions g (dirtyCheckAlong g es s).2) := by
  obtain ⟨events, hrun⟩ := dirtyCheckAlong_eq g hs fun _ => hes.mem_iff.mp
  rw [closeAlong, bind_of_open hs.isOpen, bind_apply, hrun]
  exact ended_of_flushed g _

theorem said_dirtyCheckAlong (hs : s.Open) (hes : es.Perm s.session.map.values)
    (t : SessionState σ) : (dirtyCheckAlong g es s).2.said t = s.said t := by
  obtain ⟨events, hrun⟩ := dirtyCheckAlong_eq g hs fun _ => hes.mem_iff.mp
  rw [hrun]
  rfl

/-- In two orders the same is written, if all of it is carried out. -/
theorem alike_flushed (hs : s.Open) (hq : s.session.queue.actions = [])
    (hes : es.Perm s.session.map.values) (hfs : fs.Perm s.session.map.values) {n : Nat}
    (hn : (dirtyCheckAlong g es s).1 = .ok n)
    (he : s.Accepts (flushActions g (dirtyCheckAlong g es s).2).2 n)
    (hf : s.Accepts (flushActions g (dirtyCheckAlong g fs s).2).2 n) :
    s.WriteAlike (flushActions g (dirtyCheckAlong g es s).2)
      (flushActions g (dirtyCheckAlong g fs s).2) := by
  have hperm := (hes.trans hfs.symm).filterMap s.change?
  obtain ⟨events, hrun⟩ := dirtyCheckAlong_eq g hs fun _ => hes.mem_iff.mp
  obtain rfl := Except.ok.inj ((congrArg Prod.fst hrun).symm.trans hn)
  have hwritten {es : List Entry} (hes : es.Perm s.session.map.values) {n : Nat}
      (hn : (es.filterMap s.change?).length = n)
      (h : s.Accepts (flushActions g (dirtyCheckAlong g es s).2).2 n) :=
    written_flushActions g (awaiting_dirtyCheckAlong g hs hq hes)
      (by unfold Accepts at h ⊢; rwa [said_dirtyCheckAlong g hs hes, hn])
  have halike := (hwritten hes rfl he).alike (hwritten hfs hperm.length_eq.symm hf)
    (alike_dirtyCheckAlong g hs hes hfs).2 hperm
  rwa [said_dirtyCheckAlong g hs hes, said_dirtyCheckAlong g hs hfs] at halike

theorem said_ended (events : List Event) (x : Except Error Unit × SessionState σ) :
    s.said (ended events x).2 = s.said x.2 := by
  obtain ⟨e | u, t⟩ := x <;> rfl

/-- A session that ends after runs that are alike ends alike. -/
theorem alike_ended {x y : Except Error Unit × SessionState σ} (h : s.WriteAlike x y)
    (events events' : List Event) : s.WriteAlike (ended events x) (ended events' y) := by
  obtain ⟨hsaid, hanswer, halike⟩ := h
  refine ⟨by rwa [said_ended, said_ended], ?_⟩
  obtain ⟨r, u⟩ := x
  obtain ⟨r', v⟩ := y
  obtain rfl : r = r' := hanswer
  cases r with
  | error e => exact ⟨rfl, halike⟩
  | ok a =>
    exact ⟨rfl, halike.config, halike.active, rfl, halike.queue, rfl, fun _ => rfl, halike.heap,
      halike.registry⟩

end Session

/-- In which order a check for changes goes through the known entities makes no difference. It
queues the same UPDATEs, and when nothing waited before and the store carries out all of them, a
flush or the closing of the session sends the same statements, answers the same and leaves the same
entities, snapshots and session. -/
theorem SessionRun.order_irrelevant {g : Gateway σ} {c : SessionConfig} {w : Workspace σ}
    {evs : List SessionEvent} {s : SessionState σ} (h : SessionRun g ⟨{ config := c }, w⟩ evs s)
    (hq : s.session.queue.actions = []) {es fs : List Entry}
    (hes : es.Perm s.session.map.values) (hfs : fs.Perm s.session.map.values) :
    dirtyCheck g s = dirtyCheckAlong g s.session.map.values s ∧
      close g s = closeAlong g s.session.map.values s ∧
      EndAlike (dirtyCheckAlong g es s) (dirtyCheckAlong g fs s) ∧
      ∀ n, (dirtyCheckAlong g es s).1 = .ok n →
        (s.Accepts (flushAlong g es s).2 n → s.Accepts (flushAlong g fs s).2 n →
          s.WriteAlike (flushAlong g es s) (flushAlong g fs s)) ∧
        (s.Accepts (closeAlong g es s).2 n → s.Accepts (closeAlong g fs s).2 n →
          s.WriteAlike (closeAlong g es s) (closeAlong g fs s)) := by
  refine ⟨dirtyCheck_eq_along g s, close_eq_along g s, ?_⟩
  cases hc : s.session.closed with
  | true =>
    have hclosed (es : List Entry) : dirtyCheckAlong g es s = (.error .sessionClosed, s) :=
      bind_of_closed hc _
    rw [hclosed es, hclosed fs]
    exact ⟨⟨rfl, .refl s⟩, nofun⟩
  | false =>
    have hs : s.Open := ⟨h.kept, hc⟩
    refine ⟨alike_dirtyCheckAlong g hs hes hfs, fun n hn => ⟨fun he hf => ?_, fun he hf => ?_⟩⟩
    · rw [flushAlong_eq g hs hes] at he ⊢
      rw [flushAlong_eq g hs hfs] at hf ⊢
      exact alike_flushed g hs hq hes hfs hn he hf
    · obtain ⟨events, hclose⟩ := closeAlong_eq g hs hes
      obtain ⟨events', hclose'⟩ := closeAlong_eq g hs hfs
      rw [hclose] at he ⊢
      rw [hclose'] at hf ⊢
      unfold Accepts at he hf
      rw [said_ended] at he hf
      exact alike_ended (alike_flushed g hs hq hes hfs hn he hf) events events'

namespace SampleVersions

/-- Both entities were renamed in memory. -/
def bothRenamed : SessionState Script :=
  { renamed with space := (Work.setValue 1 "name" (.text "third") renamed.space).2 }

theorem run_bothRenamed : ∃ evs, SessionRun gateway fresh evs bothRenamed := by
  obtain ⟨evs, hrun⟩ := run_renamed
  exact ⟨evs, hrun.turn (Work.Steady.setValue 1 "name" (.text "third") _)⟩

/-- The two entities in the other order. -/
def reversed : List Entry :=
  bothRenamed.session.map.values.reverse

/-- Two renamed entities are written in two orders, to the same effect. -/
theorem order_irrelevant_reversed :
    bothRenamed.session.map.values.map (·.handle) = [0, 1] ∧ reversed.map (·.handle) = [1, 0] ∧
      EndAlike (dirtyCheck gateway bothRenamed) (dirtyCheckAlong gateway reversed bothRenamed) ∧
      ((dirtyCheck gateway bothRenamed).2.session.queue.actions.filterMap Action.handle? = [0, 1] ∧
        (dirtyCheckAlong gateway reversed bothRenamed).2.session.queue.actions.filterMap
          Action.handle? = [1, 0]) ∧
      bothRenamed.WriteAlike (flushAlong gateway bothRenamed.session.map.values bothRenamed)
        (flushAlong gateway reversed bothRenamed) ∧
      (bothRenamed.said (flushAlong gateway reversed bothRenamed).2).length = 2 ∧
      bothRenamed.WriteAlike (close gateway bothRenamed)
        (closeAlong gateway reversed bothRenamed) ∧
      (bothRenamed.said (closeAlong gateway reversed bothRenamed).2).length = 2 := by
  obtain ⟨evs, hrun⟩ := run_bothRenamed
  obtain ⟨hcheck, hclose, hqueued, hwritten⟩ := SessionRun.order_irrelevant hrun
    (by decide +kernel) (.refl _) (List.reverse_perm bothRenamed.session.map.values)
  have hfound : (dirtyCheckAlong gateway bothRenamed.session.map.values bothRenamed).1 = .ok 2 :=
    eq_ok_of_toOption (by decide +kernel)
  obtain ⟨hflushed, hclosed⟩ := hwritten 2 hfound
  rw [hcheck, hclose]
  exact ⟨by decide +kernel, by decide +kernel, hqueued, by decide +kernel,
    hflushed ⟨by decide +kernel, by decide +kernel⟩ ⟨by decide +kernel, by decide +kernel⟩,
    by decide +kernel,
    hclosed ⟨by decide +kernel, by decide +kernel⟩ ⟨by decide +kernel, by decide +kernel⟩,
    by decide +kernel⟩

end SampleVersions

end EntityMapper
