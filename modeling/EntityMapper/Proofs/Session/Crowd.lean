import EntityMapper.Proofs.Flush.Attempts
import EntityMapper.Proofs.Session.Guarding
import Mathlib.Logic.Function.Basic
/-! Crowds: any number of sessions that work on one store. A flush of one session may be interrupted
by the others between two statements. -/

namespace EntityMapper

variable {σ : Type}

open Session SessionState

/-- An attempt at an action of a flush, with the session as it is since the flush began and what
performing the action answered. -/
structure Write (σ : Type) where
  session : Session
  attempt : Attempt σ
  answer : Except Error Unit

/-- A flush that came to its end, with the session before and after it. -/
structure FlushReport (σ : Type) where
  before : Session
  writes : List (Write σ)
  answer : Except Error Unit
  after : Session

/-- A flush that is under way, with what it tried so far. -/
structure Underway (σ : Type) where
  drained : Drained
  writes : List (Write σ)

/-- Sessions by number, with those of their flushes that are under way. -/
structure Crowd (σ : Type) where
  sessions : Nat → Session
  underway : Nat → Option (Underway σ)
  space : Workspace σ

namespace Crowd

variable (g : Gateway σ) (c : Crowd σ) (j : Nat)

/-- Sessions that were just made. -/
def fresh (configs : Nat → SessionConfig) (w : Workspace σ) : Crowd σ :=
  ⟨fun j => { config := configs j }, fun _ => none, w⟩

/-- What one of the sessions works with. -/
def state : SessionState σ :=
  ⟨c.sessions j, c.space⟩

def put (s : SessionState σ) : Crowd σ :=
  { c with sessions := Function.update c.sessions j s.session, space := s.space }

def setUnderway (u : Option (Underway σ)) : Crowd σ :=
  { c with underway := Function.update c.underway j u }

/-- A session takes all that is queued in order to write it. -/
def begin : Crowd σ :=
  c.setUnderway j (some ⟨⟨.ok (), (c.sessions j).queue.ordered, {}⟩, []⟩)

/-- The attempt of a session at an action. The number of the ticket plays no part. -/
def write (o : Outcome) (a : Action) : Write σ :=
  ⟨c.sessions j, g.attempt ⟨0, a⟩ o c.space, (g.perform a o c.space).1.1⟩

/-- A session performs the next action of its flush. -/
def advance (u : Underway σ) (a : Action) : Crowd σ :=
  { c with space := (g.advance u.drained c.space).2 }.setUnderway j
    (some ⟨(g.advance u.drained c.space).1, u.writes ++ [c.write g j u.drained.outcome a]⟩)

/-- A session ends its flush. -/
def finish (u : Underway σ) : Crowd σ :=
  (c.setUnderway j none).put j (settle g u.drained (c.state j)).2

def report (u : Underway σ) : FlushReport σ :=
  ⟨c.sessions j, u.writes, (settle g u.drained (c.state j)).1,
    (settle g u.drained (c.state j)).2.session⟩

end Crowd

/-- One step of a crowd, with the write that it tries and the flush that it ends. -/
inductive CrowdStep (g : Gateway σ) (row : σ → String → Value) (c : Crowd σ) :
    List (Write σ) → List (FlushReport σ) → Crowd σ → Prop
  /-- A session searches. -/
  | search {j call t} (hidle : c.underway j = none) (hcall : SessionCall.searched? call = some t) :
    CrowdStep g row c [] [] (c.put j (call.run g (c.state j)).2)
  | merge {j} (hidle : c.underway j = none) (i : Instance) :
    CrowdStep g row c [] [] (c.put j (Session.merge g i (c.state j)).2)
  | dirtyCheck {j} (hidle : c.underway j = none) :
    CrowdStep g row c [] [] (c.put j (Session.dirtyCheck g (c.state j)).2)
  /-- Shared instances and the rest of the store change as they like, but the row does not. -/
  | turn {w} (hg : c.space.Grows w) (hrow : row w.store = row c.space.store) :
    CrowdStep g row c [] [] { c with space := w }
  | begin {j} (hidle : c.underway j = none) (hq : (c.sessions j).queue.actions ≠ []) :
    CrowdStep g row c [] [] (c.begin j)
  | advance {j u a rest} (hu : c.underway j = some u) (hr : u.drained.result = .ok ())
    (hleft : u.drained.left = a :: rest) :
    CrowdStep g row c [c.write g j u.drained.outcome a] [] (c.advance g j u a)
  | finish {j u} (hu : c.underway j = some u)
    (hend : u.drained.left = [] ∨ ∃ e, u.drained.result = .error e) :
    CrowdStep g row c [] [c.report g j u] (c.finish g j u)

/-- Any number of steps of a crowd, with all writes that they try and all flushes that they end. -/
inductive CrowdRun (g : Gateway σ) (row : σ → String → Value) (start : Crowd σ) :
    List (Write σ) → List (FlushReport σ) → Crowd σ → Prop
  | start : CrowdRun g row start [] [] start
  | step {ws fs c xs rs d} (h : CrowdRun g row start ws fs c) (m : CrowdStep g row c xs rs d) :
    CrowdRun g row start (ws ++ xs) (fs ++ rs) d

/-- What a flush under way has come to in its session. -/
structure Underway.Fits (u : Underway σ) (s : SessionState σ) : Prop where
  draining : s.Draining u.drained
  own : ∀ x ∈ u.writes, x.session = s.session
  /-- A write that was not carried out stopped the flush, and it is still queued. -/
  failed : ∀ x ∈ u.writes, x.attempt.executed = [] →
    ∃ e, x.answer = .error e ∧ u.drained.result = .error e ∧
      x.attempt.ticket.action ∈ u.drained.left

/-- A flush under way has tried a write. -/
def Crowd.Trying (c : Crowd σ) (x : Write σ) : Prop :=
  ∃ j u, c.underway j = some u ∧ x ∈ u.writes

/-- Every session of the crowd waits, and every flush is under way as it should. -/
structure Crowd.Waits (c : Crowd σ) : Prop where
  waiting : ∀ j, (c.state j).Waiting
  underway : ∀ j u, c.underway j = some u → u.Fits (c.state j)

namespace Crowd

variable {g : Gateway σ} {c : Crowd σ} {j : Nat} {s : SessionState σ}

theorem waits_fresh (configs : Nat → SessionConfig) (w : Workspace σ) : (fresh configs w).Waits :=
  ⟨fun _ => .fresh _ w, fun _ _ h => by cases h⟩

namespace Waits

variable (hc : c.Waits)

include hc

theorem work {w : Workspace σ} (hg : c.space.Grows w) : Waits { c with space := w } :=
  ⟨fun j => (hc.waiting j).work hg, fun j u hu =>
    ⟨(hc.underway j u hu).draining.work hg, (hc.underway j u hu).own, (hc.underway j u hu).failed⟩⟩

theorem setUnderway {u : Option (Underway σ)} (hu : ∀ v ∈ u, v.Fits (c.state j)) :
    (c.setUnderway j u).Waits := by
  refine ⟨hc.waiting, fun k v hv => ?_⟩
  by_cases hk : k = j
  · subst hk
    exact hu v (by simpa [Crowd.setUnderway] using hv)
  · exact hc.underway k v (by simpa [Crowd.setUnderway, hk] using hv)

/-- A session that does not flush may go on to any state in which it waits. -/
theorem put (hidle : c.underway j = none) (hs : s.Waiting) (hg : c.space.Grows s.space) :
    (c.put j s).Waits := by
  refine ⟨fun k => ?_, fun k u hu => ?_⟩
  · by_cases hk : k = j
    · subst hk
      simpa [state, Crowd.put] using hs
    · simpa [state, Crowd.put, hk] using (hc.waiting k).work hg
  · have hk : k ≠ j := by
      rintro rfl
      rw [show c.underway k = some u from hu] at hidle
      cases hidle
    have hfits := (hc.work hg).underway k u hu
    simpa [state, Crowd.put, hk] using hfits

end Waits

end Crowd

/-- What is not carried out stops the flush and stays queued. -/
theorem advance_failed (g : Gateway σ) {d : Drained} {a : Action} {rest : List Action}
    {w : Workspace σ} (hr : d.result = .ok ()) (hleft : d.left = a :: rest)
    (hx : (g.attempt ⟨0, a⟩ d.outcome w).executed = []) :
    ∃ e, (g.perform a d.outcome w).1.1 = .error e ∧ (g.advance d w).1.result = .error e ∧
      a ∈ (g.advance d w).1.left := by
  have hp := g.attempt_ends ⟨0, a⟩ d.outcome w
  have hn : g.settles w a (g.attempt ⟨0, a⟩ d.outcome w).exchanges = false := by
    have hnone : (g.attempt ⟨0, a⟩ d.outcome w).exchanges.any (·.isAcceptedWrite) = false :=
      List.any_eq_false.mpr (List.filter_eq_nil_iff.mp hx)
    rw [Gateway.settles, hnone]
    rfl
  rcases hf : g.perform a d.outcome w with ⟨⟨e | u, written⟩, v⟩ <;> rw [hf] at hp
  · have hsize : written.size = d.outcome.size := by
      rw [show written.size = _ from hp.size_eq, hn]
      rfl
    refine ⟨e, rfl, ?_⟩
    rw [g.advance_of_error hf hr hleft]
    exact ⟨rfl, by simp [hsize]⟩
  · rw [hp.settles_of_ok] at hn
    cases hn

namespace CrowdStep

variable {g : Gateway σ} {row : σ → String → Value} {c d : Crowd σ} {ws : List (Write σ)}
  {fs : List (FlushReport σ)}

theorem waits_advance (hc : c.Waits) {j : Nat} {u : Underway σ} {a : Action} {rest : List Action}
    (hu : c.underway j = some u) (hr : u.drained.result = .ok ())
    (hleft : u.drained.left = a :: rest) :
    c.space.Grows (c.advance g j u a).space ∧ (c.advance g j u a).Waits := by
  have hfits := hc.underway j u hu
  obtain ⟨hg, hdraining⟩ := draining_advance g (hc.waiting j).valid hfits.draining
  refine ⟨hg, (hc.work hg).setUnderway fun v hv => ?_⟩
  obtain rfl := Option.some.inj hv
  refine ⟨hdraining, fun x hx => ?_, fun x hx hn => ?_⟩
  · rcases List.mem_append.mp hx with hx | hx
    · exact hfits.own x hx
    · rw [List.mem_singleton.mp hx]
      rfl
  · rcases List.mem_append.mp hx with hx | hx
    · obtain ⟨e, -, he, -⟩ := hfits.failed x hx hn
      rw [hr] at he
      cases he
    · rw [List.mem_singleton.mp hx] at hn ⊢
      exact advance_failed g hr hleft hn

/-- Sessions go on waiting whatever happens in the crowd. -/
theorem waits (m : CrowdStep g row c ws fs d) (hc : c.Waits) : c.space.Grows d.space ∧ d.Waits := by
  cases m with
  | @search j call t hidle hcall =>
    obtain ⟨hs, hg, -⟩ := (meets_searched_idle g c.space hcall).final (a := c.state j)
      ⟨hc.waiting j, .refl _, .refl⟩
    exact ⟨hg, hc.put hidle hs hg⟩
  | @merge j hidle i =>
    obtain ⟨hs, hg, -⟩ := (meets_merge_idle g c.space i).final (a := c.state j)
      ⟨hc.waiting j, .refl _, .refl⟩
    exact ⟨hg, hc.put hidle hs hg⟩
  | @dirtyCheck j hidle =>
    obtain ⟨hs, hg, -⟩ := dirtyCheck_waiting g (hc.waiting j)
    exact ⟨hg, hc.put hidle hs hg⟩
  | turn hg hrow => exact ⟨hg, hc.work hg⟩
  | @begin j hidle hq =>
    refine ⟨.refl _, hc.setUnderway fun v hv => ?_⟩
    obtain rfl := Option.some.inj hv
    exact ⟨.start _, by simp, by simp⟩
  | advance hu hr hleft => exact waits_advance hc hu hr hleft
  | @finish j u hu hend =>
    have hs := settles_of_waiting g (hc.waiting j) (hc.underway j u hu).draining
    refine ⟨hs.grows, (hc.setUnderway (u := none) (by simp)).put ?_ hs.waiting hs.grows⟩
    simp [Crowd.setUnderway]

/-- A flush that ends with a write that was not carried out answers why, and the snapshot of what
was to be written stays. -/
theorem fails_of_mem (m : CrowdStep g row c ws fs d) (hc : c.Waits) :
    ∀ f ∈ fs, ∀ x ∈ f.writes, x.session = f.before ∧ (x.attempt.executed = [] →
      f.answer = x.answer ∧ ∀ k ∈ x.attempt.ticket.action.key?,
        f.after.snapshots.find? k = f.before.snapshots.find? k) := by
  cases m with
  | @finish j u hu hend =>
    intro f hf x hx
    obtain rfl := List.mem_singleton.mp hf
    have hfits := hc.underway j u hu
    have hs := settles_of_waiting g (hc.waiting j) hfits.draining
    refine ⟨hfits.own x hx, fun hn => ?_⟩
    obtain ⟨e, hanswer, he, hleft⟩ := hfits.failed x hx hn
    exact ⟨hs.answer.trans (he.trans hanswer.symm), hs.kept _ hleft⟩
  | _ => simp

end CrowdStep

section Trying

variable {g : Gateway σ} {row : σ → String → Value} {c d : Crowd σ} {xs : List (Write σ)}
  {rs : List (FlushReport σ)} {j : Nat}

theorem Crowd.trying_setUnderway {v : Option (Underway σ)} {x : Write σ} :
    (c.setUnderway j v).Trying x ↔
      (∃ u ∈ v, x ∈ u.writes) ∨ ∃ k u, k ≠ j ∧ c.underway k = some u ∧ x ∈ u.writes := by
  constructor
  · rintro ⟨k, u, hu, hx⟩
    by_cases hk : k = j
    · subst hk
      exact .inl ⟨u, by simpa [setUnderway] using hu, hx⟩
    · exact .inr ⟨k, u, hk, by simpa [setUnderway, hk] using hu, hx⟩
  · rintro (⟨u, hu, hx⟩ | ⟨k, u, hk, hu, hx⟩)
    · exact ⟨j, u, by simpa [setUnderway] using hu, hx⟩
    · exact ⟨k, u, by simpa [setUnderway, hk] using hu, hx⟩

theorem Crowd.trying_iff (x : Write σ) : c.Trying x ↔
    (∃ u ∈ c.underway j, x ∈ u.writes) ∨ ∃ k u, k ≠ j ∧ c.underway k = some u ∧ x ∈ u.writes := by
  rw [← trying_setUnderway, show c.setUnderway j (c.underway j) = c by simp [setUnderway]]

/-- What a step adds to the writes is tried by a flush, and the flush that it ends is no more under
way. -/
theorem CrowdStep.trying_iff (m : CrowdStep g row c xs rs d) (x : Write σ) :
    c.Trying x ∨ x ∈ xs ↔ (∃ f ∈ rs, x ∈ f.writes) ∨ d.Trying x := by
  cases m with
  | @begin j hidle hq =>
    rw [Crowd.trying_iff (j := j), Crowd.begin, Crowd.trying_setUnderway]
    simp [hidle]
  | @advance j u a rest hu hr hleft =>
    rw [Crowd.trying_iff (j := j), Crowd.advance, Crowd.trying_setUnderway]
    simp only [hu, Option.mem_def, Option.some.injEq, exists_eq_left', List.mem_append,
      List.not_mem_nil, false_and, exists_false, false_or]
    exact or_right_comm
  | @finish j u hu hend =>
    have hd : (c.finish g j u).Trying x ↔ (c.setUnderway j none).Trying x := Iff.rfl
    rw [hd, Crowd.trying_iff (j := j), Crowd.trying_setUnderway]
    simp [hu, Crowd.report]
  | _ =>
    simp only [List.not_mem_nil, or_false, false_and, exists_false, false_or]
    rfl

end Trying

namespace CrowdRun

variable {g : Gateway σ} {row : σ → String → Value} {start c : Crowd σ} {ws : List (Write σ)}
  {fs : List (FlushReport σ)} {j : Nat} {configs : Nat → SessionConfig} {w : Workspace σ}

theorem waits (hrun : CrowdRun g row start ws fs c) (hstart : start.Waits) : c.Waits := by
  induction hrun with
  | start => exact hstart
  | step _ m ih => exact (m.waits ih).2

theorem fails_of_mem (hrun : CrowdRun g row start ws fs c) (hstart : start.Waits) :
    ∀ f ∈ fs, ∀ x ∈ f.writes, x.session = f.before ∧ (x.attempt.executed = [] →
      f.answer = x.answer ∧ ∀ k ∈ x.attempt.ticket.action.key?,
        f.after.snapshots.find? k = f.before.snapshots.find? k) := by
  induction hrun with
  | start => simp
  | step h m ih =>
    intro f hf
    rcases List.mem_append.mp hf with hf | hf
    · exact ih f hf
    · exact m.fails_of_mem (h.waits hstart) f hf

/-- All that was tried is part of a flush that came to its end or is under way. -/
theorem trying_iff (hrun : CrowdRun g row (.fresh configs w) ws fs c) (x : Write σ) :
    x ∈ ws ↔ (∃ f ∈ fs, x ∈ f.writes) ∨ c.Trying x := by
  induction hrun with
  | start => simp [Crowd.Trying, Crowd.fresh]
  | step h m ih =>
    rw [List.mem_append, ih, or_assoc, m.trying_iff x]
    simp only [List.mem_append, or_and_right, exists_or, or_assoc]

/-- Steps of a drain that nothing interrupts. -/
theorem drain (n : Nat) {u : Underway σ} (hrun : CrowdRun g row start ws fs c)
    (hu : c.underway j = some u) :
    ∃ xs v, v.drained = (g.advances n (u.drained, c.space)).1 ∧
      CrowdRun g row start (ws ++ xs) fs
        ({ c with space := (g.advances n (u.drained, c.space)).2 }.setUnderway j (some v)) := by
  induction n generalizing ws c u with
  | zero =>
    refine ⟨[], u, rfl, ?_⟩
    have hsame : c.setUnderway j (some u) = c := by
      rw [← hu, Crowd.setUnderway, Function.update_eq_self]
    simpa [Gateway.advances, hsame] using hrun
  | succ n ih =>
    rw [g.advances_succ]
    have hstop (hsame : g.advance u.drained c.space = (u.drained, c.space)) := by
      have hrest := ih hrun hu
      rwa [← hsame] at hrest
    cases hr : u.drained.result with
    | error e => exact hstop (g.advance_of_stopped hr _)
    | ok r =>
      cases hleft : u.drained.left with
      | nil => exact hstop (by simp [Gateway.advance, hr, hleft])
      | cons a rest =>
        have hnext : CrowdRun g row start (ws ++ [c.write g j u.drained.outcome a]) fs
            (c.advance g j u a) := by
          simpa using hrun.step (.advance hu hr hleft)
        obtain ⟨xs, v, hv, hrest⟩ := ih hnext (Function.update_self j _ _)
        refine ⟨[c.write g j u.drained.outcome a] ++ xs, v, hv, ?_⟩
        simpa [Crowd.advance, Crowd.setUnderway, List.append_assoc] using hrest

/-- A flush that nothing interrupts takes a crowd where the flush of the session takes it. -/
theorem flush (hrun : CrowdRun g row start ws fs c) (hstart : start.Waits)
    (hidle : c.underway j = none) (hq : (c.sessions j).queue.actions ≠ []) :
    ∃ xs f, f.answer = (flushActions g (c.state j)).1 ∧
      CrowdRun g row start (ws ++ xs) (fs ++ [f]) (c.put j (flushActions g (c.state j)).2) := by
  have hs := (hrun.waits hstart).waiting j
  have hbegun : CrowdRun g row start ws fs (c.begin j) := by
    simpa using hrun.step (.begin hidle hq)
  obtain ⟨xs, v, hv, hdrained⟩ :=
    hbegun.drain (c.sessions j).queue.ordered.length (Function.update_self j _ _)
  have hsound : ∀ a ∈ (c.sessions j).queue.ordered, a.Sound c.space :=
    fun a ha => hs.valid.actions a (ActionQueue.mem_ordered.mp ha)
  have hall := (g.performAll_drains hsound {}).all
  rw [g.performAll_eq_advances] at hall
  have hend : v.drained.left = [] ∨ ∃ e, v.drained.result = .error e := by
    rw [hv]
    cases hr : (g.advances _ _).1.result with
    | error e => exact .inr ⟨e, rfl⟩
    | ok r => exact .inl (hall hr)
  have hended := hdrained.step (.finish (j := j) (Function.update_self j _ _) hend)
  rw [flushActions_eq_steps g (s := c.state j) hq]
  dsimp only [Crowd.state]
  obtain ⟨drained, tried⟩ := v
  subst hv
  have hidle' : Function.update c.underway j none = c.underway := by
    rw [← hidle, Function.update_eq_self]
  simp only [Crowd.finish, Crowd.setUnderway, Crowd.begin, Crowd.put, Crowd.state,
    Function.update_idem, hidle', List.append_nil] at hended
  exact ⟨xs, _, rfl, hended⟩

end CrowdRun

end EntityMapper
