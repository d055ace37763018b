import EntityMapper.Proofs.Session.Frames
import EntityMapper.Proofs.Session.History
import EntityMapper.Proofs.Sql.Wire
import EntityMapper.Scenario.Catalogue
import Mathlib.Data.List.Induction
import Mathlib.Logic.Function.Basic
/-! Transacting: sessions over one link, the link and its database agree on whether a transaction is
open. -/

namespace EntityMapper

variable {σ δ : Type}

open Session Operation SessionState

/-- The transaction of a session is as before, and nothing was done over the connection apart from
single statements. -/
def SessionState.Untouched (c : Connection σ) (s t : SessionState σ) : Prop :=
  t.session.active = s.session.active ∧ c.Asked s.space.store t.space.store

instance (c : Connection σ) : IsPreorder (SessionState σ) (Untouched c) where
  refl _ := ⟨rfl, .refl⟩
  trans _ _ _ h h' := ⟨h'.1.trans h.1, h.2.trans h'.2⟩

/-- The transaction step that an operation is about. -/
def SessionCall.step? : SessionCall → Option TransactionStep
  | begin => some .start
  | commit => some .commit
  | rollback => some .rollback
  | _ => none

namespace Session

variable (g : Gateway σ)

theorem frame_untouched : Frame g (Untouched g.connection) where
  work hx s := ⟨rfl, hx s.space⟩
  know hf s := ⟨(hf s.session).2, .refl⟩

theorem untouched_change {f : Session → Session} (hf : ∀ s, (f s).active = s.active) :
    Within (Untouched g.connection) (change f : Operation σ Unit) :=
  fun s => ⟨hf s.session, .refl⟩

theorem untouched_enqueue (a : Action) :
    Within (Untouched g.connection) (enqueue a : Operation σ Unit) :=
  ((frame_untouched g).note _ _).bind fun _ => untouched_change g fun _ => rfl

theorem untouched_flushActions : Within (Untouched g.connection) (flushActions g) := by
  have h := frame_untouched g
  refine Within.session.bind fun s => ?_
  dsimp only
  split
  · exact .pure _
  · exact (h.work (g.plain_drain _ _)).bind fun d => .bind (untouched_change g fun _ => rfl)
      fun _ => (h.reconcile _).bind fun _ => (h.lift _).bind fun _ => h.note _ _

theorem untouched_close : Within (Untouched g.connection) (close g) := by
  have h := frame_untouched g
  have hshut : Within (Untouched g.connection) (do
      change fun s => { s with map := .empty, snapshots := .empty, closed := true }
      note .info "Session closed" : Operation σ Unit) :=
    (h.know fun _ => ⟨rfl, rfl⟩).bind fun _ => h.note _ _
  refine Within.ensureOpen.bind fun _ => (h.dirtyCheck (untouched_enqueue g)).bind fun _ =>
    (untouched_flushActions g).bind fun _ => Within.session.bind fun s => ?_
  split
  · exact (h.note _ _).bind fun _ => hshut
  · exact hshut

/-- Operations that are not about transactions leave the transaction alone. -/
theorem untouched_run {x : SessionCall} (hx : x.step? = none) :
    Within (Untouched g.connection) (x.run g) := by
  have h := frame_untouched g
  cases x with
  | persist i => exact (h.persist i).map
  | persistDeferred i => exact (h.persistDeferred (untouched_enqueue g) i).map
  | merge i => exact (h.merge i).map
  | remove k => exact (within_remove (fun e => untouched_enqueue g (.remove e)) k).map
  | dirtyCheck => exact (h.dirtyCheck (untouched_enqueue g)).map
  | flush => exact (Within.ensureOpen.bind fun _ => untouched_flushActions g).map
  | close => exact (untouched_close g).map
  | findById _ _ | findBy _ _ _ | findAllBy _ _ _ | nativeBy _ _ _ | nativeAll _ _ _
  | queryBy _ _ | queryAll _ _ => exact h.search rfl
  | begin | commit | rollback => cases hx

/-- A transaction step that succeeds is followed by a change of the transaction and a notice. -/
theorem takeStep_ends (step : TransactionStep) (active : Bool) (message : String)
    (s : SessionState σ) :
    let r := g.connection.transact step s.space.store
    let t := (takeStep g step active message s).2
    t.space.store = r.2 ∧ t.session.active = if r.1.isOk then active else s.session.active := by
  obtain ⟨-, hstore⟩ := g.transact_frame step s.space
  have hanswer := g.transact_answer step s.space
  dsimp only
  rw [← hstore, ← hanswer, takeStep_apply]
  rcases g.transact step s.space with ⟨e | u, w⟩ <;> exact ⟨rfl, rfl⟩

/-- What an operation does to the transaction of its session and over the connection. -/
inductive Acts (x : SessionCall) (s t : SessionState σ) : Prop
  /-- It makes no transaction step. -/
  | untouched (h : Untouched g.connection s t)
  /-- It makes a transaction step at the end, if the step fits the session. -/
  | steps {u : SessionState σ} {step : TransactionStep} (hx : x.step? = some step)
    (hfit : s.session.active = (step != .start)) (hu : Untouched g.connection s u)
    (hflush : step = .commit → flushActions g s = (.ok (), u))
    (hstore : t.space.store = (g.connection.transact step u.space.store).2)
    (hactive : t.session.active =
      if (g.connection.transact step u.space.store).1.isOk then step == .start
      else s.session.active)

variable {s : SessionState σ}

theorem acts_begin (ho : s.session.closed = false) : Acts g .begin s (begin g s).2 := by
  rw [begin_apply g ho]
  cases ha : s.session.active with
  | true =>
    rw [if_pos rfl]
    exact .untouched ⟨rfl, .refl⟩
  | false =>
    rw [if_neg (by simp)]
    obtain ⟨hstore, hactive⟩ := takeStep_ends g .start true "Transaction started" s
    exact .steps rfl ha ⟨rfl, .refl⟩ nofun hstore hactive

theorem acts_commit (ho : s.session.closed = false) : Acts g .commit s (commit g s).2 := by
  have huntouched := untouched_flushActions g s
  cases ha : s.session.active with
  | false =>
    rw [commit_apply g ho, ha]
    exact .untouched ⟨rfl, .refl⟩
  | true =>
    rcases hf : flushActions g s with ⟨f | u, t⟩ <;> rw [hf] at huntouched
    · rw [commit_of_failed g ho ha hf]
      exact .untouched huntouched
    · obtain ⟨hstore, hactive⟩ := takeStep_ends g .commit false "Transaction committed" t
      rw [commit_of_flushed g ho ha hf]
      refine .steps rfl ha huntouched (fun _ => hf) hstore ?_
      rw [hactive, huntouched.1]
      rfl

theorem acts_rollback (ho : s.session.closed = false) : Acts g .rollback s (rollback g s).2 := by
  rw [rollback_apply g ho]
  cases ha : s.session.active with
  | false => exact .untouched ⟨rfl, .refl⟩
  | true =>
    rw [if_pos rfl]
    obtain ⟨hstore, hactive⟩ := takeStep_ends g .rollback false "Transaction rolled back"
      ⟨{ s.session with queue := {} }, s.space⟩
    exact .steps rfl ha (u := ⟨{ s.session with queue := {} }, s.space⟩) ⟨rfl, .refl⟩ nofun
      hstore hactive

theorem acts_run (x : SessionCall) (s : SessionState σ) : Acts g x s (x.run g s).2 := by
  cases hc : s.session.closed with
  | true =>
    rw [SessionCall.run_of_closed g hc]
    exact .untouched ⟨rfl, .refl⟩
  | false =>
    cases x with
    | begin =>
      rw [SessionCall.run, map_apply]
      exact acts_begin g hc
    | commit =>
      rw [SessionCall.run, map_apply]
      exact acts_commit g hc
    | rollback =>
      rw [SessionCall.run, map_apply]
      exact acts_rollback g hc
    | _ => exact .untouched (untouched_run g rfl s)

end Session

/-- How a session is opened. -/
structure Opening where
  catalogue : Catalogue
  config : SessionConfig := {}

def Opening.gateway (o : Opening) (c : Connection σ) : Gateway σ :=
  ⟨c, o.catalogue, o.config.showStatements⟩

/-- Runs of sessions by number that share a workspace, with all sessions and the workspace that they
lead to. -/
inductive SharedRun (c : Connection σ) (os : Nat → Opening) (w : Workspace σ) :
    (Nat → Session) → Workspace σ → Prop
  | start : SharedRun c os w (fun j => { config := (os j).config }) w
  /-- One of the sessions is asked for an operation. -/
  | call {ss v} (h : SharedRun c os w ss v) (j : Nat) (x : SessionCall) :
    SharedRun c os w
      (Function.update ss j (x.run ((os j).gateway c) ⟨ss j, v⟩).2.session)
      (x.run ((os j).gateway c) ⟨ss j, v⟩).2.space
  /-- Around the sessions shared instances and lists change, and statements are made that are no
  transaction steps. -/
  | turn {ss v u} (h : SharedRun c os w ss v) (hu : c.Asked v.store u.store) :
    SharedRun c os w ss u

namespace Sql

/-- Sessions that are active or not agree with their link and its database. -/
structure Link.Agrees (isOpen : δ → Bool) (active : Nat → Bool) (l : Link (Tapped δ)) : Prop where
  single : ∀ i j, active i = true → active j = true → i = j
  flag : l.inTransaction = true ↔ ∃ j, active j = true
  database : isOpen l.database.database = l.inTransaction
  fits : ∀ x ∈ l.database.sent, x.Fits

namespace Link.Agrees

variable {isOpen : δ → Bool} {active : Nat → Bool} {l m : Link (Tapped δ)}

theorem spoken (h : l.Agrees isOpen active) (hlm : Spoken isOpen l m)
    (hplain : ∀ x ∈ m.database.sent, x.IsPlain) : m.Agrees isOpen active where
  single := h.single
  flag := by rw [hlm.flag, h.flag]
  database := by rw [hlm.plain hplain, hlm.flag, h.database]
  fits := by
    obtain ⟨xs, hxs, htext⟩ := hlm.sent
    rw [hxs]
    intro x hx
    rcases List.mem_append.mp hx with hx | hx
    · exact h.fits x hx
    · cases x with
      | text sql before => cases htext _ hx
      | statement sql before after => trivial

/-- A step that fits its session is sent only if it fits the database. -/
theorem sent (h : l.Agrees isOpen active) {step : TransactionStep}
    (hl : l.inTransaction = (step != .start)) :
    ∀ x ∈ l.database.sent ++ [.text step.text (isOpen l.database.database)], x.Fits := by
  intro x hx
  rcases List.mem_append.mp hx with hx | hx
  · exact h.fits x hx
  · rw [List.mem_singleton.mp hx]
    exact Sent.fits_step (h.database.trans hl)

theorem stepped (h : l.Agrees isOpen active) {j : Nat} {step : TransactionStep}
    (hfit : active j = (step != .start)) {r : Except Error Unit} (hs : l.Stepped isOpen step r m) :
    m.Agrees isOpen (Function.update active j (if r.isOk then step == .start else active j)) := by
  have hsame : ∀ f, Function.update active j (if (Except.error f : Except Error Unit).isOk then
      step == .start else active j) = active :=
    fun _ => Function.update_eq_self j active
  cases hs with
  | refused hl f =>
    rw [hsame]
    exact h
  | failed hl hd f =>
    rw [hsame]
    exact ⟨h.single, h.flag, hd.trans h.database, h.sent hl⟩
  | done hl hd =>
    change Agrees isOpen (Function.update active j (step == .start)) _
    have hother : ∀ i, i ≠ j → active i = false := by
      intro i hi
      by_contra hactive
      have hactive : active i = true := by simpa using hactive
      have hflag := h.flag.mpr ⟨i, hactive⟩
      rw [hl, ← hfit] at hflag
      exact hi (h.single i j hactive hflag)
    have hnow : ∀ i, Function.update active j (step == .start) i = true →
        i = j ∧ (step == .start) = true := by
      intro i hi
      by_cases hij : i = j
      · subst hij
        exact ⟨rfl, by simpa using hi⟩
      · rw [Function.update_of_ne hij, hother i hij] at hi
        cases hi
    refine ⟨fun i k hi hk => (hnow i hi).1.trans (hnow k hk).1.symm, ⟨fun hflag => ⟨j, ?_⟩, ?_⟩,
      hd, h.sent hl⟩
    · simpa using hflag
    · rintro ⟨i, hi⟩
      exact (hnow i hi).2

end Link.Agrees

/-- An operation sends COMMIT only in order to commit, when all that was queued was just written. -/
def SendsDrained (g : Gateway (Link (Tapped δ))) (x : SessionCall)
    (s : SessionState (Link (Tapped δ))) : Prop :=
  ∃ xs, (x.run g s).2.space.store.database.sent = s.space.store.database.sent ++ xs ∧
    ∀ before, .text "COMMIT" before ∈ xs → x = .commit ∧ ∃ t, flushActions g s = (.ok (), t) ∧
      t.session.queue.actions = [] ∧ (x.run g s).2.space.store.database.sent =
        t.space.store.database.sent ++ [.text "COMMIT" before]

/-- A flush that fails in a commit is all of it: the transaction stays active, and nothing but
statements is sent. -/
def FailsActive (g : Gateway (Link (Tapped δ))) (isOpen : δ → Bool)
    (s : SessionState (Link (Tapped δ))) : Prop :=
  s.session.closed = false → s.session.active = true →
    ∀ f t, flushActions g s = (.error f, t) → commit g s = (.error f, t) ∧
      t.session.active = true ∧ s.space.store.Spoken isOpen t.space.store

variable {e : Engine δ} {isOpen : δ → Bool} {g : Gateway (Link (Tapped δ))}

theorem sendsDrained (he : e.Transacts isOpen) (hg : g.connection = (e.tapped isOpen).connection)
    (x : SessionCall) (s : SessionState (Link (Tapped δ))) : SendsDrained g x s := by
  have hspoken : ∀ {t}, Untouched g.connection s t → s.space.store.Spoken isOpen t.space.store :=
    fun h => Link.spoken_of_asked (hg ▸ h.2)
  have hnone : ∀ {xs : List Sent} {before}, (∀ x ∈ xs, x.isText = false) →
      .text "COMMIT" before ∉ xs :=
    fun h hmem => by cases h _ hmem
  cases acts_run g x s with
  | untouched h =>
    obtain ⟨xs, hxs, htext⟩ := (hspoken h).sent
    exact ⟨xs, hxs, fun before hmem => absurd hmem (hnone htext)⟩
  | @steps u step hx _ hu hflush hstore _ =>
    obtain ⟨xs, hxs, htext⟩ := (hspoken hu).sent
    have hstep := Link.stepped he step u.space.store
    rw [← hg, ← hstore] at hstep
    have hlast : (x.run g s).2.space.store.database.sent = u.space.store.database.sent ++
          [.text step.text (isOpen u.space.store.database.database)] →
        SendsDrained g x s := by
      intro hsent
      refine ⟨xs ++ [.text step.text (isOpen u.space.store.database.database)],
        by rw [hsent, hxs, List.append_assoc], fun before hmem => ?_⟩
      rcases List.mem_append.mp hmem with hmem | hmem
      · exact absurd hmem (hnone htext)
      · obtain ⟨htext, hbefore⟩ := Sent.text.inj (List.mem_singleton.mp hmem)
        have hcommit : step = .commit := by
          cases step with
          | commit => rfl
          | _ => exact absurd htext (by decide)
        have hflushed := hflush hcommit
        refine ⟨?_, u, hflushed, queue_of_flushed g hflushed, by rw [hsent, htext, hbefore]⟩
        rw [hcommit] at hx
        cases x <;> first | rfl | cases hx
    generalize hr : (g.connection.transact step u.space.store).1 = r at hstep
    generalize hm : (x.run g s).2.space.store = m at hstep
    cases hstep with
    | refused _ f =>
      exact ⟨xs, by rw [hm, hxs], fun before hmem => absurd hmem (hnone htext)⟩
    | failed _ _ f => exact hlast (by rw [hm])
    | done _ _ => exact hlast (by rw [hm])

theorem failsActive (hg : g.connection = (e.tapped isOpen).connection)
    (s : SessionState (Link (Tapped δ))) : FailsActive g isOpen s := by
  intro ho ha f t hflush
  have huntouched := untouched_flushActions g s
  rw [hflush] at huntouched
  exact ⟨commit_of_failed g ho ha hflush, huntouched.1.trans ha,
    Link.spoken_of_asked (hg ▸ huntouched.2)⟩

theorem Link.Stepped.sent {step : TransactionStep} {l m : Link (Tapped δ)} {r : Except Error Unit}
    (h : l.Stepped isOpen step r m) : l.database.sent <+: m.database.sent := by
  cases h with
  | refused => exact List.prefix_refl _
  | failed => exact List.prefix_append _ _
  | done => exact List.prefix_append _ _

/-- An operation of one of the sessions keeps the agreement. -/
theorem agrees_run (he : e.Transacts isOpen) (hg : g.connection = (e.tapped isOpen).connection)
    {active : Nat → Bool} {s : SessionState (Link (Tapped δ))} {j : Nat}
    (hj : active j = s.session.active) {x : SessionCall}
    (hplain : ∀ y ∈ (x.run g s).2.space.store.database.sent, y.IsPlain)
    (h : s.space.store.Agrees isOpen active) :
    (x.run g s).2.space.store.Agrees isOpen
      (Function.update active j (x.run g s).2.session.active) := by
  cases acts_run g x s with
  | untouched hu =>
    rw [hu.1, ← hj, Function.update_eq_self]
    exact h.spoken (Link.spoken_of_asked (hg ▸ hu.2)) hplain
  | @steps u step _ hfit hu _ hstore hactive =>
    have hstep := Link.stepped he step u.space.store
    rw [← hg, ← hstore] at hstep
    have hagrees := h.spoken (Link.spoken_of_asked (hg ▸ hu.2))
      fun y hy => hplain y (hstep.sent.subset hy)
    have hnext := hagrees.stepped (j := j) (hj.trans hfit) hstep
    rwa [hj, ← hactive] at hnext

end Sql

namespace SampleLink

open Sql

def connection : Connection (Link (Tapped Database)) :=
  (Database.engine.tapped Database.isOpen).connection

def openings : Nat → Opening :=
  fun _ => { catalogue := [SampleTypes.tag] }

def fresh : Workspace (Link (Tapped Database)) :=
  { store := { path := ":memory:", database := { database := {} } } }

/-- The sessions and their workspace after operations of one session after another. -/
def after (calls : List (Nat × SessionCall)) :
    (Nat → Session) × Workspace (Link (Tapped Database)) :=
  calls.foldl (fun p c =>
    let t := (c.2.run ((openings c.1).gateway connection) ⟨p.1 c.1, p.2⟩).2
    (Function.update p.1 c.1 t.session, t.space)) (fun j => { config := (openings j).config }, fresh)

theorem run_after (calls : List (Nat × SessionCall)) :
    SharedRun connection openings fresh (after calls).1 (after calls).2 := by
  induction calls using List.reverseRecOn with
  | nil => exact .start
  | append_singleton calls c ih =>
    rw [after, List.foldl_append]
    exact ih.call c.1 c.2

/-- There is no table, so that a write fails. The first session begins a transaction, which the
second one cannot do then, and cannot commit. Once it has rolled back, the second session begins and
commits a transaction, and then the first one begins another. -/
def calls : List (Nat × SessionCall) :=
  [(0, .begin), (1, .begin), (0, .persistDeferred (.initial SampleTypes.tag)), (0, .commit),
    (0, .rollback), (1, .begin), (1, .commit), (0, .begin)]

end SampleLink

end EntityMapper
