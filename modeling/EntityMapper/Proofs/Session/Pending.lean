import EntityMapper.Proofs.Flush.Attempts
import EntityMapper.Proofs.Session.Coherence
import EntityMapper.Proofs.Session.Frames
import Mathlib.Data.List.Induction
/-! Pending writes: what becomes of the actions that any run of a session puts into its queue. -/

namespace EntityMapper

variable {σ : Type}

open Session Operation SessionState

namespace SessionCall

variable (g : Gateway σ)

/-- The state in which queued actions are performed or dropped, if an operation does so. What the
operation queues itself is in the queue by then. -/
def prepared (c : SessionCall) (s : SessionState σ) : SessionState σ :=
  match c with
  | persistDeferred _ | remove _ | dirtyCheck => (c.run g s).2
  | close => (Session.dirtyCheck g s).2
  | _ => s

/-- Whether an operation performs the queued actions. -/
def flushes (c : SessionCall) (s : SessionState σ) : Bool :=
  !s.session.closed && match c with
    | flush => true
    | commit => s.session.active
    | close => (Session.dirtyCheck g s).1.isOk
    | _ => false

/-- Whether an operation drops the queued actions: it rolls a transaction back. -/
def discards (c : SessionCall) (s : SessionState σ) : Bool :=
  !s.session.closed && match c with
    | rollback => s.session.active
    | _ => false

variable {g} {s : SessionState σ} {c : SessionCall}

theorem rollback_of_discards (h : c.discards s = true) :
    c = .rollback ∧ s.session.active = true ∧ s.session.closed = false := by
  unfold discards at h
  cases c <;> simp_all

variable (g)

/-- Until the queued actions are performed or dropped, the queue only grows. -/
theorem more_prepared (c : SessionCall) (s : SessionState σ) : MoreQueued s (c.prepared g s) := by
  cases c with
  | persistDeferred i => exact ((frame_moreQueued g).persistDeferred more_enqueue i).map s
  | remove h => exact (within_remove (fun e => more_enqueue (.remove e)) h).map s
  | dirtyCheck => exact ((frame_moreQueued g).dirtyCheck more_enqueue).map s
  | close => exact (frame_moreQueued g).dirtyCheck more_enqueue s
  | _ => exact List.prefix_refl _

theorem queue_commit (ho : s.session.closed = false) :
    (Session.commit g s).2.session.queue =
      if s.session.active then ⟨(drained g s).1.left⟩ else s.session.queue := by
  cases ha : s.session.active with
  | false =>
    rw [commit_apply g ho, ha]
    rfl
  | true =>
    rw [if_pos rfl]
    exact (commit_within (same_takeStep g .commit false _) ho ha).trans (queue_flushActions g s)

theorem queue_rollback (ho : s.session.closed = false) :
    (Session.rollback g s).2.session.queue =
      if s.session.active then {} else s.session.queue := by
  rw [rollback_apply g ho]
  cases s.session.active with
  | false => rfl
  | true => exact same_takeStep g .rollback false _ _

theorem queue_close (ho : s.session.closed = false) :
    (Session.close g s).2.session.queue =
      if (Session.dirtyCheck g s).1.isOk then ⟨(drained g (Session.dirtyCheck g s).2).1.left⟩
      else (Session.dirtyCheck g s).2.session.queue := by
  rcases hr : Session.dirtyCheck g s with ⟨e | n, t⟩
  · rw [close_of_unchecked g ho hr]
    rfl
  · obtain ⟨events, hclose⟩ := close_of_checked g ho hr
    have hflush := queue_flushActions g t
    rw [if_pos (by rfl), hclose]
    rcases hf : flushActions g t with ⟨e | u, v⟩ <;> rw [hf] at hflush <;> exact hflush

/-- What an operation leaves of the queue, as soon as its own actions are in it. -/
theorem queue_run (c : SessionCall) (s : SessionState σ) :
    (c.run g s).2.session.queue =
      if c.flushes g s then ⟨(drained g (c.prepared g s)).1.left⟩
      else if c.discards s then {}
      else (c.prepared g s).session.queue := by
  cases hc : s.session.closed with
  | true =>
    have hprepared : c.prepared g s = s := by
      cases c with
      | persistDeferred i => exact congrArg Prod.snd (run_of_closed g hc _)
      | remove h => exact congrArg Prod.snd (run_of_closed g hc _)
      | dirtyCheck => exact congrArg Prod.snd (run_of_closed g hc _)
      | close => exact congrArg Prod.snd (bind_of_closed hc _)
      | _ => rfl
    rw [run_of_closed g hc, hprepared]
    simp [flushes, discards, hc]
  | false =>
    simp only [flushes, discards, hc, Bool.not_false, Bool.true_and]
    cases c with
    | persist i => exact ((frame_sameQueue g).persist i).map s
    | persistDeferred i => rfl
    | merge i => exact ((frame_sameQueue g).merge i).map s
    | remove h => rfl
    | dirtyCheck => rfl
    | flush =>
      simp only [run, map_apply, Session.flush, bind_of_open hc]
      exact queue_flushActions g s
    | close =>
      simp only [run, map_apply]
      exact queue_close g hc
    | begin => exact (within_begin (same_takeStep g .start true _)).map s
    | commit =>
      simp only [run, map_apply]
      exact queue_commit g hc
    | rollback =>
      simp only [run, map_apply]
      exact queue_rollback g hc
    | findById _ _ | findBy _ _ _ | findAllBy _ _ _ | nativeBy _ _ _ | nativeAll _ _ _
    | queryBy _ _ | queryAll _ _ => exact (frame_sameQueue g).search rfl s

end SessionCall

/-- What happens around a session. -/
inductive LedgerStep (σ : Type) where
  | call (c : SessionCall)
  /-- Something else changes the workspace between two operations. -/
  | turn (w : Workspace σ)

/-- An action that was dropped, with the operation that dropped it and the state before that. -/
structure Discard (σ : Type) where
  ticket : Ticket
  call : SessionCall
  before : SessionState σ

/-- What the operation that dropped an action answered. -/
def Discard.answer (g : Gateway σ) (d : Discard σ) : Except Error SessionAnswer :=
  (d.call.run g d.before).1

/-- A session whose queued actions carry numbers, with all that has become of them. -/
structure SessionLedger (σ : Type) where
  state : SessionState σ
  /-- All actions that were ever put into the queue. -/
  issued : List Ticket
  waiting : List Ticket
  attempts : List (Attempt σ) := []
  dropped : List (Discard σ) := []

namespace Ticket

/-- Actions with numbers from a given one on. -/
def numbered (n : Nat) (actions : List Action) : List Ticket :=
  (actions.zipIdx n).map fun p => ⟨p.2, p.1⟩

@[simp] theorem map_action_numbered (n : Nat) (actions : List Action) :
    (numbered n actions).map (·.action) = actions := by
  simp [numbered, Function.comp_def]

@[simp] theorem map_number_numbered (n : Nat) (actions : List Action) :
    (numbered n actions).map (·.number) = List.range' n actions.length := by
  simp [numbered, Function.comp_def]

@[simp] theorem length_numbered (n : Nat) (actions : List Action) :
    (numbered n actions).length = actions.length := by
  simp [numbered]

end Ticket

def LedgerStep.run (g : Gateway σ) (s : SessionState σ) : LedgerStep σ → SessionState σ
  | call c => (c.run g s).2
  | turn w => { s with space := w }

namespace SessionLedger

variable (g : Gateway σ)

def start (s : SessionState σ) : SessionLedger σ where
  state := s
  issued := Ticket.numbered 0 s.session.queue.actions
  waiting := Ticket.numbered 0 s.session.queue.actions

/-- Puts actions at the end of those that wait. -/
def issue (l : SessionLedger σ) (actions : List Action) : SessionLedger σ :=
  { l with
    issued := l.issued ++ Ticket.numbered l.issued.length actions
    waiting := l.waiting ++ Ticket.numbered l.issued.length actions }

/-- Performs what waits, in a given workspace. -/
def settle (l : SessionLedger σ) (w : Workspace σ) : SessionLedger σ :=
  let trail := g.attemptAll (Ticket.ordered l.waiting) {} w
  { l with waiting := trail.left, attempts := l.attempts ++ trail.attempts }

/-- Drops what waits. -/
def discard (l : SessionLedger σ) (c : SessionCall) (s : SessionState σ) : SessionLedger σ :=
  { l with waiting := [], dropped := l.dropped ++ l.waiting.map (⟨·, c, s⟩) }

/-- What an operation puts into the queue. -/
def added (c : SessionCall) (s : SessionState σ) : List Action :=
  (c.prepared g s).session.queue.actions.drop s.session.queue.actions.length

def note (l : SessionLedger σ) (step : LedgerStep σ) : SessionLedger σ :=
  match step with
  | .turn w => { l with state := { l.state with space := w } }
  | .call c =>
    let queued := l.issue (added g c l.state)
    let ended :=
      if c.flushes g l.state then queued.settle g (c.prepared g l.state).space
      else if c.discards l.state then queued.discard c l.state
      else queued
    { ended with state := (c.run g l.state).2 }

/-- The ledger of a session after any number of steps from a given state. -/
def after (s : SessionState σ) (steps : List (LedgerStep σ)) : SessionLedger σ :=
  steps.foldl (note g) (start s)

variable {g} (l : SessionLedger σ)

def settled (g : Gateway σ) : List Ticket :=
  (l.attempts.filter (·.isSettled g)).map (·.ticket)

/-- Each action that was ever queued is once among those that wait, those that were carried out
and those that were dropped. -/
structure Balanced (g : Gateway σ) : Prop where
  numbers : l.issued.map (·.number) = List.range l.issued.length
  shares : (l.waiting ++ (l.settled g ++ l.dropped.map (·.ticket))).Perm l.issued
  made : ∀ a ∈ l.attempts, ∃ t o w, a = g.attempt t o w
  rolledBack : ∀ d ∈ l.dropped, d.call = .rollback ∧ d.before.session.active = true

variable {l}

theorem Balanced.issue (h : l.Balanced g) (actions : List Action) :
    (l.issue actions).Balanced g := by
  refine ⟨?_, ?_, h.made, h.rolledBack⟩
  · simp only [SessionLedger.issue, List.map_append, h.numbers, Ticket.map_number_numbered,
      List.length_append, Ticket.length_numbered, List.range_eq_range']
    rw [← List.range'_append_1, Nat.zero_add]
  refine List.Perm.trans ?_ (h.shares.append_right _)
  change (l.waiting ++ Ticket.numbered l.issued.length actions ++
    (l.settled g ++ l.dropped.map (·.ticket))).Perm _
  rw [List.append_assoc, List.append_assoc]
  exact List.perm_append_comm.append_left _

theorem Balanced.settle (h : l.Balanced g) (w : Workspace σ) : (l.settle g w).Balanced g := by
  refine ⟨h.numbers, ?_, fun a ha => ?_, h.rolledBack⟩
  · have ht := (g.attemptAll_perm (Ticket.ordered l.waiting) {} w).trans
      (Ticket.ordered_perm l.waiting)
    refine List.Perm.trans ?_ (((ht.append_right _)).trans h.shares)
    simp only [SessionLedger.settle, settled, List.filter_append, List.map_append,
      List.append_assoc]
    refine List.Perm.append_left _ ?_
    rw [← List.append_assoc, ← List.append_assoc]
    exact List.perm_append_comm.append_right _
  · rcases List.mem_append.mp ha with ha | ha
    · exact h.made a ha
    · exact g.mem_attemptAll _ _ _ a ha

theorem Balanced.discard (h : l.Balanced g) {c : SessionCall} {s : SessionState σ}
    (hc : c.discards s = true) : (l.discard c s).Balanced g := by
  refine ⟨h.numbers, ?_, h.made, fun d hd => ?_⟩
  · refine List.Perm.trans ?_ h.shares
    simp only [SessionLedger.discard, settled, List.map_append, List.map_map, Function.comp_def,
      List.map_id', List.nil_append]
    rw [← List.append_assoc]
    exact List.perm_append_comm
  · rcases List.mem_append.mp hd with hd | hd
    · exact h.rolledBack d hd
    · obtain ⟨t, -, rfl⟩ := List.mem_map.mp hd
      obtain ⟨hcall, hactive, -⟩ := SessionCall.rollback_of_discards hc
      exact ⟨hcall, hactive⟩

theorem Balanced.note (h : l.Balanced g) (step : LedgerStep σ) : (l.note g step).Balanced g := by
  cases step with
  | turn w => exact ⟨h.numbers, h.shares, h.made, h.rolledBack⟩
  | call c =>
    have hqueued := h.issue (added g c l.state)
    have hended : (if c.flushes g l.state then
          (l.issue (added g c l.state)).settle g (c.prepared g l.state).space
        else if c.discards l.state then (l.issue (added g c l.state)).discard c l.state
        else l.issue (added g c l.state)).Balanced g := by
      split
      · exact hqueued.settle _
      · split
        · exact hqueued.discard ‹_›
        · exact hqueued
    exact ⟨hended.numbers, hended.shares, hended.made, hended.rolledBack⟩

/-- A ledger says of the queue what is true of it. -/
def Faithful (l : SessionLedger σ) : Prop :=
  Ticket.queue l.waiting = l.state.session.queue

theorem Faithful.note (h : l.Faithful) (step : LedgerStep σ) : (l.note g step).Faithful := by
  cases step with
  | turn w => exact h
  | call c =>
    have hqueued : Ticket.queue (l.issue (added g c l.state)).waiting =
        (c.prepared g l.state).session.queue := by
      obtain ⟨more, hmore⟩ := c.more_prepared g l.state
      have hadded : added g c l.state = more := by
        rw [added, ← hmore, List.drop_left]
      have hwaiting : l.waiting.map (·.action) = l.state.session.queue.actions :=
        congrArg ActionQueue.actions h
      simp only [Ticket.queue, SessionLedger.issue, List.map_append, Ticket.map_action_numbered,
        hwaiting, hadded, hmore]
    unfold Faithful SessionLedger.note
    dsimp only
    rw [c.queue_run]
    split
    · simp only [drained, settle, ← hqueued, g.drain_queue, g.performAll_map]
      rfl
    · split
      · rfl
      · exact hqueued

theorem state_note (step : LedgerStep σ) : (l.note g step).state = step.run g l.state := by
  cases step <;> rfl

theorem after_append (s : SessionState σ) (steps : List (LedgerStep σ)) (step : LedgerStep σ) :
    after g s (steps ++ [step]) = (after g s steps).note g step := by
  simp [after]

theorem after_state (s : SessionState σ) (steps : List (LedgerStep σ)) :
    (after g s steps).state = steps.foldl (LedgerStep.run g) s := by
  induction steps using List.reverseRecOn with
  | nil => rfl
  | append_singleton steps step ih =>
    rw [after_append, state_note, ih, List.foldl_append]
    rfl

theorem after_faithful (s : SessionState σ) (steps : List (LedgerStep σ)) :
    (after g s steps).Faithful := by
  induction steps using List.reverseRecOn with
  | nil => exact congrArg ActionQueue.mk (Ticket.map_action_numbered 0 _)
  | append_singleton steps step ih =>
    rw [after_append]
    exact ih.note step

theorem after_balanced (s : SessionState σ) (steps : List (LedgerStep σ)) :
    (after g s steps).Balanced g := by
  induction steps using List.reverseRecOn with
  | nil =>
    exact ⟨by simp [after, start, List.range_eq_range'], by simp [after, start, settled],
      by simp [after, start], by simp [after, start]⟩
  | append_singleton steps step ih =>
    rw [after_append]
    exact ih.note step

/-- Whatever happens around a session, each action that was ever put into its queue, all of them
with numbers of their own, still waits there, or it was carried out, or a transaction was rolled
back while it waited. -/
theorem no_write_lost (g : Gateway σ) (s : SessionState σ) (steps : List (LedgerStep σ))
    {t : Ticket} (ht : t ∈ (after g s steps).issued) :
    (after g s steps).state = steps.foldl (LedgerStep.run g) s ∧
      Ticket.queue (after g s steps).waiting = (after g s steps).state.session.queue ∧
      ((after g s steps).issued.map (·.number)).Nodup ∧
      (t ∈ (after g s steps).waiting ∨
        (∃ a ∈ (after g s steps).attempts, a.ticket = t ∧ (∃ o w, a = g.attempt t o w) ∧
          a.executed ≠ []) ∨
        ∃ d ∈ (after g s steps).dropped, d.ticket = t ∧ d.call = .rollback ∧
          d.before.session.active = true) := by
  have hb : (after g s steps).Balanced g := after_balanced s steps
  refine ⟨after_state s steps, after_faithful s steps, hb.numbers ▸ List.nodup_range, ?_⟩
  rcases List.mem_append.mp (hb.shares.mem_iff.mpr ht) with hw | hgone
  · exact .inl hw
  rcases List.mem_append.mp hgone with hs | hd
  · obtain ⟨a, ha, rfl⟩ := List.mem_map.mp hs
    obtain ⟨ha, hsettled⟩ := List.mem_filter.mp ha
    obtain ⟨t, o, w, rfl⟩ := hb.made a ha
    refine .inr (.inl ⟨_, ha, rfl, ⟨o, w, rfl⟩, fun hnone => ?_⟩)
    have hlen := (g.attempt_ends t o w).length_executed
    rw [show g.settles w t.action (g.attempt t o w).exchanges = true from hsettled,
      show (g.attempt t o w).exchanges.filter (·.isAcceptedWrite) = [] from hnone] at hlen
    simp at hlen
    omega
  · obtain ⟨d, hdropped, rfl⟩ := List.mem_map.mp hd
    exact .inr (.inr ⟨d, hdropped, rfl, hb.rolledBack d hdropped⟩)

end SessionLedger

namespace SampleSession

/-- A session in a store that does not carry out the second statement. -/
def unlucky : SessionState Script :=
  ⟨{}, { store := { answers := [{}, { failure := some (.store .connection "gone") }] } }⟩

/-- A tag is queued in a transaction that is rolled back. -/
def abandon : List (LedgerStep Script) :=
  [.call .begin, .call (.persistDeferred (.initial SampleTypes.tag)), .call .rollback]

/-- A queued tag that is not written. -/
def abandoned : Ticket :=
  ⟨0, .persist 0 false⟩

theorem no_write_lost_abandoned :
    abandoned ∈ (SessionLedger.after gateway unlucky abandon).issued ∧
      ∃ d ∈ (SessionLedger.after gateway unlucky abandon).dropped, d.ticket = abandoned ∧
        d.call = .rollback ∧ d.before.session.active = true := by
  have ht : abandoned ∈ (SessionLedger.after gateway unlucky abandon).issued :=
    List.mem_singleton_self _
  obtain ⟨-, -, -, hw | ⟨a, ha, -⟩ | hd⟩ := SessionLedger.no_write_lost gateway unlucky abandon ht
  · cases hw
  · cases ha
  · exact ⟨ht, hd⟩

/-- A rollback that fails has dropped what was queued. -/
theorem dropped_without_rollback :
    ¬ ∀ t ∈ (SessionLedger.after gateway unlucky abandon).issued,
      t ∈ (SessionLedger.after gateway unlucky abandon).waiting ∨
        (∃ a ∈ (SessionLedger.after gateway unlucky abandon).attempts, a.ticket = t ∧
          a.executed ≠ []) ∨
        ∃ d ∈ (SessionLedger.after gateway unlucky abandon).dropped, d.ticket = t ∧
          (d.answer gateway).isOk = true := by
  intro h
  have hrefused : ∀ d ∈ (SessionLedger.after gateway unlucky abandon).dropped,
      (d.answer gateway).isOk = false := by
    have hall : (SessionLedger.after gateway unlucky abandon).dropped.all
        (fun d => !(d.answer gateway).isOk) = true := by decide
    simpa using hall
  obtain hw | ⟨a, ha, -⟩ | ⟨d, hd, -, hok⟩ := h abandoned (List.mem_singleton_self _)
  · cases hw
  · cases ha
  · rw [hrefused d hd] at hok
    cases hok

end SampleSession

end EntityMapper
