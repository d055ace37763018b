import EntityMapper.Proofs.Flush.Performing
import Mathlib.Data.List.Perm.Basic
/-! Attempts of a flush: draining a queue whose actions carry numbers, with a record of every
action that was tried. -/

namespace EntityMapper

/-- A queued action with the number under which it was put into the queue. -/
structure Ticket where
  number : Nat
  action : Action

namespace Ticket

/-- The tickets in the order in which a flush performs their actions. -/
def ordered (ts : List Ticket) : List Ticket :=
  ts.filter (·.action.kind == .persist) ++ ts.filter (·.action.kind == .merge) ++
    ts.filter (·.action.kind == .remove)

def queue (ts : List Ticket) : ActionQueue :=
  ⟨ts.map (·.action)⟩

theorem map_ordered (ts : List Ticket) : (ordered ts).map (·.action) = (queue ts).ordered := by
  simp [ordered, ActionQueue.ordered, ActionQueue.ofKind, queue, List.filter_map,
    Function.comp_def]

theorem ordered_perm (ts : List Ticket) : (ordered ts).Perm ts := by
  induction ts with
  | nil => exact .refl _
  | cons t ts ih =>
    have hcons := ih.cons t
    unfold ordered at hcons ⊢
    cases h : t.action.kind
    · simpa [h] using hcons
    · simp only [List.filter_cons, h, beq_self_eq_true, if_true, List.append_assoc, reduceCtorEq,
        beq_iff_eq, if_false] at hcons ⊢
      exact List.perm_middle.trans hcons
    · simp only [List.filter_cons, h, beq_self_eq_true, if_true, reduceCtorEq, beq_iff_eq,
        if_false] at hcons ⊢
      exact List.perm_middle.trans hcons

end Ticket

/-- The order of a queue is one of its actions. -/
theorem ActionQueue.ordered_perm (q : ActionQueue) : q.ordered.Perm q.actions := by
  have h := (Ticket.ordered_perm (q.actions.map (Ticket.mk 0))).map (·.action)
  simpa [Ticket.map_ordered, Ticket.queue, Function.comp_def] using h

namespace Gateway

variable {σ : Type} (g : Gateway σ)

/-- Whether an exchange added a row for an action although the identifier of the row cannot be
kept. -/
def loses (w : Workspace σ) : Action → Exchange → Bool
  | .persist h _, .insert _ (.ok key) => !g.canKeep w h key
  | _, _ => false

/-- Whether exchanges carried out an action and lost nothing. -/
def settles (w : Workspace σ) (a : Action) (xs : List Exchange) : Bool :=
  xs.any (·.isAcceptedWrite) && !xs.any (g.loses w a)

variable {g} {w v : Workspace σ} {o out : Outcome} {a : Action} {xs : List Exchange}
  {r : Except Error Unit}

theorem isAcceptedWrite_of_loses {x : Exchange} (h : g.loses w a x = true) :
    x.isAcceptedWrite = true := by
  unfold loses at h
  split at h
  · rfl
  · cases h

/-- A statement that was carried out settles its action, or else its row is lost. -/
theorem Performed.length_executed (h : g.Performed w v o a xs r out) :
    (xs.filter (·.isAcceptedWrite)).length =
      (g.settles w a xs).toNat + (xs.any (g.loses w a)).toNat := by
  cases h with
  | unsent e => rfl
  | @refused _ x hx e =>
    have hl : g.loses w a x = false := by
      by_contra hl
      rw [isAcceptedWrite_of_loses (Bool.not_eq_false _ ▸ hl)] at hx
      cases hx
    simp [settles, hx, hl]
  | unkept hk e => simp [settles, loses, Exchange.isAcceptedWrite, hk]
  | inserted hk he => simp [settles, loses, Exchange.isAcceptedWrite, hk]
  | updated hn r => simp [settles, loses, Exchange.isAcceptedWrite, hn]
  | deleted hn => simp [settles, loses, Exchange.isAcceptedWrite, hn]

/-- Settling an action is what makes the outcome grow. -/
theorem Performed.size_eq (h : g.Performed w v o a xs r out) :
    out.size = o.size + (g.settles w a xs).toNat := by
  cases h with
  | unsent e => rfl
  | refused hx e => simp [settles, hx]
  | unkept hk e => simp [settles, loses, hk]
  | inserted hk he => simp [settles, loses, Exchange.isAcceptedWrite, hk, Outcome.size]; omega
  | updated hn r => simp [settles, loses, Exchange.isAcceptedWrite, hn, Outcome.size]; omega
  | deleted hn => simp [settles, loses, Exchange.isAcceptedWrite, hn, Outcome.size]; omega

/-- An action that succeeds is settled. -/
theorem Performed.settles_of_ok (h : g.Performed w v o a xs (.ok ()) out) :
    g.settles w a xs = true := by
  cases h with
  | inserted hk he => simp [settles, loses, Exchange.isAcceptedWrite, hk]
  | updated hn r => simp [settles, loses, Exchange.isAcceptedWrite, hn]
  | deleted hn => simp [settles, loses, Exchange.isAcceptedWrite, hn]

end Gateway

/-- One attempt to perform the action of a ticket, with the workspaces before and after. -/
structure Attempt (σ : Type) where
  ticket : Ticket
  before : Workspace σ
  after : Workspace σ

namespace Attempt

variable {σ : Type} (a : Attempt σ)

def exchanges : List Exchange :=
  a.after.transcript.drop a.before.transcript.length

def executed : List Exchange :=
  a.exchanges.filter (·.isAcceptedWrite)

/-- Whether the attempt added a row whose identifier cannot be kept. -/
def isSpoilt (g : Gateway σ) : Bool :=
  a.exchanges.any (g.loses a.before a.ticket.action)

/-- Whether the attempt carried out the action and lost nothing. -/
def isSettled (g : Gateway σ) : Bool :=
  g.settles a.before a.ticket.action a.exchanges

end Attempt

/-- What is left of numbered actions when a drain stops, with what was tried. -/
structure Trail (σ : Type) where
  result : Except Error Unit
  left : List Ticket
  outcome : Outcome
  attempts : List (Attempt σ)
  space : Workspace σ

namespace Gateway

variable {σ : Type} (g : Gateway σ)

/-- An attempt at a ticket while a given outcome is being recorded. -/
def attempt (t : Ticket) (o : Outcome) (w : Workspace σ) : Attempt σ :=
  ⟨t, w, (g.perform t.action o w).2⟩

/-- Performs the actions of tickets in order up to the first failure, noting each attempt. -/
def attemptAll : List Ticket → Outcome → Workspace σ → Trail σ
  | [], o, w => ⟨.ok (), [], o, [], w⟩
  | t :: rest, o, w =>
    let ((result, written), v) := g.perform t.action o w
    match result with
    | .ok _ =>
      let trail := attemptAll rest written v
      { trail with attempts := g.attempt t o w :: trail.attempts }
    | .error e =>
      ⟨.error e, if written.size = o.size then t :: rest else rest, written, [g.attempt t o w],
        v.note .warn "Action failed; remaining actions stay queued"⟩

section Cons

variable {t : Ticket} {o written : Outcome} {w v : Workspace σ} (rest : List Ticket)

theorem attemptAll_cons_ok (h : g.perform t.action o w = ((.ok (), written), v)) :
    g.attemptAll (t :: rest) o w = { g.attemptAll rest written v with
      attempts := g.attempt t o w :: (g.attemptAll rest written v).attempts } := by
  simp [attemptAll, h]

theorem attemptAll_cons_error {e : Error} (h : g.perform t.action o w = ((.error e, written), v)) :
    g.attemptAll (t :: rest) o w =
      ⟨.error e, if written.size = o.size then t :: rest else rest, written, [g.attempt t o w],
        v.note .warn "Action failed; remaining actions stay queued"⟩ := by
  simp [attemptAll, h]

end Cons

/-- The numbers change nothing: without them this is a drain. -/
theorem performAll_map (ts : List Ticket) (o : Outcome) (w : Workspace σ) :
    g.performAll (ts.map (·.action)) o w =
      (⟨(g.attemptAll ts o w).result, (g.attemptAll ts o w).left.map (·.action),
        (g.attemptAll ts o w).outcome⟩, (g.attemptAll ts o w).space) := by
  induction ts generalizing o w with
  | nil => rfl
  | cons t rest ih =>
    simp only [List.map_cons, performAll, state_bind_apply]
    rcases hr : g.perform t.action o w with ⟨⟨e | u, written⟩, v⟩
    · rw [g.attemptAll_cons_error rest hr]
      by_cases hs : written.size = o.size <;> simp [hs]
    · rw [g.attemptAll_cons_ok rest hr]
      exact ih written v

theorem drain_queue (ts : List Ticket) (o : Outcome) (w : Workspace σ) :
    g.drain (Ticket.queue ts) o w = g.performAll ((Ticket.ordered ts).map (·.action)) o w := by
  rw [Ticket.map_ordered]
  rfl

/-- How an attempt at a ticket ends, in terms of what was said during it. -/
theorem attempt_ends (t : Ticket) (o : Outcome) (w : Workspace σ) :
    g.Performed w (g.attempt t o w).after o t.action (g.attempt t o w).exchanges
      (g.perform t.action o w).1.1 (g.perform t.action o w).1.2 := by
  obtain ⟨xs, ht, hp⟩ := g.perform_ends t.action o w
  have hx : (g.attempt t o w).exchanges = xs := by
    simp [Attempt.exchanges, attempt, ht]
  rw [hx]
  exact hp

/-- What is left and what was settled are together the tickets that there were. -/
theorem attemptAll_perm (ts : List Ticket) (o : Outcome) (w : Workspace σ) :
    ((g.attemptAll ts o w).left ++
      ((g.attemptAll ts o w).attempts.filter (·.isSettled g)).map (·.ticket)).Perm ts := by
  induction ts generalizing o w with
  | nil => exact .refl _
  | cons t rest ih =>
    have hp := g.attempt_ends t o w
    have hsize : (g.perform t.action o w).1.2.size =
      o.size + ((g.attempt t o w).isSettled g).toNat := hp.size_eq
    have hticket : (g.attempt t o w).ticket = t := rfl
    rcases hr : g.perform t.action o w with ⟨⟨e | u, written⟩, v⟩ <;> rw [hr] at hp hsize
    · rw [g.attemptAll_cons_error rest hr]
      by_cases hs : (g.attempt t o w).isSettled g = true
      · have hne : ¬ written.size = o.size := by simp [hsize, hs]
        simp [hne, hs, hticket]
      · have heq : written.size = o.size := by simp [hsize, hs]
        simp [heq, hs]
    · have hs : (g.attempt t o w).isSettled g = true := hp.settles_of_ok
      rw [g.attemptAll_cons_ok rest hr]
      simp only [List.filter_cons, hs, if_true, List.map_cons, hticket]
      exact List.perm_middle.trans ((ih written v).cons t)

/-- Whatever was tried was an attempt at a ticket. -/
theorem mem_attemptAll (ts : List Ticket) (o : Outcome) (w : Workspace σ) :
    ∀ a ∈ (g.attemptAll ts o w).attempts, ∃ t p u, a = g.attempt t p u := by
  induction ts generalizing o w with
  | nil => simp [attemptAll]
  | cons t rest ih =>
    intro a ha
    rcases hr : g.perform t.action o w with ⟨⟨e | u, written⟩, v⟩
    · rw [g.attemptAll_cons_error rest hr] at ha
      exact ⟨t, o, w, List.mem_singleton.mp ha⟩
    · rw [g.attemptAll_cons_ok rest hr] at ha
      rcases List.mem_cons.mp ha with rfl | ha
      · exact ⟨t, o, w, rfl⟩
      · exact ih written v a ha

theorem transcript_perform (t : Ticket) (o : Outcome) (w : Workspace σ) :
    (g.perform t.action o w).2.transcript = w.transcript ++ (g.attempt t o w).exchanges := by
  obtain ⟨xs, ht, -⟩ := g.perform_ends t.action o w
  simp [Attempt.exchanges, attempt, ht]

/-- All that a drain says over the connection is said by its attempts. -/
theorem transcript_attemptAll (ts : List Ticket) (o : Outcome) (w : Workspace σ) :
    (g.attemptAll ts o w).space.transcript =
      w.transcript ++ (g.attemptAll ts o w).attempts.flatMap (·.exchanges) := by
  induction ts generalizing o w with
  | nil => simp [attemptAll]
  | cons t rest ih =>
    have ht := g.transcript_perform t o w
    rcases hr : g.perform t.action o w with ⟨⟨e | u, written⟩, v⟩ <;> rw [hr] at ht
    · rw [g.attemptAll_cons_error rest hr]
      simpa using ht
    · rw [g.attemptAll_cons_ok rest hr]
      simp only [List.flatMap_cons, ih written v]
      rw [ht, List.append_assoc]

end Gateway

end EntityMapper
