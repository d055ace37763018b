import EntityMapper.Proofs.Flush.Attempts
import EntityMapper.Scenario.Catalogue
import EntityMapper.Store.Scripted
import Mathlib.Data.List.Induction
/-! Ledgers: a queue over any number of flushes, and how often each of its actions takes effect. -/

namespace EntityMapper

/-- What happens to a queue. -/
inductive QueueMove (σ : Type) where
  /-- An action is put at the end. -/
  | add (a : Action)
  /-- The actions are performed, and what is written is added to an outcome. -/
  | flush (o : Outcome)
  /-- Something else changes the workspace between two flushes. -/
  | turn (w : Workspace σ)

/-- A queue with the workspace in which it is flushed. -/
structure QueueState (σ : Type) where
  queue : ActionQueue
  space : Workspace σ

/-- A queue whose actions carry numbers, with all attempts made so far. -/
structure Ledger (σ : Type) where
  waiting : List Ticket := []
  /-- The number that the next action gets. -/
  issued : Nat := 0
  attempts : List (Attempt σ) := []
  space : Workspace σ

namespace Gateway

variable {σ : Type} (g : Gateway σ)

def takeStep (s : QueueState σ) : QueueMove σ → QueueState σ
  | .add a => { s with queue := s.queue.add a }
  | .flush o => ⟨⟨(g.drain s.queue o s.space).1.left⟩, (g.drain s.queue o s.space).2⟩
  | .turn w => { s with space := w }

def noteStep (l : Ledger σ) : QueueMove σ → Ledger σ
  | .add a => { l with waiting := l.waiting ++ [⟨l.issued, a⟩], issued := l.issued + 1 }
  | .flush o =>
    let trail := g.attemptAll (Ticket.ordered l.waiting) o l.space
    { l with
      waiting := trail.left
      attempts := l.attempts ++ trail.attempts
      space := trail.space }
  | .turn w => { l with space := w }

/-- The queue after any number of steps from the empty queue. -/
def runQueue (w : Workspace σ) (steps : List (QueueMove σ)) : QueueState σ :=
  steps.foldl g.takeStep ⟨{}, w⟩

/-- The ledger after any number of steps from the empty queue. -/
def runLedger (w : Workspace σ) (steps : List (QueueMove σ)) : Ledger σ :=
  steps.foldl g.noteStep { space := w }

end Gateway

namespace Ledger

variable {σ : Type} (l : Ledger σ)

def toQueue : QueueState σ :=
  ⟨Ticket.queue l.waiting, l.space⟩

def attemptsOf (n : Nat) : List (Attempt σ) :=
  l.attempts.filter (·.ticket.number == n)

/-- The statements of an action that the store carried out. -/
def executed (n : Nat) : List Exchange :=
  (l.attemptsOf n).flatMap (·.executed)

/-- Whether the action of a number is in the queue. -/
def Waits (n : Nat) : Prop :=
  ∃ t ∈ l.waiting, t.number = n

def settled (g : Gateway σ) : List Ticket :=
  (l.attempts.filter (·.isSettled g)).map (·.ticket)

/-- Each action that was put into the queue either waits there or was carried out, and either of
these once. -/
structure Balanced (g : Gateway σ) : Prop where
  numbers : ((l.waiting ++ l.settled g).map (·.number)).Perm (List.range l.issued)
  made : ∀ a ∈ l.attempts, ∃ t o w, a = g.attempt t o w

end Ledger

namespace Gateway

variable {σ : Type} (g : Gateway σ)

theorem toQueue_noteStep (l : Ledger σ) (s : QueueMove σ) :
    (g.noteStep l s).toQueue = g.takeStep l.toQueue s := by
  cases s with
  | add a => simp [noteStep, takeStep, Ledger.toQueue, Ticket.queue, ActionQueue.add]
  | flush o =>
    simp only [noteStep, takeStep, Ledger.toQueue]
    rw [g.drain_queue, g.performAll_map]
    rfl
  | turn w => rfl

/-- A ledger says of the queue what is true of it. -/
theorem toQueue_runLedger (w : Workspace σ) (steps : List (QueueMove σ)) :
    (g.runLedger w steps).toQueue = g.runQueue w steps := by
  induction steps using List.reverseRecOn with
  | nil => rfl
  | append_singleton steps s ih =>
    simp only [runLedger, runQueue, List.foldl_append, List.foldl_cons, List.foldl_nil] at ih ⊢
    rw [toQueue_noteStep, ih]

theorem noteStep_balanced {l : Ledger σ} (h : l.Balanced g) (s : QueueMove σ) :
    (g.noteStep l s).Balanced g := by
  have hp := h.numbers
  cases s with
  | add a =>
    refine ⟨?_, h.made⟩
    have hmove : ((g.noteStep l (.add a)).waiting ++ l.settled g).Perm
        ((l.waiting ++ l.settled g) ++ [⟨l.issued, a⟩]) := by
      simp only [noteStep, List.append_assoc]
      exact List.perm_append_comm.append_left l.waiting
    have hend : (((l.waiting ++ l.settled g) ++ [Ticket.mk l.issued a]).map (·.number)).Perm
        (List.range (l.issued + 1)) := by
      rw [List.map_append, List.range_succ]
      exact hp.append_right _
    exact (hmove.map (·.number)).trans hend
  | flush o =>
    constructor
    · have ht := (g.attemptAll_perm (Ticket.ordered l.waiting) o l.space).trans
        (Ticket.ordered_perm l.waiting)
      have hmove : ((g.noteStep l (.flush o)).waiting ++ (g.noteStep l (.flush o)).settled g).Perm
          (l.waiting ++ l.settled g) := by
        simp only [noteStep, Ledger.settled, List.filter_append, List.map_append]
        refine List.Perm.trans ?_ (ht.append_right _)
        rw [List.append_assoc]
        exact List.perm_append_comm.append_left _
      exact (hmove.map (·.number)).trans hp
    · intro a ha
      rcases List.mem_append.mp ha with ha | ha
      · exact h.made a ha
      · exact g.mem_attemptAll _ _ _ a ha
  | turn w => exact ⟨hp, h.made⟩

theorem runLedger_balanced (w : Workspace σ) (steps : List (QueueMove σ)) :
    (g.runLedger w steps).Balanced g := by
  induction steps using List.reverseRecOn with
  | nil => exact ⟨.refl _, by simp [runLedger]⟩
  | append_singleton steps s ih =>
    simp only [runLedger, List.foldl_append, List.foldl_cons, List.foldl_nil] at ih ⊢
    exact g.noteStep_balanced ih s

end Gateway

namespace Ledger

variable {σ : Type} {l : Ledger σ} {g : Gateway σ} {n : Nat}

/-- The statements that were carried out settled the action or were spoilt. -/
theorem Balanced.length_executed (h : l.Balanced g) (n : Nat) :
    (l.executed n).length =
      (l.attemptsOf n).countP (·.isSettled g) + (l.attemptsOf n).countP (·.isSpoilt g) := by
  have hone : ∀ a ∈ l.attemptsOf n,
      a.executed.length = (a.isSettled g).toNat + (a.isSpoilt g).toNat := by
    intro a ha
    obtain ⟨t, o, w, rfl⟩ := h.made a (List.mem_filter.mp ha).1
    exact (g.attempt_ends t o w).length_executed
  unfold executed
  generalize l.attemptsOf n = tries at hone ⊢
  induction tries with
  | nil => rfl
  | cons a rest ih =>
    have ha := hone a List.mem_cons_self
    have hrest := ih fun b hb => hone b (List.mem_cons_of_mem a hb)
    rw [List.flatMap_cons, List.length_append, List.countP_cons, List.countP_cons, hrest, ha]
    cases a.isSettled g <;> cases a.isSpoilt g <;> simp <;> omega

/-- An action waits, or was carried out once. -/
theorem Balanced.countP_waiting_add (h : l.Balanced g) (hn : n < l.issued) :
    l.waiting.countP (·.number == n) + (l.attemptsOf n).countP (·.isSettled g) = 1 := by
  have hcount := h.numbers.count_eq n
  rw [(List.nodup_range).count, if_pos (List.mem_range.mpr hn)] at hcount
  have hsettled : (l.settled g).countP (·.number == n) =
      (l.attemptsOf n).countP (·.isSettled g) := by
    simp only [settled, attemptsOf, List.countP_map, List.countP_filter, Function.comp_def,
      Bool.and_comm]
  rw [← hsettled, ← List.countP_append, ← hcount, List.count, List.countP_map]
  rfl

end Ledger

/-- An action takes effect at most once, and is out of the queue from then on, exactly if none of
the rows added for it was given an identifier that cannot be kept. -/
theorem takesEffectOnce_iff {σ : Type} (g : Gateway σ) (w : Workspace σ)
    (steps : List (QueueMove σ)) (n : Nat) (hn : n < (g.runLedger w steps).issued) :
    (g.runLedger w steps).toQueue = g.runQueue w steps ∧
      (((g.runLedger w steps).executed n).length ≤ 1 ∧
          ((g.runLedger w steps).executed n ≠ [] → ¬ (g.runLedger w steps).Waits n) ↔
        ∀ a ∈ (g.runLedger w steps).attemptsOf n, a.isSpoilt g = false) := by
  refine ⟨g.toQueue_runLedger w steps, ?_⟩
  have hb := g.runLedger_balanced w steps
  generalize g.runLedger w steps = l at hb hn
  have hlen := hb.length_executed n
  have hone := hb.countP_waiting_add hn
  have hwaits : l.Waits n ↔ 0 < l.waiting.countP (·.number == n) := by
    simp [Ledger.Waits, List.countP_pos_iff]
  have hspoilt : (∀ a ∈ l.attemptsOf n, a.isSpoilt g = false) ↔
      (l.attemptsOf n).countP (·.isSpoilt g) = 0 := by
    simp [List.countP_eq_zero]
  rw [hspoilt, hwaits, ← List.length_pos_iff]
  omega

namespace KeylessStore

/-- Writes tags into a store that answers from a script. -/
def gateway : Gateway Script :=
  ⟨Script.connection, [SampleTypes.tag], false⟩

/-- One tag in memory, and a store whose first new row gets no identifier. -/
def space : Workspace Script :=
  { store := { answers := [{ key := some .null }] }
    heap := Heap.push {} (.initial SampleTypes.tag) }

def steps : List (QueueMove Script) :=
  [.add (.persist 0 false), .flush {}, .flush {}]

/-- The row of the tag is added twice. -/
theorem takesEffectOnce_iff_keyless :
    0 < (gateway.runLedger space steps).issued ∧
      ((gateway.runLedger space steps).executed 0).length = 2 ∧
      ¬ (((gateway.runLedger space steps).executed 0).length ≤ 1 ∧
        ((gateway.runLedger space steps).executed 0 ≠ [] →
          ¬ (gateway.runLedger space steps).Waits 0)) := by
  refine ⟨by decide, by decide, fun h => ?_⟩
  have hkept := (takesEffectOnce_iff gateway space steps 0 (by decide)).2.mp h
  have hlost : ∃ a ∈ (gateway.runLedger space steps).attemptsOf 0, a.isSpoilt gateway = true :=
    List.any_eq_true.mp (by decide)
  obtain ⟨a, ha, hspoilt⟩ := hlost
  rw [hkept a ha] at hspoilt
  cases hspoilt

end KeylessStore

end EntityMapper
