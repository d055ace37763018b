import EntityMapper.Proofs.Flush.Attempts
/-! How a drain splits a queue: the actions that it performs, with the statement that each of them
makes and what is recorded of it, and the actions that are left. -/

namespace EntityMapper

namespace ActionQueue

variable {persists merges removes : List Action}

/-- Actions that stand by kind are in order. -/
theorem ordered_of_kinds (hp : ∀ a ∈ persists, a.kind = .persist)
    (hm : ∀ a ∈ merges, a.kind = .merge) (hr : ∀ a ∈ removes, a.kind = .remove) :
    (⟨persists ++ merges ++ removes⟩ : ActionQueue).ordered = persists ++ merges ++ removes := by
  have pick : ∀ {l : List Action} {k : ActionKind}, (∀ a ∈ l, a.kind = k) →
      ∀ k', l.filter (·.kind == k') = if k = k' then l else [] := by
    intro l k hl k'
    by_cases hk : k = k'
    · rw [if_pos hk, List.filter_eq_self]
      intro a ha
      simp [hl a ha, hk]
    · rw [if_neg hk, List.filter_eq_nil_iff]
      intro a ha
      simp [hl a ha, hk]
  simp [ordered, ofKind, pick hp, pick hm, pick hr]

theorem kind_of_mem_ofKind {q : ActionQueue} {k : ActionKind} {a : Action} (h : a ∈ q.ofKind k) :
    a.kind = k := by
  simpa [ofKind] using (List.mem_filter.mp h).2

/-- What is left at the end of actions in order is in order. -/
theorem ordered_drop (q : ActionQueue) (n : Nat) :
    (⟨q.ordered.drop n⟩ : ActionQueue).ordered = q.ordered.drop n := by
  rw [show q.ordered.drop n = _ by rw [ordered, List.drop_append, List.drop_append]]
  exact ordered_of_kinds (fun a ha => kind_of_mem_ofKind (List.mem_of_mem_drop ha))
    (fun a ha => kind_of_mem_ofKind (List.mem_of_mem_drop ha))
    (fun a ha => kind_of_mem_ofKind (List.mem_of_mem_drop ha))

end ActionQueue

namespace Outcome

/-- The outcome with the record of one more action. The heap is the one after it. -/
def record (heap : Heap) (o : Outcome) : Action → Outcome
  | .persist h _ => { o with persisted := o.persisted ++ [.ofHandle heap h] }
  | .merge e _ => { o with merged := o.merged ++ [e] }
  | .remove e => { o with removed := o.removed ++ [e.key] }

/-- The outcome with one more record for each attempt, in order. -/
def recordAll {σ : Type} (o : Outcome) (attempts : List (Attempt σ)) : Outcome :=
  attempts.foldl (fun o a => o.record a.after.heap a.ticket.action) o

section Record

variable {σ : Type} (o : Outcome) (a : Attempt σ) (rest : List (Attempt σ))

@[simp] theorem recordAll_nil : o.recordAll ([] : List (Attempt σ)) = o := rfl

@[simp] theorem recordAll_cons :
    o.recordAll (a :: rest) = (o.record a.after.heap a.ticket.action).recordAll rest := rfl

@[simp] theorem size_record (heap : Heap) (a : Action) : (o.record heap a).size = o.size + 1 := by
  cases a <;> simp only [record, size, List.length_append, List.length_singleton] <;> omega

end Record

end Outcome

namespace Gateway

variable {σ : Type} (g : Gateway σ)

/-- The statement that an action asks for. -/
def request (w : Workspace σ) : Action → Except Error Command
  | .persist h _ =>
    (g.resolve (w.heap.get h).type w).1.map fun m => m.insertOf (w.heap.get h).fieldValue
  | .merge e expected =>
    match (g.resolveKey e.key w).1 with
    | .error f => .error f
    | .ok m =>
      match m.updateOf (some expected) e.key.id (w.heap.get e.handle).fieldValue with
      | .error fault => .error (.mapping m.name fault.message)
      | .ok plan => .ok plan.command
  | .remove e => (g.resolveKey e.key w).1.map fun m => ⟨m.deleteById, [e.key.id]⟩

/-- The statement of an action with its answer, if there is a statement: a new row is inserted,
and anything else is executed. -/
def exchange? (w : Workspace σ) (a : Action) : Option Exchange :=
  match g.request w a with
  | .error _ => none
  | .ok c =>
    match a.kind with
    | .persist => some (.insert c (g.connection.insert c w.store).1)
    | _ => some (.execute c (g.connection.execute c w.store).1)

section Exchanges

variable {w v : Workspace σ}

section Update

variable {g} {e : Entry} {x : Value} {m : Metadata} (hm : g.resolveKey e.key w = (.ok m, w))

include hm

/-- An UPDATE that cannot be made is not sent. -/
theorem exchange?_of_unplanned {fault : UpdateFault}
    (hp : m.updateOf (some x) e.key.id (w.heap.get e.handle).fieldValue = .error fault) :
    g.exchange? w (.merge e x) = none := by
  simp [exchange?, request, hm, hp]

theorem exchange?_of_planned {plan : UpdatePlan}
    (hp : m.updateOf (some x) e.key.id (w.heap.get e.handle).fieldValue = .ok plan) :
    g.exchange? w (.merge e x) =
      some (.execute plan.command (g.connection.execute plan.command w.store).1) := by
  simp [exchange?, request, hm, hp, Action.kind]

end Update

theorem exchanges_of_transcript {t : Ticket} {o : Outcome} {xs : List Exchange}
    (h : (g.perform t.action o w).2.transcript = w.transcript ++ xs) :
    (g.attempt t o w).exchanges = xs := by
  simp [Attempt.exchanges, attempt, h]

theorem transcript_persist (h : Handle) (instant : Bool) (w : Workspace σ) :
    (g.persist h w).2.transcript =
      w.transcript ++ (g.exchange? w (.persist h instant)).toList := by
  have ht := g.transcript_resolve (w.heap.get h).type w
  have hf := g.resolve_frame (w.heap.get h).type w
  rw [persist_apply]
  rcases hr : g.resolve (w.heap.get h).type w with ⟨e | m, v⟩ <;> rw [hr] at ht hf
  · simpa [exchange?, request, hr, Except.map] using ht
  simp only [exchange?, request, hr, Except.map, Action.kind, ← hf.2]
  cases (g.connection.insert (m.insertOf (w.heap.get h).fieldValue) v.store).1 with
  | error f => exact g.transcript_sent ht _ _
  | ok key =>
    by_cases hn : key.isNull = true
    · simp only [hn, if_true]
      exact g.transcript_sent ht _ _
    · simp only [hn, Bool.false_eq_true, if_false]
      cases (w.heap.get h).setValue m.id.field key <;>
        exact g.transcript_sent ht (.insert _ (.ok key))
          (g.connection.insert (m.insertOf (w.heap.get h).fieldValue) v.store).2

theorem transcript_update (e : Entry) (x : Value) (w : Workspace σ) :
    (g.update e x w).2.transcript = w.transcript ++ (g.exchange? w (.merge e x)).toList := by
  have ht := g.transcript_resolveKey e.key w
  have hf := g.resolveKey_frame e.key w
  rw [update_apply]
  rcases hr : g.resolveKey e.key w with ⟨f | m, v⟩ <;> rw [hr] at ht hf
  · simpa [exchange?, request, hr] using ht
  simp only [exchange?, request, hr, Action.kind, ← hf.1, ← hf.2]
  cases m.updateOf (some x) e.key.id (v.heap.get e.handle).fieldValue with
  | error fault => simpa using ht
  | ok plan =>
    dsimp only
    cases (g.connection.execute plan.command v.store).1 with
    | error f => exact g.transcript_sent ht _ _
    | ok n =>
      dsimp only
      split <;> exact g.transcript_sent ht _ _

theorem transcript_remove (e : Entry) (w : Workspace σ) :
    (g.remove e.key w).2.transcript = w.transcript ++ (g.exchange? w (.remove e)).toList := by
  have ht := g.transcript_resolveKey e.key w
  have hf := g.resolveKey_frame e.key w
  rw [remove_apply]
  rcases hr : g.resolveKey e.key w with ⟨f | m, v⟩ <;> rw [hr] at ht hf
  · simpa [exchange?, request, hr, Except.map] using ht
  simp only [exchange?, request, hr, Except.map, Action.kind, ← hf.2]
  cases (g.connection.execute ⟨m.deleteById, [e.key.id]⟩ v.store).1 with
  | error f => exact g.transcript_sent ht _ _
  | ok n =>
    dsimp only
    split <;> exact g.transcript_sent ht _ _

/-- Performing an action makes the statement that the action asks for, and no other. -/
theorem transcript_perform_request (a : Action) (o : Outcome) (w : Workspace σ) :
    (g.perform a o w).2.transcript = w.transcript ++ (g.exchange? w a).toList := by
  cases a with
  | persist h instant =>
    rw [perform_persist_apply, ← g.transcript_persist h instant w]
    rcases g.persist h w with ⟨f | e, v⟩ <;> rfl
  | merge e x =>
    rw [perform_merge_apply, ← g.transcript_update e x w]
    rcases g.update e x w with ⟨f | next, v⟩
    · rfl
    · exact transcript_writeVersion e next v
  | remove e =>
    rw [perform_remove_apply, ← g.transcript_remove e w]
    rcases g.remove e.key w with ⟨f | u, v⟩ <;> rfl

theorem exchanges_attempt (t : Ticket) (o : Outcome) (w : Workspace σ) :
    (g.attempt t o w).exchanges = (g.exchange? w t.action).toList :=
  g.exchanges_of_transcript (g.transcript_perform_request t.action o w)

end Exchanges

/-- An action is recorded exactly when it is settled. -/
theorem Performed.outcome_eq {g : Gateway σ} {w v : Workspace σ} {o out : Outcome} {a : Action}
    {xs : List Exchange} {r : Except Error Unit} (h : g.Performed w v o a xs r out) :
    out = if g.settles w a xs then o.record v.heap a else o := by
  cases h with
  | unsent e => rfl
  | refused hx e => simp [settles, hx]
  | unkept hk e => simp [settles, loses, hk]
  | inserted hk he => simp [settles, loses, Exchange.isAcceptedWrite, hk, he, Outcome.record]
  | updated hn r => simp [settles, loses, Exchange.isAcceptedWrite, hn, Outcome.record]
  | deleted hn => simp [settles, loses, Exchange.isAcceptedWrite, hn, Outcome.record]

end Gateway

/-- Attempts that follow one another: the first starts in a given workspace, and each other where
the one before it stopped. -/
def Attempt.Follow {σ : Type} : Workspace σ → List (Attempt σ) → Prop
  | _, [] => True
  | w, a :: rest => a.before = w ∧ Attempt.Follow a.after rest

/-- How actions in order are split when they are performed up to the first failure, starting with
an outcome in a workspace and ending with what is drained in another one. -/
structure Gateway.Splits {σ : Type} (g : Gateway σ) (actions : List Action) (o : Outcome)
    (w : Workspace σ) (d : Drained) (v : Workspace σ) (tries : List (Attempt σ)) : Prop where
  /-- What is tried is the first part of the actions. -/
  inOrder : tries.map (·.ticket.action) <+: actions
  follow : Attempt.Follow w tries
  performed : ∀ a ∈ tries, ∃ p, a = g.attempt a.ticket p a.before
  /-- An attempt makes at most one statement, the one that its action asks for. -/
  stated : ∀ a ∈ tries, a.exchanges = (g.exchange? a.before a.ticket.action).toList
  /-- Nothing else is said over the connection. -/
  said : v.transcript = w.transcript ++ tries.flatMap (·.exchanges)
  /-- Without a failure all is tried, carried out, recorded and gone. -/
  finished : d.result = .ok () → (∀ a ∈ tries, a.isSettled g = true) ∧
    tries.map (·.ticket.action) = actions ∧ d.left = [] ∧ d.outcome = o.recordAll tries
  /-- After a failure the actions before the last one tried are carried out and recorded. That one
  is left over with those after it, unless it is recorded, too. -/
  stopped : ∀ e, d.result = .error e → ∃ done last, tries = done ++ [last] ∧
    (∀ a ∈ done, a.isSettled g = true) ∧ (last.isSettled g = false ∧ d.outcome = o.recordAll done ∧
        d.left = actions.drop done.length ∨
      last.isSettled g = true ∧ d.outcome = o.recordAll (done ++ [last]) ∧
        d.left = actions.drop (done.length + 1))

namespace Gateway

variable {σ : Type} (g : Gateway σ)

section Tries

variable {t : Ticket} {o written : Outcome} {w v : Workspace σ}

/-- An attempt that fails is the last one. -/
theorem splits_of_error {e : Error} (hr : g.perform t.action o w = ((.error e, written), v))
    (rest : List Ticket) :
    g.Splits ((t :: rest).map (·.action)) o w
      ⟨.error e, (if written.size = o.size then t :: rest else rest).map (·.action), written⟩
      (v.note .warn "Action failed; remaining actions stay queued") [g.attempt t o w] := by
  have hsaid := g.transcript_perform t o w
  have hp := g.attempt_ends t o w
  rw [hr] at hsaid hp
  have hout := hp.outcome_eq
  have hsize := hp.size_eq
  refine ⟨by simp [attempt], ⟨rfl, trivial⟩, List.forall_mem_singleton.mpr ⟨o, rfl⟩,
    List.forall_mem_singleton.mpr (g.exchanges_attempt t o w), by simpa using hsaid,
    fun h => (by cases h), fun _ _ => ⟨[], g.attempt t o w, rfl, by simp, ?_⟩⟩
  by_cases hs : (g.attempt t o w).isSettled g = true
  · have hne : ¬ written.size = o.size := by
      rw [hsize, show g.settles w t.action (g.attempt t o w).exchanges = true from hs]
      simp
    exact .inr ⟨hs, hout.trans (if_pos hs), by simp [hne]⟩
  · have hn := Bool.not_eq_true _ ▸ hs
    have heq : written.size = o.size := by
      rw [hsize, show g.settles w t.action (g.attempt t o w).exchanges = false from hn]
      rfl
    exact .inl ⟨hn, hout.trans (if_neg hs), by simp [heq]⟩

/-- An attempt that succeeds comes before all that is tried after it. -/
theorem Splits.cons {g : Gateway σ} (hr : g.perform t.action o w = ((.ok (), written), v))
    {actions : List Action} {d : Drained} {u : Workspace σ} {tries : List (Attempt σ)}
    (hrest : g.Splits actions written v d u tries) :
    g.Splits (t.action :: actions) o w d u (g.attempt t o w :: tries) := by
  have hsaid := g.transcript_perform t o w
  have hp := g.attempt_ends t o w
  rw [hr] at hsaid hp
  have hafter : (g.attempt t o w).after = v := by simp [attempt, hr]
  have hwritten : written = o.record (g.attempt t o w).after.heap t.action :=
    hp.outcome_eq.trans (if_pos hp.settles_of_ok)
  have hrecord (l : List (Attempt σ)) :
      o.recordAll (g.attempt t o w :: l) = written.recordAll l := by
    rw [hwritten]
    rfl
  refine ⟨?_, ⟨rfl, hafter ▸ hrest.follow⟩, ?_, ?_, ?_, fun hok => ?_, fun f hf => ?_⟩
  · exact (List.prefix_cons_inj _).mpr hrest.inOrder
  · exact List.forall_mem_cons.mpr ⟨⟨o, rfl⟩, hrest.performed⟩
  · exact List.forall_mem_cons.mpr ⟨g.exchanges_attempt t o w, hrest.stated⟩
  · rw [hrest.said, hsaid, List.flatMap_cons, List.append_assoc]
  · obtain ⟨hsettled, hall, hleft, ho⟩ := hrest.finished hok
    exact ⟨List.forall_mem_cons.mpr ⟨hp.settles_of_ok, hsettled⟩,
      congrArg (t.action :: ·) hall, hleft, ho.trans (hrecord _).symm⟩
  · obtain ⟨done, last, htries, hsettled, hend⟩ := hrest.stopped f hf
    refine ⟨g.attempt t o w :: done, last, congrArg (_ :: ·) htries,
      List.forall_mem_cons.mpr ⟨hp.settles_of_ok, hsettled⟩, ?_⟩
    simp only [List.cons_append, hrecord, List.length_cons, List.drop_succ_cons]
    exact hend

end Tries

theorem attemptAll_splits (ts : List Ticket) (o : Outcome) (w : Workspace σ) :
    g.Splits (ts.map (·.action)) o w
      ⟨(g.attemptAll ts o w).result, (g.attemptAll ts o w).left.map (·.action),
        (g.attemptAll ts o w).outcome⟩ (g.attemptAll ts o w).space
      (g.attemptAll ts o w).attempts := by
  induction ts generalizing o w with
  | nil =>
    exact ⟨List.nil_prefix, trivial, by simp [attemptAll], by simp [attemptAll],
      by simp [attemptAll], fun _ => ⟨by simp [attemptAll], rfl, rfl, rfl⟩,
      fun _ h => (by cases h)⟩
  | cons t rest ih =>
    rcases hr : g.perform t.action o w with ⟨⟨e | u, written⟩, v⟩
    · rw [g.attemptAll_cons_error rest hr]
      exact g.splits_of_error hr rest
    · rw [g.attemptAll_cons_ok rest hr]
      exact (ih written v).cons hr

/-- A drain performs a first part of the actions in order, each with at most one statement, and
splits the queue there: what it records are the actions that were carried out, and what it leaves
are all others, still in order. -/
theorem drain_splits (q : ActionQueue) (o : Outcome) (w : Workspace σ) :
    ∃ tries, g.Splits q.ordered o w (g.drain q o w).1 (g.drain q o w).2 tries ∧
      (⟨(g.drain q o w).1.left⟩ : ActionQueue).ordered = (g.drain q o w).1.left := by
  -- The numbers of the tickets play no part here.
  let ts := q.ordered.map (Ticket.mk 0)
  have hts : ts.map (·.action) = q.ordered := by simp [ts, Function.comp_def]
  have hs := g.attemptAll_splits ts o w
  have hd : g.drain q o w = _ := (hts ▸ g.performAll_map ts o w :)
  rw [hd]
  rw [hts] at hs
  refine ⟨_, hs, ?_⟩
  cases hr : (g.attemptAll ts o w).result with
  | ok u =>
    rw [(hs.finished hr).2.2.1]
    rfl
  | error e =>
    obtain ⟨done, last, -, -, ⟨-, -, hleft⟩ | ⟨-, -, hleft⟩⟩ := hs.stopped e hr <;> rw [hleft]
    · exact q.ordered_drop _
    · exact q.ordered_drop _

end Gateway

end EntityMapper
