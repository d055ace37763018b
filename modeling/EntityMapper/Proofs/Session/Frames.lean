import EntityMapper.Proofs.Flush.Asking
import EntityMapper.Proofs.Session.Finding
import Mathlib.Order.Defs.Unbundled
/-! Frames: what the operations of a session leave of its queue, put together from their parts. -/

namespace EntityMapper

variable {σ α β : Type}

namespace Operation

/-- Wherever an operation starts, it ends in a state that stands in a relation to that one. -/
def Within (R : SessionState σ → SessionState σ → Prop) (x : Operation σ α) : Prop :=
  ∀ s, R s (x s).2

namespace Within

variable {R : SessionState σ → SessionState σ → Prop} [IsPreorder (SessionState σ) R]

theorem pure (v : α) : Within R (Pure.pure v) :=
  fun s => refl s

theorem throw (e : Error) : Within R (MonadExcept.throw e : Operation σ α) :=
  fun s => refl s

theorem get : Within R (MonadState.get : Operation σ (SessionState σ)) :=
  fun s => refl s

theorem session : Within R (Operation.session : Operation σ Session) :=
  fun s => refl s

theorem bind {x : Operation σ α} {f : α → Operation σ β} (hx : Within R x)
    (hf : ∀ v, Within R (f v)) : Within R (x >>= f) := by
  intro s
  have hs := hx s
  rw [bind_apply]
  rcases hr : x s with ⟨e | v, t⟩ <;> rw [hr] at hs
  · exact hs
  · exact IsTrans.trans s t _ hs (hf v t)

omit [IsPreorder (SessionState σ) R] in
theorem map {f : α → β} {x : Operation σ α} (hx : Within R x) : Within R (f <$> x) := by
  intro s
  rw [map_apply]
  exact hx s

theorem mapM {f : α → Operation σ β} (hf : ∀ v, Within R (f v)) (l : List α) :
    Within R (l.mapM f) := by
  induction l with
  | nil => exact pure []
  | cons v l ih =>
    rw [List.mapM_cons]
    exact (hf v).bind fun u => ih.bind fun us => pure (u :: us)

theorem forM {f : α → Operation σ PUnit} (hf : ∀ v, Within R (f v)) (l : List α) :
    Within R (l.forM f) := by
  induction l with
  | nil => exact pure PUnit.unit
  | cons v l ih => exact (hf v).bind fun _ => ih

theorem ensureOpen : Within R (Operation.ensureOpen : Operation σ Unit) := by
  refine session.bind fun s => ?_
  split
  · exact throw _
  · exact pure _

end Within

end Operation

namespace SessionState

/-- The second state has the queue of the first one. -/
def SameQueue (s t : SessionState σ) : Prop :=
  t.session.queue = s.session.queue

/-- The second state has the queue of the first one, with more actions at its end. -/
def MoreQueued (s t : SessionState σ) : Prop :=
  s.session.queue.actions <+: t.session.queue.actions

instance : IsPreorder (SessionState σ) SameQueue where
  refl _ := rfl
  trans _ _ _ h h' := Eq.trans h' h

instance : IsPreorder (SessionState σ) MoreQueued where
  refl _ := List.prefix_refl _
  trans _ _ _ h h' := List.IsPrefix.trans h h'

theorem SameQueue.more {s t : SessionState σ} (h : SameQueue s t) : MoreQueued s t :=
  ⟨[], (List.append_nil _).trans (congrArg ActionQueue.actions h.symm)⟩

end SessionState

namespace Session

open Operation

variable {g : Gateway σ} {R : SessionState σ → SessionState σ → Prop}
  [IsPreorder (SessionState σ) R]
  (hwork : ∀ {α : Type} {x : Work σ α}, g.Plain x → Within R (ofWork x))

include hwork

/-- A search for changes does nothing but work on the store. -/
theorem within_findDirty (es : List Entry) : Within R (findDirty g es) := by
  induction es with
  | nil => exact .pure _
  | cons e es ih =>
    refine Within.session.bind fun s => ?_
    split
    · exact ih
    · split
      · exact ih
      · refine Within.get.bind fun u => (hwork (.of_store fun _ => rfl)).bind fun m => ?_
        split
        · exact (hwork (.of_store fun _ => rfl)).bind fun _ => ih.bind fun _ => .pure _
        · exact ih

/-- So does the compiling of a query. -/
theorem within_compile (t : EntityType) (q : EntityQuery) : Within R (compile g t q) :=
  Within.ensureOpen.bind fun _ => Within.session.bind fun _ => hwork (.of_store fun _ => rfl)

end Session

/-- States stand in a relation when what is known changes between them, but not the queue nor the
transaction, and when they differ by work on the store without transaction steps. -/
structure Frame (g : Gateway σ) (R : SessionState σ → SessionState σ → Prop) : Prop where
  work {α : Type} {x : Work σ α} (hx : g.Plain x) : Operation.Within R (Operation.ofWork x)
  know {f : Session → Session} (hf : ∀ s, (f s).queue = s.queue ∧ (f s).active = s.active) :
    Operation.Within R (Operation.change f)

namespace Frame

open Operation Session

variable {g : Gateway σ} {R : SessionState σ → SessionState σ → Prop}
  [IsPreorder (SessionState σ) R] (h : Frame g R)

include h

omit [IsPreorder (SessionState σ) R] in
theorem note (level : Level) (message : String) :
    Within R (note level message : Operation σ Unit) :=
  h.work (.of_store fun _ => rfl)

omit [IsPreorder (SessionState σ) R] in
theorem lift (x : Except Error α) : Within R (ofWork (liftM x) : Operation σ α) :=
  h.work (.of_store fun w => by rw [liftM_except_apply])

omit [IsPreorder (SessionState σ) R] in
theorem share (i : Instance) : Within R (ofWork (Work.share i) : Operation σ Handle) :=
  h.work (.of_store fun _ => rfl)

omit [IsPreorder (SessionState σ) R] in
theorem resolve (t : EntityType) : Within R (ofWork (g.resolve t)) :=
  h.work (.of_store fun _ => rfl)

theorem reconcile (o : Outcome) : Within R (reconcile g o) := by
  refine (Within.forM (fun e => ?_) _).bind fun _ => Within.forM (fun k => ?_) _
  · exact Within.get.bind fun s => (h.resolve _).bind fun m => h.know fun _ => ⟨rfl, rfl⟩
  · exact h.know fun _ => ⟨rfl, rfl⟩

theorem persist (i : Instance) : Within R (persist g i) :=
  Within.ensureOpen.bind fun _ => (h.share i).bind fun k =>
    (h.work (g.plain_perform (.persist k true) {})).bind fun _ => (h.lift _).bind fun _ =>
      (h.reconcile _).bind fun _ => .pure _

theorem manage (i : Instance) : Within R (manage g i) := by
  refine Within.session.bind fun s => (h.work (g.plain_getOrPut s.map i)).bind fun found =>
    .bind (h.know fun _ => ⟨rfl, rfl⟩) fun _ => ?_
  dsimp only
  split
  · exact (h.resolve _).bind fun m => .bind (h.know fun _ => ⟨rfl, rfl⟩) fun _ => .pure _
  · exact .pure _

theorem manageOption (i : Option Instance) : Within R (manageOption g i) := by
  cases i with
  | none => exact .pure _
  | some i => exact (h.manage i).map

theorem merge (i : Instance) : Within R (merge g i) := by
  refine Within.ensureOpen.bind fun _ => Within.session.bind fun s => Within.get.bind fun u => ?_
  dsimp only
  split
  · exact .pure _
  · refine (h.work (g.plain_load _ _)).bind fun found => ?_
    cases found with
    | none => exact (h.note _ _).bind fun _ => .pure _
    | some loaded =>
      exact (h.resolve _).bind fun m => (h.share _).bind fun k =>
        .bind (h.know fun _ => ⟨rfl, rfl⟩) fun _ => .pure _

theorem findById (t : EntityType) (id : Value) : Within R (findById g t id) := by
  refine Within.ensureOpen.bind fun _ => Within.session.bind fun s => Within.get.bind fun u => ?_
  dsimp only
  split
  · exact (h.note _ _).bind fun _ => .pure _
  · exact (h.work (g.plain_load _ _)).bind fun _ => h.manageOption _

theorem searchBy {x : Work σ (Option Instance)} (hx : x.Reads g.connection fun _ => True) :
    Within R (do
      ensureOpen
      Session.manageOption g (← ofWork x)) :=
  Within.ensureOpen.bind fun _ => (h.work (.of_reads hx)).bind fun _ => h.manageOption _

theorem searchAll {x : Work σ (List Instance)} (hx : x.Reads g.connection fun _ => True) :
    Within R (do
      ensureOpen
      Session.manageAll g (← ofWork x)) :=
  Within.ensureOpen.bind fun _ => (h.work (.of_reads hx)).bind fun _ => .mapM h.manage _

theorem compile (t : EntityType) (q : EntityQuery) : Within R (compile g t q) :=
  within_compile h.work t q

theorem search {c : SessionCall} {t : EntityType} (hc : c.searched? = some t) :
    Within R (c.run g) := by
  have hok := Command.allowsSelect_any
  cases c with
  | findById t id => exact (h.findById t id).map
  | findBy t field v => exact (h.searchBy (g.reads_findBy hok t field v)).map
  | findAllBy t field v => exact (h.searchAll (g.reads_findAllBy hok t field v)).map
  | nativeBy t sql params => exact (h.searchBy (g.reads_nativeBy hok t trivial)).map
  | nativeAll t sql params => exact (h.searchAll (g.reads_nativeAll hok t trivial)).map
  | queryBy t q =>
    exact ((h.compile t q).bind fun _ => h.searchBy (g.reads_nativeBy hok t trivial)).map
  | queryAll t q =>
    exact ((h.compile t q).bind fun _ => h.searchAll (g.reads_nativeAll hok t trivial)).map
  | _ => cases hc

theorem findDirty (es : List Entry) : Within R (findDirty g es) :=
  within_findDirty h.work es

section Queueing

variable (hq : ∀ a, Within R (enqueue a : Operation σ Unit))

include hq

theorem persistDeferred (i : Instance) : Within R (persistDeferred i : Operation σ Handle) :=
  Within.ensureOpen.bind fun _ => (h.share i).bind fun _ => (hq _).bind fun _ => .pure _

theorem dirtyCheck : Within R (dirtyCheck g) :=
  Within.ensureOpen.bind fun _ => Within.session.bind fun _ => (h.findDirty _).bind fun dirty =>
    (Within.forM (fun _ => hq _) dirty).bind fun _ => .pure _

end Queueing

end Frame

namespace Session

open Operation SessionState

/-- A relation that the queueing of a removal keeps is kept by the removal of an entity. -/
theorem within_remove {R : SessionState σ → SessionState σ → Prop} [IsPreorder (SessionState σ) R]
    (hq : ∀ e, Within R (enqueue (.remove e) : Operation σ Unit)) (k : Handle) :
    Within R (remove k : Operation σ Unit) := by
  refine Within.ensureOpen.bind fun _ => Within.get.bind fun u => Within.session.bind fun s => ?_
  split
  · exact .throw _
  · refine Within.session.bind fun s => ?_
    split
    · exact hq _
    · exact .pure _

section Transactions

variable {g : Gateway σ} {R : SessionState σ → SessionState σ → Prop}
  [IsPreorder (SessionState σ) R]

theorem within_begin (hstep : Within R (takeStep g .start true "Transaction started")) :
    Within R (begin g) := by
  refine Within.ensureOpen.bind fun _ => Within.session.bind fun s => ?_
  split
  · exact .throw _
  · exact hstep

/-- What the step of a commit keeps stays as its flush has left it. -/
theorem commit_within (hstep : Within R (takeStep g .commit false "Transaction committed"))
    {s : SessionState σ} (ho : s.session.closed = false) (ha : s.session.active = true) :
    R (flushActions g s).2 (commit g s).2 := by
  rcases hr : flushActions g s with ⟨e | u, t⟩
  · rw [commit_of_failed g ho ha hr]
    exact refl t
  · rw [commit_of_flushed g ho ha hr]
    exact hstep t

end Transactions

variable (g : Gateway σ)

theorem frame_sameQueue : Frame g SameQueue where
  work _ _ := rfl
  know hf s := (hf s.session).1

theorem frame_moreQueued : Frame g MoreQueued where
  work hx s := ((frame_sameQueue g).work hx s).more
  know hf s := ((frame_sameQueue g).know hf s).more

/-- Also transaction steps do not touch the queue. -/
theorem same_takeStep (step : TransactionStep) (active : Bool) (message : String) :
    Within SameQueue (takeStep g step active message) := by
  intro s
  rw [takeStep_apply]
  rcases g.transact step s.space with ⟨e | u, w⟩ <;> rfl

theorem more_enqueue (a : Action) : Within MoreQueued (enqueue a : Operation σ Unit) :=
  fun _ => List.prefix_append _ _

theorem flushActions_of_nil {s : SessionState σ} (hq : s.session.queue.actions = []) :
    flushActions g s = (.ok (), s) ∧ (drained g s).1.result = .ok () ∧
      (drained g s).1.left = [] := by
  have hordered : s.session.queue.ordered = [] := by
    simp [ActionQueue.ordered, ActionQueue.ofKind, hq]
  simp [flushActions, drained, Gateway.drain, hordered, Gateway.performAll, hq]

/-- Once the queue is drained, a flush takes note of what was written and then answers. -/
theorem flushActions_of_ne {s : SessionState σ} (hq : s.session.queue.actions ≠ []) :
    flushActions g s = (do
        reconcile g (drained g s).1.outcome
        ofWork (liftM (drained g s).1.result)
        note .info "Flushed session" : Operation σ Unit)
          ⟨{ s.session with queue := ⟨(drained g s).1.left⟩ }, (drained g s).2⟩ := by
  unfold flushActions
  rw [bind_apply, session_apply]
  dsimp only
  rw [if_neg (by simp [hq])]
  rfl

/-- A flush leaves what its drain leaves. -/
theorem queue_flushActions (s : SessionState σ) :
    (flushActions g s).2.session.queue = ⟨(drained g s).1.left⟩ := by
  by_cases hq : s.session.queue.actions = []
  · obtain ⟨hrun, -, hleft⟩ := flushActions_of_nil g hq
    rw [hrun, hleft]
    exact congrArg ActionQueue.mk hq
  · have h := frame_sameQueue g
    have hrest : Within SameQueue (do
        reconcile g (drained g s).1.outcome
        ofWork (liftM (drained g s).1.result)
        note .info "Flushed session" : Operation σ Unit) :=
      (h.reconcile _).bind fun _ => (h.lift _).bind fun _ => h.note _ _
    rw [flushActions_of_ne g hq]
    exact hrest _

/-- A flush succeeds only if its drain does. -/
theorem result_of_flushed {s t : SessionState σ} (h : flushActions g s = (.ok (), t)) :
    (drained g s).1.result = .ok () := by
  by_cases hq : s.session.queue.actions = []
  · exact (flushActions_of_nil g hq).2.1
  cases hr : (drained g s).1.result with
  | ok u => rfl
  | error e =>
    rw [flushActions_of_ne g hq, hr, bind_apply] at h
    split at h
    · rw [bind_apply, ofWork_apply, liftM_except_apply] at h
      cases h
    · cases h

theorem left_of_flushed {s t : SessionState σ} (h : flushActions g s = (.ok (), t)) :
    (drained g s).1.left = [] :=
  g.left_of_ok (result_of_flushed g h)

/-- A flush that succeeds leaves an empty queue. -/
theorem queue_of_flushed {s t : SessionState σ} (h : flushActions g s = (.ok (), t)) :
    t.session.queue.actions = [] := by
  have hqueue := queue_flushActions g s
  rw [h] at hqueue
  rw [hqueue]
  exact left_of_flushed g h

end Session

end EntityMapper
