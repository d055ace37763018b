import EntityMapper.Proofs.Session.Queueing
/-! Transactions of a session and its end, as moves with the events of what is flushed, and what
keeps a property through transactions. -/

namespace EntityMapper

variable {σ : Type}

namespace Session

open Operation

variable (g : Gateway σ) {s : SessionState σ}

section Transactions

/-- A step of the transaction and, if it succeeds, the change of the session with a notice. -/
def takeStep (step : TransactionStep) (active : Bool) (message : String) : Operation σ Unit := do
  transact g step
  change fun s => { s with active := active }
  note .info message

theorem takeStep_apply (step : TransactionStep) (active : Bool) (message : String)
    (s : SessionState σ) : takeStep g step active message s =
      match g.transact step s.space with
      | (.error e, w) => (.error (Error.ofTransaction e), { s with space := w })
      | (.ok _, w) => (.ok (), ⟨{ s.session with active := active }, w.note .info message⟩) := by
  unfold takeStep transact
  rw [bind_apply, ofWork_apply, adapt_apply]
  rcases g.transact step s.space with ⟨e | u, w⟩ <;> rfl

theorem takeStep_moves (ho : s.session.closed = false) (step : TransactionStep) (active : Bool)
    (message : String) : Moves s [] (takeStep g step active message s).2 := by
  have hg := g.steady_transact step s.space
  rw [takeStep_apply]
  rcases hr : g.transact step s.space with ⟨e | u, w⟩ <;> rw [hr] at hg
  · exact .one (.work hg)
  · exact ((Moves.one (.work hg)).tail (.switch active ho)).tail (.work (grows_note _ _ _))

theorem begin_apply (ho : s.session.closed = false) : begin g s =
    if s.session.active then
      (.error (.transaction .alreadyActive "transaction was already started"), s)
    else takeStep g .start true "Transaction started" s := by
  unfold begin
  rw [bind_of_open ho, bind_apply, session_apply]
  dsimp only
  split <;> rfl

theorem begin_moves (ho : s.session.closed = false) : Moves s [] (begin g s).2 := by
  rw [begin_apply g ho]
  split
  · exact .refl
  · exact takeStep_moves g ho .start true _

theorem ensureActive_apply (s : SessionState σ) :
    (ensureActive : Operation σ Unit) s =
      (if s.session.active then .ok ()
        else .error (.transaction .notActive "transaction is not started"), s) := by
  cases ha : s.session.active <;> simp [ensureActive, ha]

/-- A rollback drops the queue before it comes to its step. -/
theorem rollback_apply (ho : s.session.closed = false) : rollback g s =
    if s.session.active then takeStep g .rollback false "Transaction rolled back"
      { s with session := { s.session with queue := {} } }
    else (.error (.transaction .notActive "transaction is not started"), s) := by
  unfold rollback
  rw [bind_of_open ho, bind_apply, ensureActive_apply]
  cases s.session.active <;> rfl

theorem rollback_moves (ho : s.session.closed = false) : Moves s [] (rollback g s).2 := by
  rw [rollback_apply g ho]
  split
  · exact (Moves.one (Move.drop ho)).trans (takeStep_moves g
      (s := { s with session := { s.session with queue := {} } }) ho .rollback false _)
  · exact .refl

theorem flush_moves (hs : s.Valid) (ho : s.session.closed = false) :
    Moves s (drained g s).1.outcome.events (flush g s).2 := by
  unfold flush
  rw [bind_of_open ho]
  exact (flushActions_moves g hs ho).1

/-- A commit comes to its step if its flush succeeds, and fails as it otherwise. -/
theorem commit_apply (ho : s.session.closed = false) : commit g s =
    if s.session.active then
      match flushActions g s with
      | (.error e, t) => (.error e, t)
      | (.ok _, t) => takeStep g .commit false "Transaction committed" t
    else (.error (.transaction .notActive "transaction is not started"), s) := by
  unfold commit
  rw [bind_of_open ho, bind_apply, ensureActive_apply]
  cases s.session.active with
  | false => rfl
  | true =>
    rw [if_pos rfl, if_pos rfl]
    dsimp only
    rw [bind_apply]
    rcases flushActions g s with ⟨e | u, t⟩ <;> rfl

/-- A flush that fails is the end of a commit. -/
theorem commit_of_failed (ho : s.session.closed = false) (ha : s.session.active = true) {f : Error}
    {t : SessionState σ} (h : flushActions g s = (.error f, t)) : commit g s = (.error f, t) := by
  rw [commit_apply g ho, ha, if_pos rfl, h]

theorem commit_of_flushed (ho : s.session.closed = false) (ha : s.session.active = true) {u : Unit}
    {t : SessionState σ} (h : flushActions g s = (.ok u, t)) :
    commit g s = takeStep g .commit false "Transaction committed" t := by
  rw [commit_apply g ho, ha, if_pos rfl, h]

theorem commit_moves (hs : s.Valid) (ho : s.session.closed = false) :
    Moves s (if s.session.active then (drained g s).1.outcome.events else []) (commit g s).2 := by
  rw [commit_apply g ho]
  split
  · obtain ⟨hmoves, hopen, -⟩ := flushActions_moves g hs ho
    rcases hr : flushActions g s with ⟨e | u, t⟩ <;> rw [hr] at hmoves hopen
    · exact hmoves
    · simpa using hmoves.trans (takeStep_moves g hopen .commit false "Transaction committed")
  · exact .refl

end Transactions

section Keeping

variable {P : SessionState σ → Prop}

theorem meets_ensureOpen : Meets P (ensureOpen : Operation σ Unit) (fun _ => P) P := by
  intro s hs
  cases hc : s.session.closed with
  | true => rwa [ensureOpen_of_closed hc]
  | false => rwa [ensureOpen_of_open hc]

theorem meets_ensureActive : Meets P (ensureActive : Operation σ Unit) (fun _ => P) P := by
  intro s hs
  rw [ensureActive_apply]
  cases s.session.active <;> exact hs

theorem meets_begin
    (hstep : Meets P (takeStep g .start true "Transaction started") (fun _ => P) P) :
    Meets P (begin g) (fun _ => P) P := by
  refine meets_ensureOpen.bind fun _ => Meets.bind (Q := fun _ => P) (fun _ hs => hs) fun s => ?_
  split
  · exact .throw fun _ hs => hs
  · exact hstep

/-- A commit keeps what its flush and its step keep. -/
theorem meets_commit (hflush : Meets P (flushActions g) (fun _ => P) P)
    (hstep : Meets P (takeStep g .commit false "Transaction committed") (fun _ => P) P) :
    Meets P (commit g) (fun _ => P) P :=
  meets_ensureOpen.bind fun _ => meets_ensureActive.bind fun _ => hflush.bind fun _ => hstep

end Keeping

section Closing

/-- A session ends if its flush succeeds, and fails as it otherwise. -/
theorem ended_of_flushed (t : SessionState σ) : ∃ events, (do
      flushActions g
      if (← session).active then note .warn "Closing session with an active transaction"
      change fun s => { s with map := .empty, snapshots := .empty, closed := true }
      note .info "Session closed" : Operation σ Unit) t = match flushActions g t with
      | (.error e, u) => (.error e, u)
      | (.ok _, u) => (.ok (), ⟨{ u.session with
          map := .empty, snapshots := .empty, closed := true }, u.space.logged events⟩) := by
  rw [bind_apply]
  rcases flushActions g t with ⟨e | u, v⟩
  · exact ⟨[], rfl⟩
  dsimp only
  rw [bind_apply, session_apply]
  dsimp only
  split
  · exact ⟨((v.space.note .warn "Closing session with an active transaction").note .info
      "Session closed").journal.events, rfl⟩
  · exact ⟨(v.space.note .info "Session closed").journal.events, rfl⟩

/-- After a check for changes a session closes if its flush succeeds, and fails as it otherwise. -/
theorem close_of_checked (ho : s.session.closed = false) {n : Nat} {t : SessionState σ}
    (h : dirtyCheck g s = (.ok n, t)) : ∃ events, close g s = match flushActions g t with
      | (.error e, u) => (.error e, u)
      | (.ok _, u) => (.ok (), ⟨{ u.session with
          map := .empty, snapshots := .empty, closed := true }, u.space.logged events⟩) := by
  unfold close
  rw [bind_of_open ho, bind_apply, h]
  exact ended_of_flushed g t

/-- A check for changes that fails is the end of closing. -/
theorem close_of_unchecked (ho : s.session.closed = false) {e : Error} {t : SessionState σ}
    (h : dirtyCheck g s = (.error e, t)) : close g s = (.error e, t) := by
  unfold close
  rw [bind_of_open ho, bind_apply, h]

/-- What closing a session would write now, on top of what is queued by then. -/
def closingEvents (s : SessionState σ) : List SessionEvent :=
  match dirtyCheck g s with
  | (.ok _, t) => (drained g t).1.outcome.events
  | (.error _, _) => []

theorem close_moves (hs : s.Valid) (ho : s.session.closed = false) :
    Moves s (closingEvents g s) (close g s).2 := by
  obtain ⟨hcheck, hopen⟩ := dirtyCheck_moves g hs ho
  unfold closingEvents
  rcases hr : dirtyCheck g s with ⟨e | n, t⟩ <;> rw [hr] at hcheck hopen
  · rw [close_of_unchecked g ho hr]
    exact hcheck
  · obtain ⟨hmoves, hstill, hempty⟩ := flushActions_moves g (hcheck.valid hs) hopen
    obtain ⟨events, hclose⟩ := close_of_checked g ho hr
    rw [hclose]
    rcases hf : flushActions g t with ⟨e | u, v⟩ <;> rw [hf] at hmoves hstill hempty
    · exact hcheck.trans hmoves
    · have hshut := (Moves.one (.close hstill (hempty rfl))).tail (.work (grows_logged _ events))
      simpa using hcheck.trans (hmoves.trans hshut)

end Closing

end Session

end EntityMapper
