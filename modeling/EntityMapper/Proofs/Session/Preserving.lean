import EntityMapper.Proofs.Session.Enumerating
import EntityMapper.Proofs.Session.TypedRuns
/-! Preserving: what holds after every operation of a session, given that each of the small changes
that operations consist of keeps it. -/

namespace EntityMapper

variable {σ : Type}

open Session Operation SessionState

namespace SessionState

/-- The session in which all that a check for changes finds waits to be written. -/
def checked (s : SessionState σ) : SessionState σ :=
  { s with session := { s.session with queue := ⟨s.session.queue.actions ++
    (s.session.map.values.filterMap s.change?).map fun p => .merge p.1 p.2⟩ } }

/-- All that operations do to an open session, other than performing what is queued, keeps a
property. -/
structure Preserved (P : SessionState σ → Prop) : Prop where
  work {s w} (h : P s) (hg : s.space.Grows w) : P { s with space := w }
  quiet {s t} (h : P s) (hq : Quiet s t) : P t
  /-- An entity becomes known with an instance that was not shared before. -/
  keep {s w e} (h : P s) (hg : s.space.Grows w) (hnew : s.space.heap.next ≤ e.handle)
    (snapshot : Snapshot) : P ⟨s.session.keep e snapshot, w⟩
  /-- A new instance waits to be added. -/
  persist {s w l} (h : P s) (hg : s.space.Grows w) (hnew : s.space.heap.next ≤ l) :
    P ⟨{ s.session with queue := s.session.queue.add (.persist l false) }, w⟩
  check {s} (h : P s) (hs : s.Open) : P s.checked
  shut {s} (h : P s) : P { s with session := { s.session with
    map := .empty, snapshots := .empty, closed := true } }

end SessionState

namespace Session

variable {g : Gateway σ} {P : SessionState σ → Prop} {s : SessionState σ}

/-- A check for changes queues what it finds, and leaves nothing else behind but notices. -/
theorem dirtyCheck_checked (g : Gateway σ) (hs : s.Open) : ∃ n events, dirtyCheck g s =
    (.ok n, { s.checked with space := s.space.logged events }) := by
  have hvalues : ∀ e ∈ s.session.map.values, e ∈ s.session.map.values := fun _ h => h
  obtain ⟨events, hrun⟩ := dirtyCheckAlong_eq g hs hvalues
  rw [dirtyCheck_eq_along]
  exact ⟨_, events, hrun⟩

variable (hP : Preserved P)

include hP

section Searches

theorem keeper_preserved : Keeper g (fun _ => True) (fun s => s.Open ∧ P s) IsResolved :=
  keeper_of_adopt g Command.allowsSelect_any (fun _ hs => hs.1.valid)
    (fun _ _ hs hread => ⟨hs.1.work hread.grows, hP.work hs.2 hread.grows⟩) fun _ i _ hs hm _ =>
      ⟨hs.1.adopt_push i hm, hP.keep hs.2 (.push _ i) (Nat.le_refl _) _⟩

theorem preserved_searched {c : SessionCall} {t : EntityType} (hc : c.searched? = some t)
    (hs : s.Open) (h : P s) : P (c.run g s).2 :=
  ((SessionCall.meets_searched (keeper_preserved hP) (loader_resolved g _) (fun _ _ _ => trivial)
    (SessionCall.searches_of_searched? g hc)).final ⟨hs, h⟩).2

theorem preserved_merge (i : Instance) (hs : s.Open) (h : P s) : P (merge g i s).2 := by
  refine ((keeper_preserved hP).meets_merge i fun s v loaded m hs _ _ _ hread hm => ?_).final
    ⟨hs, h⟩ |>.2
  exact ⟨(hs.1.work hread.grows).adopt_push loaded hm,
    hP.keep hs.2 (hread.grows.trans (.push v i)) hread.grows.next _⟩

end Searches

section Writes

theorem preserved_persistDeferred (i : Instance) (ho : s.session.closed = false) (h : P s) :
    P (persistDeferred i s : _ × SessionState σ).2 := by
  unfold persistDeferred
  rw [bind_of_open ho]
  have hpush := Workspace.Grows.push s.space i
  exact hP.persist (s := s) h (hpush.trans (grows_note _ .trace "Queued action")) (Nat.le_refl _)

theorem preserved_persist (i : Instance) (ho : s.session.closed = false) (h : P s) :
    P (persist g i s).2 := by
  obtain ⟨v, hg, ⟨f, -, hrun⟩ | ⟨e, m, -, hhandle, -, -, hrun⟩⟩ := persist_ends g ho i <;>
    rw [hrun]
  · exact hP.work h hg
  · exact hP.keep h hg (Nat.le_of_eq hhandle.symm) _

theorem preserved_dirtyCheck (hs : s.Open) (h : P s) : P (dirtyCheck g s).2 := by
  obtain ⟨n, events, hrun⟩ := dirtyCheck_checked g hs
  rw [hrun]
  exact hP.work (hP.check h hs) (grows_logged _ events)

theorem preserved_commit (ho : s.session.closed = false) (h : P s)
    (hflush : s.session.active = true → P (flushActions g s).2) : P (commit g s).2 := by
  cases ha : s.session.active with
  | false =>
    rw [commit_apply g ho, ha]
    exact h
  | true =>
    exact hP.quiet (hflush ha) (commit_within (quiet_takeStep g .commit false _) ho ha)

theorem preserved_close (hs : s.Open) (hflush : P (flushActions g (dirtyCheck g s).2).2) :
    P (close g s).2 := by
  obtain ⟨n, events, hrun⟩ := dirtyCheck_checked g hs
  obtain ⟨ended, hclose⟩ := close_of_checked g hs.isOpen hrun
  rw [hrun] at hflush
  rw [hclose]
  rcases hf : flushActions g _ with ⟨e | u, v⟩ <;> rw [hf] at hflush
  · exact hflush
  · exact hP.work (hP.shut hflush) (grows_logged _ ended)

end Writes

end Session

namespace SessionCall

variable {g : Gateway σ} {s : SessionState σ} {c : SessionCall}

section Prepared

variable (hc : c.flushes g s = true)

include hc

/-- An operation that performs the queued actions finds an open session. -/
theorem open_prepared (hs : s.Kept) : (c.prepared g s).Open := by
  have hopen : s.Open := ⟨hs, (open_of_flushes g hc).1⟩
  cases c with
  | close => exact (meets_dirtyCheck_open g).final hopen
  | flush | commit => exact hopen
  | _ => cases (Bool.and_eq_true_iff.mp hc).2

theorem preserved_prepared {P : SessionState σ → Prop} (hP : Preserved P) (hs : s.Kept)
    (h : P s) : P (c.prepared g s) := by
  cases c with
  | close => exact preserved_dirtyCheck hP ⟨hs, (open_of_flushes g hc).1⟩ h
  | flush | commit => exact h
  | _ => cases (Bool.and_eq_true_iff.mp hc).2

/-- If an action fails, so does the operation that performs it. -/
theorem run_of_failed (hs : s.Kept) {err : Error}
    (h : (drained g (c.prepared g s)).1.result = .error err) : (c.run g s).1 = .error err := by
  have hprepared := open_prepared hc hs
  obtain ⟨ho, hactive, -⟩ := open_of_flushes g hc
  obtain ⟨events, hflush⟩ := flushActions_noting g hprepared.valid
  rw [h] at hflush
  cases c with
  | flush =>
    change flushActions g s = _ at hflush
    rw [run, map_apply, Session.flush, bind_of_open ho, hflush]
    rfl
  | commit =>
    rw [run, map_apply, commit_of_failed g ho (hactive rfl) hflush]
    rfl
  | close =>
    obtain ⟨n, found, hcheck⟩ := dirtyCheck_checked g ⟨hs, ho⟩
    obtain ⟨ended, hclose⟩ := close_of_checked g ho hcheck
    rw [prepared, hcheck] at hflush
    rw [run, map_apply, hclose, hflush]
    rfl
  | _ => cases (Bool.and_eq_true_iff.mp hc).2

end Prepared

/-- An operation keeps what small changes keep, if performing the queued actions keeps it where the
operation does so. -/
theorem preserved_run {P : SessionState σ → Prop} (hP : Preserved P) (hs : s.Kept) (h : P s)
    (hflush : c.flushes g s = true → P (c.prepared g s) →
      P (flushActions g (c.prepared g s)).2) : P (c.run g s).2 := by
  cases hclosed : s.session.closed with
  | true => rwa [run_of_closed g hclosed]
  | false =>
    have hopen : s.Open := ⟨hs, hclosed⟩
    have answer {α : Type} {f : α → SessionAnswer} {x : Operation σ α}
        (hx : P (x s).2) : P ((f <$> x) s).2 := by
      rw [map_apply]
      exact hx
    cases c with
    | persist i => exact answer (preserved_persist hP i hclosed h)
    | persistDeferred i => exact answer (preserved_persistDeferred hP i hclosed h)
    | merge i => exact answer (preserved_merge hP i hopen h)
    | remove k => exact answer (hP.quiet h (quiet_remove k s))
    | dirtyCheck => exact answer (preserved_dirtyCheck hP hopen h)
    | flush =>
      refine answer ?_
      rw [Session.flush, bind_of_open hclosed]
      exact hflush (by simp [flushes, hclosed]) h
    | close =>
      obtain ⟨n, events, hrun⟩ := dirtyCheck_checked g hopen
      have hflushes : SessionCall.close.flushes g s = true := by
        simp [flushes, hclosed, hrun, Except.isOk, Except.toBool]
      exact answer (preserved_close hP hopen
        (hflush hflushes (preserved_dirtyCheck hP hopen h)))
    | begin => exact answer (hP.quiet h (quiet_begin g s))
    | commit =>
      exact answer (preserved_commit hP hclosed h fun hactive =>
        hflush (by simp [flushes, hclosed, hactive]) h)
    | rollback => exact answer (hP.quiet h (quiet_rollback g s))
    | findById _ _ | findBy _ _ _ | findAllBy _ _ _ | nativeBy _ _ _ | nativeAll _ _ _
    | queryBy _ _ | queryAll _ _ => exact preserved_searched hP rfl hopen h

end SessionCall

end EntityMapper
