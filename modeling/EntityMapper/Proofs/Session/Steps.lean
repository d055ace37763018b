import EntityMapper.Proofs.Session.Writing
import Mathlib.Logic.Function.Iterate
/-! A flush step by step: it takes the queued actions, performs them one at a time, and then takes
note of what was written. -/

namespace EntityMapper

variable {σ : Type} (g : Gateway σ)

namespace Gateway

/-- Performs the next action of a drain, unless one has failed or none is left. -/
def advance (d : Drained) (w : Workspace σ) : Drained × Workspace σ :=
  match d.result, d.left with
  | .ok _, a :: rest =>
    let ((result, written), v) := g.perform a d.outcome w
    match result with
    | .ok _ => (⟨.ok (), rest, written⟩, v)
    | .error e => (⟨.error e, if written.size = d.outcome.size then a :: rest else rest, written⟩,
        v.note .warn "Action failed; remaining actions stay queued")
  | _, _ => (d, w)

/-- Performs the next actions of a drain, as many as it is told. -/
def advances (n : Nat) (p : Drained × Workspace σ) : Drained × Workspace σ :=
  (fun p : Drained × Workspace σ => g.advance p.1 p.2)^[n] p

theorem advances_succ (n : Nat) (p : Drained × Workspace σ) :
    g.advances (n + 1) p = g.advances n (g.advance p.1 p.2) := rfl

section Advance

variable {d : Drained} {a : Action} {rest : List Action} {written : Outcome} {w v : Workspace σ}
  {e : Error}

theorem advance_of_stopped (h : d.result = .error e) (w : Workspace σ) :
    g.advance d w = (d, w) := by
  simp [advance, h]

theorem advance_of_ok (h : g.perform a d.outcome w = ((.ok (), written), v))
    (hd : d.result = .ok ()) (hleft : d.left = a :: rest) :
    g.advance d w = (⟨.ok (), rest, written⟩, v) := by
  simp [advance, hd, hleft, h]

theorem advance_of_error (h : g.perform a d.outcome w = ((.error e, written), v))
    (hd : d.result = .ok ()) (hleft : d.left = a :: rest) :
    g.advance d w = (⟨.error e, if written.size = d.outcome.size then a :: rest else rest, written⟩,
      v.note .warn "Action failed; remaining actions stay queued") := by
  simp [advance, hd, hleft, h]

end Advance

/-- A drain is as many steps as there are actions. -/
theorem performAll_eq_advances (as : List Action) (o : Outcome) (w : Workspace σ) :
    g.performAll as o w = g.advances as.length (⟨.ok (), as, o⟩, w) := by
  induction as generalizing o w with
  | nil => rfl
  | cons a rest ih =>
    rw [List.length_cons, advances_succ, performAll, state_bind_apply]
    rcases hr : g.perform a o w with ⟨⟨e | u, written⟩, v⟩
    · rw [g.advance_of_error hr rfl rfl]
      exact (Function.iterate_fixed (g.advance_of_stopped rfl _) _).symm
    · rw [g.advance_of_ok hr rfl rfl]
      exact ih written v

end Gateway

namespace Session

open Operation

/-- The end of a flush: what a drain wrote is taken note of, and what it left stays queued. -/
def settle (d : Drained) : Operation σ Unit := do
  change fun s => { s with queue := ⟨d.left⟩ }
  reconcile g d.outcome
  ofWork d.result
  note .info "Flushed session"

/-- A flush is its steps without anything between them. -/
theorem flushActions_eq_steps {s : SessionState σ} (hq : s.session.queue.actions ≠ []) :
    flushActions g s =
      let p := g.advances s.session.queue.ordered.length
        (⟨.ok (), s.session.queue.ordered, {}⟩, s.space)
      settle g p.1 { s with space := p.2 } := by
  rw [← g.performAll_eq_advances]
  simp [flushActions, hq, settle, Gateway.drain]

end Session

end EntityMapper
