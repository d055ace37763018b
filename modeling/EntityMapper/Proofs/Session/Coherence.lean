import EntityMapper.Proofs.Session.History
import EntityMapper.Scenario.Catalogue
import EntityMapper.Store.Scripted
/-! Coherence of a session: whatever is done with it, its map, its snapshots and its queue stay in
step, and once it is closed it does nothing any more. -/

namespace EntityMapper

/-- After any run a session is in step, and it refuses every operation once it is closed. -/
theorem SessionRun.stays_coherent {σ : Type} {g : Gateway σ} {c : SessionConfig} {w : Workspace σ}
    {evs : List SessionEvent} {s : SessionState σ}
    (h : SessionRun g ⟨{ config := c }, w⟩ evs s) :
    s.session.Coherent ∧ (s.session.closed = true →
      ∀ call : SessionCall, call.run g s = (.error .sessionClosed, s)) := by
  have hvalid := (h.moves (.fresh c w)).valid (.fresh c w)
  exact ⟨hvalid.coherent, fun hc call => call.run_of_closed g hc⟩

namespace SampleSession

/-- Works on tags in a store that answers from a script. -/
def gateway : Gateway Script :=
  ⟨Script.connection, [SampleTypes.tag], false⟩

def fresh : SessionState Script :=
  ⟨{ config := {} }, { store := {} }⟩

/-- The session after one tag was added and another one queued. -/
def busy : SessionState Script :=
  ((SessionCall.persistDeferred (.initial SampleTypes.tag)).run gateway
    ((SessionCall.persist (.initial SampleTypes.tag)).run gateway fresh).2).2

/-- The session after it was closed, for which the queue is flushed. -/
def shut : SessionState Script :=
  (SessionCall.close.run gateway busy).2

theorem stays_coherent_shut :
    busy.session.map.size = 1 ∧ busy.session.queue.size = 1 ∧ shut.session.Coherent ∧
      shut.session.closed = true ∧
      (SessionCall.findById SampleTypes.tag (.big 1 IntWidth.big.holds_one)).run gateway shut =
        (.error .sessionClosed, shut) := by
  have hrun := ((SessionRun.refl (g := gateway) (s := fresh)).call
    (.persist (.initial SampleTypes.tag))).call (.persistDeferred (.initial SampleTypes.tag))
  have hclosed : shut.session.closed = true := by decide
  obtain ⟨hcoherent, hrefuses⟩ := SessionRun.stays_coherent (hrun.call .close)
  exact ⟨by decide, by decide, hcoherent, hclosed, hrefuses hclosed _⟩

end SampleSession

end EntityMapper
