import EntityMapper.Proofs.Associations
import EntityMapper.Proofs.Entity.KeyEquality
import EntityMapper.Proofs.Flush.Draining
import EntityMapper.Session.Basic
/-! Moves: the few ways in which any operation changes what a session knows, and what the caller
learns from each. -/

namespace EntityMapper

/-- What is learnt about the instance of a key. -/
inductive SessionEvent where
  /-- The caller is given the instance of a key. -/
  | returned (k : EntityKey) (h : Handle)
  /-- A row was added for an instance, which got the key. -/
  | produced (k : EntityKey) (h : Handle)
  /-- The row of a key was removed. -/
  | evicted (k : EntityKey)

def Entry.production (e : Entry) : SessionEvent :=
  .produced e.key e.handle

namespace Session

/-- The session with an entry of which a snapshot was taken. -/
def keep (s : Session) (e : Entry) (snapshot : Snapshot) : Session :=
  { s with map := s.map.put e, snapshots := s.snapshots.insert e.key snapshot }

/-- The second session is the first one with entries kept, one after the other. -/
inductive Keeps : Session → List Entry → Session → Prop
  | nil (s) : Keeps s [] s
  | cons {s es t} (e) (snapshot : Snapshot) (h : Keeps (s.keep e snapshot) es t) :
    Keeps s (e :: es) t

/-- The session with an entry kept as its instance is now, if the type of that is resolved. -/
def keepNow {σ : Type} (w : Workspace σ) (s : Session) (e : Entry) : Session :=
  match w.journal.registry.find? (w.heap.get e.handle).type.path with
  | some m => s.keep e (.capture m (w.heap.get e.handle))
  | none => s

def forgetAll (ks : List EntityKey) (s : Session) : Session :=
  ks.foldl (fun s k => s.forget k) s

/-- No action of a kind waits for a key. -/
def Free (s : Session) (kind : ActionKind) (k : EntityKey) : Prop :=
  ∀ a ∈ s.queue.ofKind kind, ∀ l ∈ a.key?, (l == k) = false

end Session

variable {σ : Type}

/-- One change of a session and its workspace, with the events that go with it. Only an open
session changes. -/
inductive Move : SessionState σ → List SessionEvent → SessionState σ → Prop
  /-- Work on the store. -/
  | work {s w} (hg : s.space.Grows w) : Move s [] { s with space := w }
  /-- A known instance is given out. -/
  | hit {s k e} (hk : s.session.map.find? k = some e) : Move s [.returned k e.handle] s
  /-- An instance becomes known by a key that was not known. -/
  | adopt {s w e} (snapshot) (ho : s.session.closed = false) (hg : s.space.Grows w)
    (he : e.Sound w) (hnew : s.session.map.contains e.key = false) :
    Move s [.returned e.key e.handle] ⟨s.session.keep e snapshot, w⟩
  /-- A row is added at once. -/
  | produce {s w e} (snapshot) (ho : s.session.closed = false) (hg : s.space.Grows w)
    (he : e.Sound w) : Move s [e.production] ⟨s.session.keep e snapshot, w⟩
  | queuePersist {s h} (ho : s.session.closed = false) (hh : h < s.space.heap.next) :
    Move s [] { s with session := { s.session with
      queue := s.session.queue.add (.persist h false) } }
  | queueMerge {s e} (version) (ho : s.session.closed = false) (he : e ∈ s.session.map.values)
    (hk : s.session.map.contains e.key = true) (hfree : s.session.Free .merge e.key) :
    Move s [] { s with session := { s.session with
      queue := s.session.queue.add (.merge e version) } }
  | queueRemove {s e} (ho : s.session.closed = false) (he : e ∈ s.session.map.values)
    (hk : s.session.map.contains e.key = true) (hfree : s.session.Free .remove e.key) :
    Move s [] { s with session := { s.session with
      queue := s.session.queue.add (.remove e) } }
  /-- Some of the queued actions were carried out. -/
  | settle {s w done left es t} (ho : s.session.closed = false) (hg : s.space.Grows w)
    (hq : s.session.queue.ordered = done ++ left)
    (hes : es.map (·.handle) = done.filterMap Action.inserts) (hsound : ∀ e ∈ es, e.Sound w)
    (ht : ({ s.session with queue := ⟨left⟩ } : Session).Keeps
      (es ++ done.filterMap Action.updates) t) :
    Move s (es.map Entry.production ++ (done.filterMap Action.deletes).map .evicted)
      ⟨t.forgetAll (done.filterMap Action.deletes), w⟩
  /-- The queued actions are dropped. -/
  | drop {s} (ho : s.session.closed = false) :
    Move s [] { s with session := { s.session with queue := {} } }
  /-- A transaction is opened or ended. -/
  | switch {s} (active) (ho : s.session.closed = false) :
    Move s [] { s with session := { s.session with active := active } }
  | close {s} (ho : s.session.closed = false) (hq : s.session.queue.actions = []) :
    Move s [] { s with session := { s.session with
      map := .empty, snapshots := .empty, closed := true } }

/-- Any number of moves, with all their events. -/
inductive Moves (s : SessionState σ) : List SessionEvent → SessionState σ → Prop
  | refl : Moves s [] s
  | tail {evs evs' t u} (h : Moves s evs t) (m : Move t evs' u) : Moves s (evs ++ evs') u

namespace Moves

variable {s t u : SessionState σ} {evs evs' : List SessionEvent}

theorem one (m : Move s evs t) : Moves s evs t := by
  simpa using Moves.refl.tail m

theorem trans (h : Moves s evs t) (h' : Moves t evs' u) : Moves s (evs ++ evs') u := by
  induction h' with
  | refl => simpa using h
  | tail _ m ih => simpa [List.append_assoc] using ih.tail m

end Moves

end EntityMapper
