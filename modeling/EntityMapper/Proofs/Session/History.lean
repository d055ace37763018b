import EntityMapper.Proofs.Session.Ending
import EntityMapper.Proofs.Session.Searching
import EntityMapper.Session.Call
/-! Histories: runs of any operations of a session, with the events of each of them. -/

namespace EntityMapper

variable {σ : Type}

open Session Operation

/-- The instances that an answer gives for what was looked for. -/
def SessionAnswer.found : SessionAnswer → List Handle
  | done => []
  | count _ => []
  | one _ => []
  | option h => h.toList
  | all hs => hs

namespace SessionCall

variable (g : Gateway σ)

/-- The keys of the instances that an operation would find now: the key that it looks for if that
is known, and else the keys of what it loads. -/
def keysFound (s : SessionState σ) : SessionCall → List EntityKey
  | merge i => [.ofInstance i]
  | findById t id =>
    match s.session.map.handle? s.space.heap t (.of t id) with
    | some _ => [.of t id]
    | none => keysLoaded (Option.toList <$> g.load t id.identity) s
  | findBy t field v => keysLoaded (Option.toList <$> g.findBy t field v) s
  | findAllBy t field v => keysLoaded (g.findAllBy t field v) s
  | nativeBy t sql params => keysLoaded (Option.toList <$> g.nativeBy t sql params) s
  | nativeAll t sql params => keysLoaded (g.nativeAll t sql params) s
  | queryBy t q => keysQueried g (fun c => Option.toList <$> g.nativeBy t c.sql c.params) t q s
  | queryAll t q => keysQueried g (fun c => g.nativeAll t c.sql c.params) t q s
  | _ => []

/-- The events of what an operation would write now. -/
def eventsWritten (s : SessionState σ) : SessionCall → List SessionEvent
  | persist i => (added g i s).1.toOption.toList.map Entry.production
  | flush => (drained g s).1.outcome.events
  | commit => if s.session.active then (drained g s).1.outcome.events else []
  | close => closingEvents g s
  | _ => []

/-- The instances that an operation gives for what it looks for. -/
def handlesFound (c : SessionCall) (s : SessionState σ) : List Handle :=
  ((SessionAnswer.found <$> c.run g) s).1.toOption.getD []

def events (c : SessionCall) (s : SessionState σ) : List SessionEvent :=
  if s.session.closed then []
  else SessionEvent.given (c.keysFound g s) (c.handlesFound g s) ++ c.eventsWritten g s

variable {s : SessionState σ}

section Closed

variable {α β : Type} (hc : s.session.closed = true)

include hc

theorem map_of_closed (f : α → β) (x : Unit → Operation σ α) :
    (f <$> (ensureOpen >>= x)) s = (.error .sessionClosed, s) := by
  rw [map_apply, bind_of_closed hc]
  rfl

theorem map_query_of_closed (t : EntityType) (q : EntityQuery) (f : α → β)
    (x : CompiledQuery → Operation σ α) :
    (f <$> (compile g t q >>= x)) s = (.error .sessionClosed, s) := by
  rw [map_apply, bind_apply, compile, bind_of_closed hc]
  rfl

/-- A closed session refuses every operation, and nothing happens. -/
theorem run_of_closed (c : SessionCall) : c.run g s = (.error .sessionClosed, s) := by
  cases c with
  | queryBy t q => exact map_query_of_closed g hc t q _ _
  | queryAll t q => exact map_query_of_closed g hc t q _ _
  | _ => exact map_of_closed hc _ _

end Closed

/-- An operation makes moves with its events, and no instance that it gives lacks a key. -/
structure Explained (c : SessionCall) (s : SessionState σ) : Prop where
  moves : Moves s (SessionEvent.given (c.keysFound g s) (c.handlesFound g s) ++
    c.eventsWritten g s) (c.run g s).2
  length : (c.handlesFound g s).length ≤ (c.keysFound g s).length

namespace Explained

variable {g} {c : SessionCall}

theorem of_gives (hw : c.eventsWritten g s = [])
    (h : Gives s (c.keysFound g s) ((SessionAnswer.found <$> c.run g) s)) : Explained g c s := by
  refine ⟨?_, h.length⟩
  have hmoves := h.moves
  rw [map_apply] at hmoves
  rw [hw, List.append_nil, handlesFound, map_apply]
  exact hmoves

theorem of_option {op : Operation σ (Option Handle)} (hrun : c.run g = .option <$> op)
    (hw : c.eventsWritten g s = []) (h : Gives s (c.keysFound g s) ((Option.toList <$> op) s)) :
    Explained g c s := by
  refine .of_gives hw ?_
  rw [hrun, ← comp_map]
  exact h

theorem of_all {op : Operation σ (List Handle)} (hrun : c.run g = .all <$> op)
    (hw : c.eventsWritten g s = []) (h : Gives s (c.keysFound g s) (op s)) :
    Explained g c s := by
  refine .of_gives hw ?_
  have hid : SessionAnswer.found ∘ SessionAnswer.all = id := rfl
  rw [hrun, ← comp_map, hid, id_map]
  exact h

/-- An operation that looks for nothing gives nothing. -/
theorem of_written {α : Type} {f : α → SessionAnswer} {op : Operation σ α}
    (hrun : c.run g = f <$> op) (hf : ∀ v, (f v).found = []) (hk : c.keysFound g s = [])
    (h : Moves s (c.eventsWritten g s) (op s).2) : Explained g c s := by
  have hnone : c.handlesFound g s = [] := by
    rw [handlesFound, hrun, map_apply, map_apply]
    cases (op s).1 with
    | error e => rfl
    | ok v => exact hf v
  refine ⟨?_, by simp [hnone]⟩
  rw [hk, hrun, map_apply]
  exact h

end Explained

theorem explained_of_open (hs : s.Valid) (ho : s.session.closed = false) (c : SessionCall) :
    Explained g c s := by
  cases c with
  | persist i => exact .of_written rfl (fun _ => rfl) rfl (persist_moves g ho i).1
  | persistDeferred i => exact .of_written rfl (fun _ => rfl) rfl (persistDeferred_moves ho i)
  | merge i => exact .of_option rfl rfl (gives_merge g hs ho i)
  | remove h => exact .of_written rfl (fun _ => rfl) rfl (remove_moves hs ho h)
  | dirtyCheck => exact .of_written rfl (fun _ => rfl) rfl (dirtyCheck_moves g hs ho).1
  | flush => exact .of_written rfl (fun _ => rfl) rfl (flush_moves g hs ho)
  | close => exact .of_written rfl (fun _ => rfl) rfl (close_moves g hs ho)
  | begin => exact .of_written rfl (fun _ => rfl) rfl (begin_moves g ho)
  | commit => exact .of_written rfl (fun _ => rfl) rfl (commit_moves g hs ho)
  | rollback => exact .of_written rfl (fun _ => rfl) rfl (rollback_moves g ho)
  | findById t id => exact .of_option rfl rfl (gives_findById g hs ho t id)
  | findBy t field v => exact .of_option rfl rfl (gives_findBy g hs ho t field v)
  | findAllBy t field v => exact .of_all rfl rfl (gives_findAllBy g hs ho t field v)
  | nativeBy t sql params => exact .of_option rfl rfl (gives_nativeBy g hs ho t sql params)
  | nativeAll t sql params => exact .of_all rfl rfl (gives_nativeAll g hs ho t sql params)
  | queryBy t q => exact .of_option rfl rfl (gives_queryBy g hs ho t q)
  | queryAll t q => exact .of_all rfl rfl (gives_queryAll g hs ho t q)

/-- Every operation is a sequence of moves with its events. -/
theorem run_moves (hs : s.Valid) (c : SessionCall) : Moves s (c.events g s) (c.run g s).2 := by
  unfold events
  cases hc : s.session.closed with
  | true =>
    rw [run_of_closed g hc]
    exact .refl
  | false => exact (explained_of_open g hs hc c).moves

end SessionCall

/-- A run of a session, with its events: operations in any order, and between them whatever others
do to the store and the caller to shared instances. -/
inductive SessionRun (g : Gateway σ) (s : SessionState σ) :
    List SessionEvent → SessionState σ → Prop
  | refl : SessionRun g s [] s
  | call {evs t} (h : SessionRun g s evs t) (c : SessionCall) :
    SessionRun g s (evs ++ c.events g t) (c.run g t).2
  | turn {evs t w} (h : SessionRun g s evs t) (hg : t.space.Grows w) :
    SessionRun g s evs { t with space := w }

namespace SessionRun

variable {g : Gateway σ} {s t : SessionState σ} {evs : List SessionEvent}

theorem moves (h : SessionRun g s evs t) (hs : s.Valid) : Moves s evs t := by
  induction h with
  | refl => exact .refl
  | call h c ih => exact ih.trans (c.run_moves g (ih.valid hs))
  | turn h hg ih => simpa using ih.tail (.work hg)

end SessionRun

end EntityMapper
