import EntityMapper.Proofs.Session.Coherence
import EntityMapper.Proofs.Session.Frames
import EntityMapper.Proofs.Session.Guarding
/-! Failing: an operation of a session that fails has left the session as it was, unless it performs
queued actions or ends a transaction. All that can fail is done before the session is changed. -/

namespace EntityMapper

variable {σ α β : Type}

/-- The second state has the session of the first one. -/
def SessionState.SameSession (s t : SessionState σ) : Prop :=
  t.session = s.session

instance : IsPreorder (SessionState σ) SessionState.SameSession where
  refl _ := rfl
  trans _ _ _ h h' := Eq.trans h' h

namespace Operation

open SessionState (SameSession)

theorem same_ofWork (x : Work σ α) : Within SameSession (ofWork x) :=
  fun _ => rfl

/-- Wherever an operation fails, it leaves the session as it was. -/
def AllOrNothing (x : Operation σ α) : Prop :=
  ∀ s e t, x s = (.error e, t) → t.session = s.session

namespace AllOrNothing

variable {x : Operation σ α}

theorem of_succeeds (h : ∀ s, ∃ v t, x s = (.ok v, t)) : AllOrNothing x := by
  intro s e t hx
  obtain ⟨v, u, hok⟩ := h s
  rw [hok] at hx
  cases hx

theorem of_within (h : Within SameSession x) : AllOrNothing x := by
  intro s e t hx
  have hs := h s
  rw [hx] at hs
  exact hs

theorem throw (e : Error) : AllOrNothing (MonadExcept.throw e : Operation σ α) :=
  of_within (.throw e)

/-- What comes first does not touch the session. -/
theorem bind {f : α → Operation σ β} (hx : Within SameSession x) (hf : ∀ v, AllOrNothing (f v)) :
    AllOrNothing (x >>= f) := by
  intro s e t h
  have hs := hx s
  rw [bind_apply] at h
  rcases hr : x s with ⟨e' | v, u⟩ <;> rw [hr] at hs h
  · cases h
    exact hs
  · exact (hf v u e t h).trans hs

theorem map_iff {f : α → β} : AllOrNothing (f <$> x) ↔ AllOrNothing x := by
  have hmap (s : SessionState σ) (e : Error) (t : SessionState σ) :
      (f <$> x) s = (.error e, t) ↔ x s = (.error e, t) := by
    rw [map_apply]
    rcases x s with ⟨e' | v, u⟩ <;> constructor <;> rintro ⟨⟩ <;> rfl
  exact ⟨fun h s e t hx => h s e t ((hmap s e t).mpr hx),
    fun h s e t hx => h s e t ((hmap s e t).mp hx)⟩

end AllOrNothing

end Operation

namespace Session

open Operation SessionState

variable (g : Gateway σ)

/-- Everything is loaded before anything is given out. -/
theorem allOrNothing_search {x : Work σ (List Instance)}
    (hx : Loaded (fun _ => True) IsResolved x) : AllOrNothing (ofWork x >>= manageAll g) := by
  intro s e t h
  rw [bind_apply, ofWork_apply] at h
  rcases hr : x s.space with ⟨e' | is, w⟩ <;> rw [hr] at h
  · cases h
    rfl
  · have hall := (keeper_resolved g).meets_manageAll is { s with space := w }
      ⟨trivial, hx s trivial is w hr⟩
    dsimp only at h
    rw [h] at hall
    exact hall.elim

theorem allOrNothing_searchOption {x : Work σ (Option Instance)}
    (hx : Loaded (fun _ => True) IsResolved (Option.toList <$> x)) :
    AllOrNothing (ofWork x >>= manageOption g) := by
  rw [← AllOrNothing.map_iff (f := Option.toList), toList_manageOption]
  exact allOrNothing_search g hx

theorem allOrNothing_findById (t : EntityType) (id : Value) :
    AllOrNothing (findById g t id) := by
  refine .bind .ensureOpen fun _ => .bind .session fun u => .bind .get fun v => ?_
  dsimp only
  split
  · exact .of_succeeds fun s => ⟨_, _, rfl⟩
  · exact allOrNothing_searchOption g ((loader_resolved g _).load t _ trivial)

theorem allOrNothing_findBy (t : EntityType) (field : String) (v : Value) :
    AllOrNothing (findBy g t field v) :=
  .bind .ensureOpen fun _ => allOrNothing_searchOption g
    ((loader_resolved g _).findAllBy t field v trivial).atMostOne

theorem allOrNothing_findAllBy (t : EntityType) (field : String) (v : Value) :
    AllOrNothing (findAllBy g t field v) :=
  .bind .ensureOpen fun _ => allOrNothing_search g
    ((loader_resolved g _).findAllBy t field v trivial)

theorem allOrNothing_nativeBy (t : EntityType) (sql : String) (params : List Value) :
    AllOrNothing (nativeBy g t sql params) :=
  .bind .ensureOpen fun _ => allOrNothing_searchOption g
    ((loader_resolved g _).nativeAll t sql params trivial).atMostOne

theorem allOrNothing_nativeAll (t : EntityType) (sql : String) (params : List Value) :
    AllOrNothing (nativeAll g t sql params) :=
  .bind .ensureOpen fun _ => allOrNothing_search g
    ((loader_resolved g _).nativeAll t sql params trivial)

theorem same_compile (t : EntityType) (q : EntityQuery) : Within SameSession (compile g t q) :=
  within_compile (fun _ => same_ofWork _) t q

theorem allOrNothing_queryBy (t : EntityType) (q : EntityQuery) : AllOrNothing (queryBy g t q) :=
  .bind (same_compile g t q) fun c => allOrNothing_nativeBy g t c.sql c.params

theorem allOrNothing_queryAll (t : EntityType) (q : EntityQuery) : AllOrNothing (queryAll g t q) :=
  .bind (same_compile g t q) fun c => allOrNothing_nativeAll g t c.sql c.params

/-- The row is added and its identifier is kept before the instance becomes known. -/
theorem allOrNothing_persist (i : Instance) : AllOrNothing (persist g i) := by
  intro s e t h
  cases hc : s.session.closed with
  | true =>
    unfold persist at h
    rw [bind_of_closed hc] at h
    cases h
    rfl
  | false =>
    rw [persist_apply g hc] at h
    rcases hr : added g i s with ⟨f | entry, v⟩ <;> rw [hr] at h
    · cases h
      rfl
    · cases h

theorem allOrNothing_persistDeferred (i : Instance) :
    AllOrNothing (persistDeferred i : Operation σ Handle) :=
  .bind .ensureOpen fun _ => .bind (same_ofWork _) fun _ => .of_succeeds fun _ => ⟨_, _, rfl⟩

/-- Nothing can fail any more once the row of an instance was loaded: its type is resolved then. -/
theorem allOrNothing_merge (i : Instance) : AllOrNothing (merge g i) := by
  intro s e t h
  cases hc : s.session.closed with
  | true =>
    unfold merge at h
    rw [bind_of_closed hc] at h
    cases h
    rfl
  | false =>
    cases hh : s.session.map.handle? s.space.heap i.type (.ofInstance i) with
    | some k =>
      rw [merge_known g hc hh] at h
      cases h
    | none =>
      rcases hr : g.load i.type (EntityKey.ofInstance i).id s.space with ⟨e' | o, w⟩
      · rw [merge_of_error g hc hh hr] at h
        cases h
        rfl
      · cases o with
        | none =>
          rw [merge_of_none g hc hh hr] at h
          cases h
        | some loaded =>
          obtain ⟨m, hm⟩ := resolved_of_load g hr
          rw [merge_of_some g hc hh hr hm] at h
          cases h

theorem allOrNothing_remove (k : Handle) : AllOrNothing (remove k : Operation σ Unit) := by
  refine .bind .ensureOpen fun _ => .bind .get fun u => .bind .session fun v => ?_
  split
  · exact .throw _
  · refine .bind .session fun w => ?_
    split
    · exact .of_succeeds fun _ => ⟨_, _, rfl⟩
    · exact .of_succeeds fun _ => ⟨_, _, rfl⟩

/-- All changes are found before the first of them is queued. -/
theorem allOrNothing_dirtyCheck : AllOrNothing (dirtyCheck g) := by
  refine .bind .ensureOpen fun _ => .bind .session fun u =>
    .bind (within_findDirty (fun _ => same_ofWork _) _) fun dirty => .of_succeeds fun s => ?_
  obtain ⟨events, hrun⟩ := forM_enqueue_apply dirty s
  rw [bind_apply, hrun]
  exact ⟨_, _, rfl⟩

theorem allOrNothing_begin : AllOrNothing (begin g) := by
  refine .bind .ensureOpen fun _ => .bind .session fun u => ?_
  split
  · exact .throw _
  · exact .bind (same_ofWork _) fun _ => .of_succeeds fun _ => ⟨_, _, rfl⟩

end Session

namespace SessionCall

open Operation Session

/-- Whether an operation that fails has done nothing to the session. The operations that perform
queued actions keep what they did before, and a rollback drops the queue first. -/
def allOrNothing : SessionCall → Bool
  | flush | close | commit | rollback => false
  | _ => true

theorem allOrNothing_run (g : Gateway σ) {c : SessionCall} (hc : c.allOrNothing = true) :
    AllOrNothing (c.run g) := by
  cases c with
  | persist i => exact AllOrNothing.map_iff.mpr (allOrNothing_persist g i)
  | persistDeferred i => exact AllOrNothing.map_iff.mpr (allOrNothing_persistDeferred i)
  | merge i => exact AllOrNothing.map_iff.mpr (allOrNothing_merge g i)
  | remove k => exact AllOrNothing.map_iff.mpr (allOrNothing_remove k)
  | dirtyCheck => exact AllOrNothing.map_iff.mpr (allOrNothing_dirtyCheck g)
  | begin => exact AllOrNothing.map_iff.mpr (allOrNothing_begin g)
  | findById t id => exact AllOrNothing.map_iff.mpr (allOrNothing_findById g t id)
  | findBy t field v => exact AllOrNothing.map_iff.mpr (allOrNothing_findBy g t field v)
  | findAllBy t field v => exact AllOrNothing.map_iff.mpr (allOrNothing_findAllBy g t field v)
  | nativeBy t sql params => exact AllOrNothing.map_iff.mpr (allOrNothing_nativeBy g t sql params)
  | nativeAll t sql params => exact AllOrNothing.map_iff.mpr (allOrNothing_nativeAll g t sql params)
  | queryBy t q => exact AllOrNothing.map_iff.mpr (allOrNothing_queryBy g t q)
  | queryAll t q => exact AllOrNothing.map_iff.mpr (allOrNothing_queryAll g t q)
  | flush | close | commit | rollback => cases hc

/-- An operation that fails leaves the map, the snapshots, the queue and the flags of the session
as they were, in any state, wherever in the operation and for whatever reason it fails. -/
theorem failed_call_changes_nothing (g : Gateway σ) {c : SessionCall}
    (hc : c.allOrNothing = true) {s t : SessionState σ} {e : Error}
    (h : c.run g s = (.error e, t)) : t.session = s.session :=
  allOrNothing_run g hc s e t h

end SessionCall

namespace SampleSession

/-- A session that knows one tag and has another one queued, over a store whose next answer is two
rows, of which the last is no tag. -/
def spoiled : SessionState Script :=
  let rows : List (List Value) := [[.big 0 IntWidth.big.holds_zero], [.text "one"]]
  ((SessionCall.persistDeferred (.initial SampleTypes.tag)).run gateway
    ((SessionCall.persist (.initial SampleTypes.tag)).run gateway
      ⟨{}, { store := { answers := [{}, { rows := some (["id"], rows) }] } }⟩).2).2

def allTags : SessionCall :=
  .nativeAll SampleTypes.tag "SELECT * FROM tags" []

theorem failed_call_changes_nothing_spoiled :
    spoiled.session.map.size = 1 ∧ spoiled.session.queue.size = 1 ∧
      (allTags.run gateway spoiled).1.isOk = false ∧
      (allTags.run gateway spoiled).2.session = spoiled.session := by
  have hfails : (allTags.run gateway spoiled).1.isOk = false := by decide
  refine ⟨by decide, by decide, hfails, ?_⟩
  rcases hr : allTags.run gateway spoiled with ⟨e | v, t⟩
  · exact SessionCall.failed_call_changes_nothing gateway (by decide) hr
  · rw [hr] at hfails
    cases hfails

end SampleSession

end EntityMapper
