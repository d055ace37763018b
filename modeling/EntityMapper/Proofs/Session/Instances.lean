import EntityMapper.Proofs.Session.Coherence
import EntityMapper.Proofs.Session.Sightings
/-! Instances of a session: all that is given out for a key is one shared instance, as long as its
row is neither removed nor added anew. -/

namespace EntityMapper

namespace Session

/-- The instance of a key is the given one, and so is that of every UPDATE that waits for it. -/
structure Holds (s : Session) (K : EntityKey) (h : Handle) : Prop where
  known : ∃ e, s.map.find? K = some e ∧ e.handle = h
  queued : ∀ a ∈ s.queue.actions, ∀ e ∈ a.updates, (e.key == K) = true → e.handle = h

variable {s t : Session} {K : EntityKey} {h : Handle} {e : Entry} {es : List Entry}

/-- What is written for a key that is not known is not queued either. -/
theorem Coherent.not_beq_of_mem (hs : s.Coherent) (hK : s.map.contains K = false) {a : Action}
    (ha : a ∈ s.queue.actions) (he : e ∈ a.updates) : (e.key == K) = false := by
  cases hk : e.key == K with
  | false => rfl
  | true =>
    have hkey : e.key ∈ a.key? := by
      cases a with
      | merge f expected =>
        cases he
        rfl
      | _ => cases he
    have hknown := Assoc.contains_of_beq hk (hs.known a ha e.key hkey)
    rw [hK] at hknown
    cases hknown

section Done

variable {done left : List Action} (hq : s.queue.ordered = done ++ left)

include hq

theorem Coherent.not_beq_of_done (hs : s.Coherent) (hK : s.map.contains K = false) :
    ∀ e ∈ done.filterMap Action.updates, (e.key == K) = false := by
  intro e he
  obtain ⟨a, ha, hae⟩ := List.mem_filterMap.mp he
  exact hs.not_beq_of_mem hK (ActionQueue.mem_of_mem_done hq ha) hae

theorem Holds.of_done (hh : s.Holds K h) :
    ∀ e ∈ done.filterMap Action.updates, (e.key == K) = true → e.handle = h := by
  intro e he
  obtain ⟨a, ha, hae⟩ := List.mem_filterMap.mp he
  exact hh.queued a (ActionQueue.mem_of_mem_done hq ha) e hae

end Done

/-- Keeping entries of other keys changes nothing for a key. -/
theorem Keeps.find? (ht : s.Keeps es t) (hes : ∀ e ∈ es, (e.key == K) = false) :
    t.map.find? K = s.map.find? K := by
  induction ht with
  | nil s => rfl
  | @cons s es t e snapshot _ ih =>
    obtain ⟨he, hes⟩ := List.forall_mem_cons.mp hes
    rw [ih hes]
    exact Assoc.find?_insert_of_not_beq s.map he e

/-- Keeping entries of one instance keeps that instance. -/
theorem Keeps.known (ht : s.Keeps es t) (hes : ∀ e ∈ es, (e.key == K) = true → e.handle = h)
    (hk : (∃ e, s.map.find? K = some e ∧ e.handle = h) ∨ ∃ e ∈ es, (e.key == K) = true) :
    ∃ e, t.map.find? K = some e ∧ e.handle = h := by
  induction ht with
  | nil s =>
    rcases hk with hk | ⟨e, he, -⟩
    · exact hk
    · cases he
  | @cons s es t e snapshot _ ih =>
    obtain ⟨he, hes⟩ := List.forall_mem_cons.mp hes
    refine ih hes ?_
    cases hbeq : e.key == K with
    | true => exact .inl ⟨e, Assoc.find?_insert_of_beq s.map hbeq e, he hbeq⟩
    | false =>
      rcases hk with hk | ⟨f, hf, hfk⟩
      · left
        rwa [show (s.keep e snapshot).map.find? K = s.map.find? K from
          Assoc.find?_insert_of_not_beq s.map hbeq e]
      · rcases List.mem_cons.mp hf with rfl | hf
        · rw [hbeq] at hfk
          cases hfk
        · exact .inr ⟨f, hf, hfk⟩

/-- Forgetting other keys changes nothing for a key. -/
theorem find?_forgetAll {ks : List EntityKey} (hks : ∀ k ∈ ks, (k == K) = false) (s : Session) :
    (s.forgetAll ks).map.find? K = s.map.find? K := by
  induction ks generalizing s with
  | nil => rfl
  | cons k ks ih =>
    obtain ⟨hk, hks⟩ := List.forall_mem_cons.mp hks
    exact (ih hks (s.forget k)).trans (Assoc.find?_erase_of_not_beq s.map hk)

theorem contains_forgetAll_false {ks : List EntityKey} (hK : s.map.contains K = false) :
    (s.forgetAll ks).map.contains K = false := by
  induction ks generalizing s with
  | nil => exact hK
  | cons k ks ih => exact ih (s := s.forget k) (Assoc.contains_erase_false hK)

theorem contains_forgetAll_of_beq {ks : List EntityKey} (hs : s.map.Distinct)
    (hks : ∃ k ∈ ks, (k == K) = true) : (s.forgetAll ks).map.contains K = false := by
  induction ks generalizing s with
  | nil =>
    obtain ⟨k, hk, -⟩ := hks
    cases hk
  | cons k ks ih =>
    cases hbeq : k == K with
    | true =>
      exact contains_forgetAll_false (s := s.forget k) (Assoc.contains_erase_of_beq hs hbeq)
    | false =>
      obtain ⟨l, hl, hlk⟩ := hks
      rcases List.mem_cons.mp hl with rfl | hl
      · rw [hbeq] at hlk
        cases hlk
      · exact ih (s := s.forget k) (Assoc.distinct_erase hs k) ⟨l, hl, hlk⟩

/-- What an open session has of a key fits what was seen of it, unless the key was given to another
row: nothing if it was not seen, and else the instance that was seen. -/
def Fits (K : EntityKey) (seen : List SessionEvent) (s : Session) : Prop :=
  s.closed = false → SessionEvent.Unrepeated seen →
    (seen = [] ∧ s.map.contains K = false) ∨
      ∃ h, seen ≠ [] ∧ (∀ e ∈ seen, e.handle? = some h) ∧ s.Holds K h

namespace Fits

variable {seen : List SessionEvent} (hf : Fits K seen s)

include hf

/-- The map is the same, and an UPDATE that was queued is for what the map has. -/
theorem of_map (hm : t.map = s.map) (hc : t.closed = s.closed)
    (hq : ∀ a ∈ t.queue.actions, ∀ e ∈ a.updates,
      a ∈ s.queue.actions ∨ ((e.key == K) = true → s.map.find? K = some e)) :
    Fits K seen t := by
  intro ho hu
  rcases hf (hc ▸ ho) hu with ⟨hseen, hK⟩ | ⟨h, hne, hall, hholds⟩
  · exact .inl ⟨hseen, hm ▸ hK⟩
  · refine .inr ⟨h, hne, hall, hm ▸ hholds.known, fun a ha e he hk => ?_⟩
    rcases hq a ha e he with hin | hfound
    · exact hholds.queued a hin e he hk
    · obtain ⟨f, hfind, hh⟩ := hholds.known
      rw [hfound hk] at hfind
      cases hfind
      exact hh

/-- An action is queued. If it is an UPDATE, it is for what the map has. -/
theorem queue {b : Action} (hb : ∀ e ∈ b.updates, (e.key == K) = true → s.map.find? K = some e) :
    Fits K seen { s with queue := s.queue.add b } := by
  refine hf.of_map rfl rfl fun a ha e he => ?_
  rcases List.mem_append.mp ha with ha | ha
  · exact .inl ha
  · rw [List.mem_singleton.mp ha] at he
    exact .inr (hb e he)

theorem keep_other (hk : (e.key == K) = false) (snapshot : Snapshot) :
    Fits K seen (s.keep e snapshot) := by
  have hfind : (s.keep e snapshot).map.find? K = s.map.find? K :=
    Assoc.find?_insert_of_not_beq s.map hk e
  intro ho hu
  rcases hf ho hu with ⟨hseen, hK⟩ | ⟨h, hne, hall, hholds⟩
  · refine .inl ⟨hseen, ?_⟩
    rwa [Assoc.contains, hfind]
  · exact .inr ⟨h, hne, hall, hfind ▸ hholds.known, hholds.queued⟩

omit hf in
/-- The first sighting of a key that was not known. -/
theorem first (hs : s.Coherent) (hK : s.map.contains K = false) (hk : (e.key == K) = true)
    (snapshot : Snapshot) {ev : SessionEvent} (hev : ev.handle? = some e.handle) :
    Fits K [ev] (s.keep e snapshot) := by
  refine fun _ _ => .inr ⟨e.handle, by simp, by simpa using hev, ?_, fun a ha f hf hfk => ?_⟩
  · exact ⟨e, Assoc.find?_insert_of_beq s.map hk e, rfl⟩
  · rw [hs.not_beq_of_mem hK ha hf] at hfk
    cases hfk

end Fits

end Session

section Moves

open SessionEvent

variable {σ : Type} {s t : SessionState σ} {evs : List SessionEvent} {K : EntityKey}

section Settle

variable {s t : Session} {seen : List SessionEvent} {done left : List Action} {es : List Entry}
  (hf : s.Fits K seen) (hs : s.Coherent) (ho : s.closed = false)
  (hq : s.queue.ordered = done ++ left)
  (ht : ({ s with queue := ⟨left⟩ } : Session).Keeps (es ++ done.filterMap Action.updates) t)
  (hks : ∀ k ∈ done.filterMap Action.deletes, (k == K) = false)

include hq ht in
theorem Session.Keeps.mem_queue {ks : List EntityKey} :
    ∀ a ∈ (t.forgetAll ks).queue.actions, a ∈ s.queue.actions := by
  intro a ha
  rw [(Session.forgetAll_frame ks t).1, ht.frame.1] at ha
  exact ActionQueue.mem_of_mem_left hq ha

include hf hs ho hq ht hks

/-- No row of the key was added: what was known of it stays. -/
theorem Session.Fits.settle_others (hes : ∀ e ∈ es, (e.key == K) = false) :
    (t.forgetAll (done.filterMap Action.deletes)).Fits K seen := by
  intro hopen hu
  have hfind := Session.find?_forgetAll hks t
  rcases hf ho hu with ⟨hseen, hK⟩ | ⟨h, hne, hall, hholds⟩
  · have hothers := List.forall_mem_append.mpr ⟨hes, hs.not_beq_of_done hq hK⟩
    refine .inl ⟨hseen, ?_⟩
    rw [Assoc.contains, hfind, ht.find? hothers]
    exact hK
  · refine .inr ⟨h, hne, hall, ?_, fun a ha => hholds.queued a (ht.mem_queue hq a ha)⟩
    rw [hfind]
    refine ht.known (List.forall_mem_append.mpr ⟨fun e he hk => ?_, hholds.of_done hq⟩)
      (.inl hholds.known)
    rw [hes e he] at hk
    cases hk

/-- One row of the key was added, before which the key was not known. -/
theorem Session.Fits.settle_added {e : Entry} (hone : es.filter (·.key == K) = [e])
    (hseen : seen = []) :
    (t.forgetAll (done.filterMap Action.deletes)).Fits K [e.production] := by
  obtain ⟨hmem, hk⟩ := List.mem_filter.mp (hone ▸ List.mem_cons_self : e ∈ es.filter _)
  have hK : s.map.contains K = false := by
    rcases hf ho (by simp [Unrepeated, hseen]) with ⟨-, hK⟩ | ⟨h, hne, -⟩
    · exact hK
    · exact absurd hseen hne
  refine fun _ _ => .inr
    ⟨e.handle, by simp, by simp [Entry.production, handle?], ?_, fun a ha f hf hfk => ?_⟩
  · rw [Session.find?_forgetAll hks t]
    refine ht.known (List.forall_mem_append.mpr ⟨fun f hfmem hfk => ?_, fun f hfmem hfk => ?_⟩)
      (.inr ⟨e, List.mem_append_left _ hmem, hk⟩)
    · have hin : f ∈ es.filter (·.key == K) := List.mem_filter.mpr ⟨hfmem, hfk⟩
      rw [hone] at hin
      rw [List.mem_singleton.mp hin]
    · rw [hs.not_beq_of_done hq hK f hfmem] at hfk
      cases hfk
  · rw [hs.not_beq_of_mem hK (ht.mem_queue hq a ha) hf] at hfk
    cases hfk

/-- The sightings of a key that are left when some of the queued actions were carried out. -/
theorem Session.Fits.settle : (t.forgetAll (done.filterMap Action.deletes)).Fits K
    (seen ++ (es.filter (·.key == K)).map Entry.production) := by
  cases hadded : es.filter (·.key == K) with
  | nil =>
    have hes : ∀ e ∈ es, (e.key == K) = false := by
      simpa [List.filter_eq_nil_iff] using hadded
    rw [List.map_nil, List.append_nil]
    exact hf.settle_others hs ho hq ht hks hes
  | cons e rest =>
    intro hopen hu
    rw [List.map_cons] at hu ⊢
    -- a second row of the key, or one after it was seen, is what `hu` excludes
    obtain rfl := hu.eq_nil rfl
    obtain rfl : rest = [] := by
      cases rest with
      | nil => rfl
      | cons f rest => cases hu f.production (by simp)
    exact hf.settle_added hs ho hq ht hks hadded rfl hopen hu

end Settle

section Seen

variable {s : Session} {seen : List SessionEvent} {e : Entry} (hf : s.Fits K seen)

include hf

/-- Giving out the instance of a key is one more sighting of it. -/
theorem Session.Fits.give {k : EntityKey} (hk : s.map.find? k = some e) :
    s.Fits K (sight K seen (.returned k e.handle)) := by
  cases hbeq : k == K with
  | false => rwa [sight_of_not_beq hbeq]
  | true =>
    rw [sight_of_beq hbeq rfl]
    rw [Assoc.find?_congr s.map hbeq] at hk
    intro ho hu
    rcases hf ho hu.of_append with ⟨-, hK⟩ | ⟨h, hne, hall, hholds⟩
    · rw [Assoc.contains, hk] at hK
      cases hK
    · obtain ⟨f, hfind, rfl⟩ := hholds.known
      rw [hk] at hfind
      cases hfind
      exact .inr ⟨e.handle, by simp, by simpa [or_imp, forall_and, handle?] using hall, hholds⟩

variable (hs : s.Coherent) (ho : s.closed = false)

include hs ho

/-- An instance is given out for a key that was not known. -/
theorem Session.Fits.adopt (hnew : s.map.contains e.key = false) (snapshot : Snapshot) :
    (s.keep e snapshot).Fits K (sight K seen (.returned e.key e.handle)) := by
  cases hbeq : e.key == K with
  | false =>
    rw [sight_of_not_beq hbeq]
    exact hf.keep_other hbeq snapshot
  | true =>
    rw [sight_of_beq hbeq rfl]
    have hK : s.map.contains K = false := by
      cases hc : s.map.contains K with
      | false => rfl
      | true =>
        rw [Assoc.contains_of_beq (BEq.symm hbeq) hc] at hnew
        cases hnew
    intro hopen hu
    rcases hf ho hu.of_append with ⟨rfl, -⟩ | ⟨h, -, -, hholds⟩
    · exact Session.Fits.first hs hK hbeq snapshot rfl hopen hu
    · obtain ⟨f, hfind, -⟩ := hholds.known
      rw [Assoc.contains, hfind] at hK
      cases hK

/-- A row is added, which may replace what was known of its key. -/
theorem Session.Fits.produce (snapshot : Snapshot) :
    (s.keep e snapshot).Fits K (sight K seen e.production) := by
  cases hbeq : e.key == K with
  | false =>
    rw [sight_of_not_beq hbeq]
    exact hf.keep_other hbeq snapshot
  | true =>
    rw [sight_of_beq hbeq rfl]
    intro hopen hu
    obtain rfl := hu.eq_nil rfl
    rcases hf ho hu.of_append with ⟨-, hK⟩ | ⟨h, hne, -, -⟩
    · exact Session.Fits.first hs hK hbeq snapshot rfl hopen hu
    · exact absurd rfl hne

end Seen

/-- Every move keeps what the session has of a key fitting. -/
theorem Move.fits (m : Move s evs t) (hs : s.Valid) {seen : List SessionEvent}
    (hf : s.session.Fits K seen) : t.session.Fits K (evs.foldl (sight K) seen) := by
  cases m with
  | work hg => exact hf
  | hit hk => exact hf.give hk
  | adopt snapshot ho hg he hnew => exact hf.adopt hs.coherent ho hnew snapshot
  | produce snapshot ho hg he => exact hf.produce hs.coherent ho snapshot
  | queuePersist ho hh => exact hf.queue fun e he => by cases he
  | @queueMerge f version ho hv hk hfree =>
    refine hf.queue fun e he hbeq => ?_
    cases he
    rw [← Assoc.find?_congr s.session.map hbeq]
    exact hs.coherent.find?_of_mem_values hv hk
  | queueRemove ho he hk hfree => exact hf.queue fun e he => by cases he
  | @settle w done left es u ho hg hq hes hsound ht =>
    rw [List.foldl_append, foldl_sight_productions, foldl_sight_evictions]
    cases hany : (done.filterMap Action.deletes).any (· == K) with
    | true =>
      have hdistinct := (ht.coherent (hs.coherent.shorten ho hq) ho).distinct
      exact fun _ _ => .inl ⟨rfl, Session.contains_forgetAll_of_beq hdistinct
        (List.any_eq_true.mp hany)⟩
    | false =>
      refine hf.settle hs.coherent ho hq ht fun k hk => ?_
      simpa using List.any_eq_false.mp hany k hk
  | drop ho => exact hf.of_map rfl rfl fun a ha => by cases ha
  | switch active ho => exact hf.of_map rfl rfl fun a ha e he => .inl ha
  | close ho hq => exact fun h => by cases h

theorem Move.consistent (m : Move s evs t) (hs : s.Valid) {before : List SessionEvent}
    (hc : Consistent K before) (hf : s.session.Fits K (sightings K before)) :
    Consistent K (before ++ evs) := by
  have hfits := m.fits hs hf
  rw [← sightings_append] at hfits
  have hseen (ho : t.session.closed = false) : Uniform (sightings K (before ++ evs)) := by
    intro hu
    rcases hfits ho hu with ⟨hnil, -⟩ | ⟨h, -, hall, -⟩
    · simp [hnil]
    · exact Uniform.of_forall hall hu
  cases m with
  | hit hk =>
    refine hc.concat (hseen ?_)
    cases ho : s.session.closed with
    | false => rfl
    | true =>
      obtain ⟨l, hl, -⟩ := Assoc.mem_of_find? hk
      rw [(hs.coherent.ended ho).1] at hl
      cases hl
  | adopt snapshot ho hg he hnew => exact hc.concat (hseen ho)
  | produce snapshot ho hg he =>
    exact hc.written fun e he => .inl (by rw [List.mem_singleton.mp he]; rfl)
  | settle ho hg hq hes hsound ht =>
    refine hc.written fun e he => ?_
    rcases List.mem_append.mp he with he | he
    · obtain ⟨f, -, rfl⟩ := List.mem_map.mp he
      exact .inl rfl
    · obtain ⟨k, -, rfl⟩ := List.mem_map.mp he
      exact .inr rfl
  | _ => rwa [List.append_nil]

theorem Moves.consistent (m : Moves s evs t) (hs : s.Valid)
    (hf : s.session.Fits K []) : Consistent K evs ∧ t.session.Fits K (sightings K evs) := by
  induction m with
  | refl => exact ⟨.nil, hf⟩
  | tail h m ih =>
    obtain ⟨hc, hfits⟩ := ih
    refine ⟨m.consistent (h.valid hs) hc hfits, ?_⟩
    rw [sightings_append]
    exact m.fits (h.valid hs) hfits

end Moves

def SessionAnswer.handles : SessionAnswer → List Handle
  | done => []
  | count _ => []
  | one h => [h]
  | option h => h.toList
  | all hs => hs

section Answers

variable {σ : Type} (g : Gateway σ) {s : SessionState σ}

theorem SessionEvent.exists_mem_given {ks : List EntityKey} {hs : List Handle}
    (hlen : hs.length ≤ ks.length) {h : Handle} (hh : h ∈ hs) :
    ∃ e ∈ SessionEvent.given ks hs, e.handle? = some h := by
  rw [← List.map_snd_zip hlen] at hh
  obtain ⟨p, hp, rfl⟩ := List.mem_map.mp hh
  exact ⟨.returned p.1 p.2, List.mem_map.mpr ⟨p, hp, rfl⟩, rfl⟩

/-- Only adding a row answers with one instance that was not looked for. -/
theorem SessionCall.eq_persist_of_one {c : SessionCall} {h : Handle}
    (hc : ∀ i, c ≠ .persistDeferred i) (ha : (c.run g s).1 = .ok (.one h)) :
    ∃ i, c = .persist i ∧ (Session.persist g i s).1 = .ok h := by
  have hmap {α : Type} {f : α → SessionAnswer} {op : Operation σ α}
      (hf : ∀ v, f v ≠ .one h) : ((f <$> op) s).1 ≠ .ok (.one h) := by
    rw [map_apply]
    cases (op s).1 with
    | error e => exact fun h => by cases h
    | ok v => exact fun h => hf v (Except.ok.inj h)
  cases c with
  | persist i =>
    refine ⟨i, rfl, ?_⟩
    unfold run at ha
    dsimp only at ha
    rw [map_apply] at ha
    cases hr : (Session.persist g i s).1 with
    | error e =>
      rw [hr] at ha
      cases ha
    | ok k =>
      rw [hr] at ha
      cases ha
      rfl
  | persistDeferred i => exact absurd rfl (hc i)
  | _ => exact absurd ha (hmap fun v hv => by cases hv)

/-- Each instance of an answer is in an event, unless its row is yet to be added. -/
theorem SessionCall.exists_mem_events (hs : s.Valid) {c : SessionCall}
    (hc : ∀ i, c ≠ .persistDeferred i) {a : SessionAnswer} (ha : (c.run g s).1 = .ok a)
    {h : Handle} (hh : h ∈ a.handles) : ∃ e ∈ c.events g s, e.handle? = some h := by
  cases hclosed : s.session.closed with
  | true =>
    rw [run_of_closed g hclosed] at ha
    cases ha
  | false =>
    have hfound : c.handlesFound g s = a.found := by
      rw [handlesFound, map_apply, ha]
      rfl
    have hlen := (explained_of_open g hs hclosed c).length
    have hlooked (hin : h ∈ a.found) : ∃ e ∈ c.events g s, e.handle? = some h := by
      obtain ⟨e, he, hhandle⟩ := SessionEvent.exists_mem_given hlen (hfound ▸ hin)
      refine ⟨e, ?_, hhandle⟩
      rw [events, hclosed]
      exact List.mem_append_left _ he
    cases a with
    | done => cases hh
    | count n => cases hh
    | one k =>
      obtain ⟨i, rfl, hrun⟩ := eq_persist_of_one g hc ha
      rw [List.mem_singleton.mp hh]
      obtain ⟨e, hadded, rfl⟩ := (Session.persist_moves g hclosed i).2.2 k hrun
      refine ⟨e.production, ?_, rfl⟩
      rw [events, hclosed]
      refine List.mem_append_right _ ?_
      simp [eventsWritten, hadded, Except.toOption]
    | option o => exact hlooked hh
    | all hs => exact hlooked hh

end Answers

/-- At each moment of a run all sightings of a key are of one instance, which an open session has
for it, unless the store gave the key to another row. Sightings are all instances that operations
answer. -/
theorem SessionRun.one_instance {σ : Type} {g : Gateway σ} {c : SessionConfig} {w : Workspace σ}
    {evs : List SessionEvent} {s : SessionState σ}
    (h : SessionRun g ⟨{ config := c }, w⟩ evs s) (K : EntityKey) :
    SessionEvent.Consistent K evs ∧
      (s.session.closed = false → SessionEvent.Unrepeated (SessionEvent.sightings K evs) →
        ∀ e ∈ SessionEvent.sightings K evs,
          e.handle? = (s.session.map.find? K).map (·.handle)) ∧
      ∀ (call : SessionCall) (a : SessionAnswer), (∀ i, call ≠ .persistDeferred i) →
        (call.run g s).1 = .ok a → ∀ i ∈ a.handles, ∃ e ∈ call.events g s, e.handle? = some i := by
  have hmoves := h.moves (.fresh c w)
  have hfresh : Session.Fits K [] { config := c } := fun _ _ => .inl ⟨rfl, rfl⟩
  obtain ⟨hconsistent, hfits⟩ := hmoves.consistent (.fresh c w) hfresh
  refine ⟨hconsistent, fun ho hu e he => ?_, fun call a hc ha i hi =>
    call.exists_mem_events g (hmoves.valid (.fresh c w)) hc ha hi⟩
  rcases hfits ho hu with ⟨hnil, -⟩ | ⟨j, -, hall, hholds⟩
  · rw [hnil] at he
    cases he
  · obtain ⟨f, hfind, rfl⟩ := hholds.known
    rw [hall e he, hfind]
    rfl

namespace SampleSession

/-- A session over a store that will answer a query with two rows of one identifier. -/
def twins : SessionState Script :=
  let row : List Value := [.big 1 IntWidth.big.holds_one]
  ⟨{ config := {} }, { store := { answers := [{}, { rows := some (["id"], [row, row]) }] } }⟩

def firstTag : EntityKey :=
  .of SampleTypes.tag (.big 1 IntWidth.big.holds_one)

/-- A tag that was added is found under a narrower form of its identifier, and twice in a list. -/
theorem one_instance_tag : ∃ evs s, SessionRun gateway twins evs s ∧
    (SessionEvent.sightings firstTag evs).length = 4 ∧
    (∀ e ∈ SessionEvent.sightings firstTag evs,
      e.handle? = (s.session.map.find? firstTag).map (·.handle)) ∧
    (s.session.map.find? firstTag).map (·.handle) = some 0 := by
  have hrun := (((SessionRun.refl (g := gateway) (s := twins)).call
    (.persist (.initial SampleTypes.tag))).call
      (.findById SampleTypes.tag (.integer .medium ⟨1, IntWidth.medium.holds_one⟩))).call
        (.nativeAll SampleTypes.tag "SELECT * FROM tags" [])
  have hone := SessionRun.one_instance hrun firstTag
  exact ⟨_, _, hrun, by decide, hone.2.1 (by decide) (by decide), by decide⟩

end SampleSession

end EntityMapper
