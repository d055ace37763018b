import EntityMapper.Proofs.Session.Moves
/-! What holds of a session after every move: its map, its snapshots and its queue stay in step. -/

namespace EntityMapper

namespace Session

/-- The map, the snapshots and the queue are in step. -/
structure Coherent (s : Session) : Prop where
  sameKeys : s.map.keys = s.snapshots.keys
  /-- Each entry is stored under its own key. -/
  ownKey : ∀ p ∈ s.map.entries, p.1 = p.2.key ∨ (p.1 == p.2.key) = true
  distinct : s.map.Distinct
  /-- What waits to be written or removed is known. -/
  known : ∀ a ∈ s.queue.actions, ∀ k ∈ a.key?, s.map.contains k = true
  /-- No two actions of one kind wait for one key. -/
  single : ∀ kind, (s.queue.ofKind kind).Pairwise fun a b =>
    ∀ k ∈ a.key?, ∀ l ∈ b.key?, (k == l) = false
  ended : s.closed = true →
    s.map.entries = [] ∧ s.snapshots.entries = [] ∧ s.queue.actions = []

namespace Coherent

variable {s : Session} (hs : s.Coherent)

include hs

/-- What a key finds has that key. -/
theorem key_of_find? {k : EntityKey} {e : Entry} (h : s.map.find? k = some e) :
    (e.key == k) = true := by
  obtain ⟨l, hl, hk⟩ := Assoc.mem_of_find? h
  rcases hs.ownKey (l, e) hl with heq | hbeq
  · rwa [← heq]
  · exact BEq.trans (BEq.symm hbeq) hk

theorem beq_own {p : EntityKey × Entry} (hp : p ∈ s.map.entries)
    (hk : s.map.contains p.2.key = true) : (p.1 == p.2.key) = true := by
  rcases hs.ownKey p hp with heq | hbeq
  · rw [heq]
    exact Assoc.beq_self_of_contains hk
  · exact hbeq

/-- A key that finds itself is known if its entity is. -/
theorem contains_of_beq_self {e : Entry} (he : e ∈ s.map.values)
    (hk : (e.key == e.key) = true) : s.map.contains e.key = true := by
  obtain ⟨p, hp, rfl⟩ := List.mem_map.mp he
  refine Assoc.contains_iff.mpr ⟨p.1, List.mem_map.mpr ⟨p, hp, rfl⟩, ?_⟩
  rcases hs.ownKey p hp with heq | hbeq
  · rw [heq]
    exact hk
  · exact hbeq

/-- What is known has a snapshot, and nothing else has. -/
theorem contains_iff_snapshot {k : EntityKey} :
    s.map.contains k = true ↔ ∃ snapshot, s.snapshots.find? k = some snapshot := by
  rw [Assoc.contains_congr hs.sameKeys, Assoc.contains]
  exact Option.isSome_iff_exists

/-- A known entity is found by its key. -/
theorem find?_of_mem_values {e : Entry} (he : e ∈ s.map.values)
    (hk : s.map.contains e.key = true) : s.map.find? e.key = some e := by
  obtain ⟨p, hp, rfl⟩ := List.mem_map.mp he
  exact Assoc.find?_of_mem hs.distinct hp (hs.beq_own hp hk)

/-- Among the known entities those with a known key differ in their keys. -/
theorem values_distinct :
    s.map.values.Pairwise fun e f => s.map.contains e.key = true →
      s.map.contains f.key = true → (e.key == f.key) = false := by
  refine List.pairwise_map.mpr ((List.pairwise_map.mp hs.distinct).imp_of_mem ?_)
  intro p q hp hq hne he hf
  rw [← BEq.congr_left (hs.beq_own hp he), ← BEq.congr_right (hs.beq_own hq hf)]
  exact hne

theorem keep (ho : s.closed = false) (e : Entry) (snapshot : Snapshot) :
    (s.keep e snapshot).Coherent := by
  refine ⟨Assoc.keys_insert_congr hs.sameKeys e.key e snapshot, fun p hp => ?_,
    Assoc.distinct_insert hs.distinct e.key e,
    fun a ha k hk => Assoc.contains_insert s.map e (hs.known a ha k hk), hs.single, fun hc => ?_⟩
  · rcases Assoc.mem_insert hp with hp | ⟨hv, hk⟩
    · exact hs.ownKey p hp
    · rwa [hv]
  · rw [show (s.keep e snapshot).closed = s.closed from rfl, ho] at hc
    cases hc

/-- The entity of a key is forgotten when no action waits for it. -/
theorem forget (ho : s.closed = false) {k : EntityKey}
    (hk : ∀ a ∈ s.queue.actions, ∀ l ∈ a.key?, (l == k) = false) : (s.forget k).Coherent := by
  refine ⟨Assoc.keys_erase_congr hs.sameKeys k, fun p hp => ?_, Assoc.distinct_erase hs.distinct k,
    fun a ha l hl => ?_, hs.single, fun hc => ?_⟩
  · exact hs.ownKey p (List.mem_of_mem_eraseP hp)
  · exact Assoc.contains_erase_of_not_beq s.map (BEq.symm_false (hk a ha l hl))
      (hs.known a ha l hl)
  · rw [show (s.forget k).closed = s.closed from rfl, ho] at hc
    cases hc

end Coherent

/-- Keeping entries changes neither the queue nor whether the session is open. -/
theorem Keeps.frame {s t : Session} {es : List Entry} (h : s.Keeps es t) :
    t.queue = s.queue ∧ t.closed = s.closed := by
  induction h with
  | nil s => exact ⟨rfl, rfl⟩
  | cons e snapshot _ ih => exact ih

theorem Keeps.coherent {s t : Session} {es : List Entry} (h : s.Keeps es t) (hs : s.Coherent)
    (ho : s.closed = false) : t.Coherent := by
  induction h with
  | nil s => exact hs
  | cons e snapshot _ ih => exact ih (hs.keep ho e snapshot) ho

theorem Coherent.forgetAll {s : Session} (hs : s.Coherent) (ho : s.closed = false)
    {ks : List EntityKey}
    (hks : ∀ k ∈ ks, ∀ a ∈ s.queue.actions, ∀ l ∈ a.key?, (l == k) = false) :
    (s.forgetAll ks).Coherent := by
  induction ks generalizing s with
  | nil => exact hs
  | cons k ks ih =>
    have hk := hs.forget ho (hks k List.mem_cons_self)
    exact ih hk ho fun l hl => hks l (List.mem_cons_of_mem k hl)

/-- What holds of all entries and of those that are kept holds of all entries afterwards. -/
theorem Keeps.entries {s t : Session} {es : List Entry} {C : Entry → Prop} (h : s.Keeps es t)
    (hs : ∀ p ∈ s.map.entries, C p.2) (hes : ∀ e ∈ es, C e) : ∀ p ∈ t.map.entries, C p.2 := by
  induction h with
  | nil s => exact hs
  | cons e snapshot _ ih =>
    refine ih (fun p hp => ?_) fun f hf => hes f (List.mem_cons_of_mem e hf)
    rcases Assoc.mem_insert hp with hp | ⟨hv, -⟩
    · exact hs p hp
    · rw [hv]
      exact hes e List.mem_cons_self

/-- Forgetting changes neither the queue nor whether the session is open, and adds no entry. -/
theorem forgetAll_frame (ks : List EntityKey) (s : Session) :
    (s.forgetAll ks).queue = s.queue ∧ (s.forgetAll ks).closed = s.closed ∧
      ∀ p ∈ (s.forgetAll ks).map.entries, p ∈ s.map.entries := by
  induction ks generalizing s with
  | nil => exact ⟨rfl, rfl, fun p hp => hp⟩
  | cons k ks ih =>
    obtain ⟨hq, hc, hp⟩ := ih (s.forget k)
    exact ⟨hq, hc, fun p h => List.mem_of_mem_eraseP (hp p h)⟩

end Session

namespace ActionQueue

/-- The order of a queue keeps its actions of each kind as they are. -/
theorem filter_ordered (q : ActionQueue) (kind : ActionKind) :
    q.ordered.filter (·.kind == kind) = q.ofKind kind := by
  have hsame (k : ActionKind) : (q.ofKind k).filter (·.kind == kind) =
      if k = kind then q.ofKind kind else [] := by
    unfold ofKind
    rw [List.filter_filter]
    split
    · rename_i h
      subst h
      simp
    · rename_i h
      apply List.filter_eq_nil_iff.mpr
      intro a _
      simp only [Bool.and_eq_true, beq_iff_eq, not_and]
      intro hk hl
      exact h (hl ▸ hk)
  unfold ordered
  rw [List.filter_append, List.filter_append, hsame, hsame, hsame]
  cases kind <;> simp

theorem mem_ordered {q : ActionQueue} {a : Action} : a ∈ q.ordered ↔ a ∈ q.actions := by
  unfold ordered ofKind
  simp only [List.mem_append, List.mem_filter, beq_iff_eq]
  cases a.kind <;> simp

/-- Nothing but removals comes after a removal. -/
theorem pairwise_ordered (q : ActionQueue) :
    q.ordered.Pairwise fun a b => a.kind = .remove → b.kind = .remove := by
  have hkind {kind : ActionKind} {a : Action} (ha : a ∈ q.ofKind kind) : a.kind = kind := by
    simpa [ofKind] using (List.mem_filter.mp ha).2
  have hleft {a : Action} (ha : a ∈ q.ofKind .persist ++ q.ofKind .merge) : a.kind ≠ .remove := by
    rcases List.mem_append.mp ha with ha | ha <;> rw [hkind ha] <;> decide
  refine List.pairwise_append.mpr ⟨?_, ?_, fun a ha b hb _ => hkind hb⟩
  · exact List.pairwise_of_forall_mem_list fun a ha b _ h => absurd h (hleft ha)
  · exact List.pairwise_of_forall_mem_list fun a _ b hb _ => hkind hb

section Split

variable {q : ActionQueue} {done left : List Action} (h : q.ordered = done ++ left)

include h

theorem mem_of_mem_left {a : Action} (ha : a ∈ left) : a ∈ q.actions :=
  mem_ordered.mp (by rw [h]; exact List.mem_append_right done ha)

theorem mem_of_mem_done {a : Action} (ha : a ∈ done) : a ∈ q.actions :=
  mem_ordered.mp (by rw [h]; exact List.mem_append_left left ha)

theorem ofKind_split (kind : ActionKind) :
    q.ofKind kind = done.filter (·.kind == kind) ++ left.filter (·.kind == kind) := by
  rw [← filter_ordered, h, List.filter_append]

/-- No action that comes after a removal is for the key that was removed. -/
theorem free_of_removed
    (hsingle : (q.ofKind .remove).Pairwise fun a b =>
      ∀ k ∈ a.key?, ∀ l ∈ b.key?, (k == l) = false)
    {k : EntityKey} (hk : k ∈ done.filterMap Action.deletes) {a : Action} (ha : a ∈ left) :
    ∀ l ∈ a.key?, (l == k) = false := by
  obtain ⟨e, he, rfl⟩ := Action.mem_deletes_iff.mp hk
  have hlast := q.pairwise_ordered
  rw [h, List.pairwise_append] at hlast
  have hkind := hlast.2.2 (.remove e) he a ha rfl
  rw [ofKind_split h, List.pairwise_append] at hsingle
  have hne := hsingle.2.2 (.remove e) (by simp [he, Action.kind]) a (by simp [ha, hkind])
  exact fun l hl => BEq.symm_false (hne e.key rfl l hl)

end Split

end ActionQueue

/-- What is left of a queue is in step as well. -/
theorem Session.Coherent.shorten {s : Session} (hs : s.Coherent) (ho : s.closed = false)
    {done left : List Action} (hq : s.queue.ordered = done ++ left) :
    Session.Coherent { s with queue := ⟨left⟩ } := by
  refine ⟨hs.sameKeys, hs.ownKey, hs.distinct,
    fun a ha => hs.known a (ActionQueue.mem_of_mem_left hq ha), fun kind => ?_, fun h => ?_⟩
  · have hsplit := hs.single kind
    rw [ActionQueue.ofKind_split hq, List.pairwise_append] at hsplit
    exact hsplit.2.1
  · rw [show _ = s.closed from rfl, ho] at h
    cases h

namespace SessionState

variable {σ : Type}

/-- The session is in step, and all that it knows or means to write is sound. -/
structure Valid (s : SessionState σ) : Prop where
  coherent : s.session.Coherent
  entries : ∀ p ∈ s.session.map.entries, p.2.Sound s.space
  actions : ∀ a ∈ s.session.queue.actions, a.Sound s.space

namespace Valid

/-- A session that was just made is valid. -/
theorem fresh (c : SessionConfig) (w : Workspace σ) : Valid ⟨{ config := c }, w⟩ where
  coherent := {
    sameKeys := rfl
    ownKey := by simp [Assoc.empty]
    distinct := .nil
    known := by simp
    single := by simp [ActionQueue.ofKind]
    ended := fun h => by cases h }
  entries := by simp [Assoc.empty]
  actions := by simp

variable {s : SessionState σ} {w : Workspace σ} (hs : s.Valid)

include hs

theorem work (hg : s.space.Grows w) : Valid { s with space := w } :=
  ⟨hs.coherent, fun p hp => (hs.entries p hp).mono hg, fun a ha => (hs.actions a ha).mono hg⟩

/-- What a key finds is sound. -/
theorem sound_of_find? {k : EntityKey} {e : Entry} (h : s.session.map.find? k = some e) :
    e.Sound s.space := by
  obtain ⟨l, hl, -⟩ := Assoc.mem_of_find? h
  exact hs.entries (l, e) hl

theorem keep (ho : s.session.closed = false) (hg : s.space.Grows w) {e : Entry}
    (he : e.Sound w) (snapshot : Snapshot) : Valid ⟨s.session.keep e snapshot, w⟩ := by
  refine ⟨hs.coherent.keep ho e snapshot, fun p hp => ?_, fun a ha => (hs.actions a ha).mono hg⟩
  rcases Assoc.mem_insert hp with hp | ⟨hv, -⟩
  · exact (hs.entries p hp).mono hg
  · rwa [hv]

/-- An action may be queued for a known key for which no other one of its kind waits. -/
theorem queue (ho : s.session.closed = false) {a : Action} (ha : a.Sound s.space)
    (hknown : ∀ k ∈ a.key?, s.session.map.contains k = true)
    (hfree : ∀ k ∈ a.key?, s.session.Free a.kind k) :
    Valid { s with session := { s.session with queue := s.session.queue.add a } } := by
  refine ⟨⟨hs.coherent.sameKeys, hs.coherent.ownKey, hs.coherent.distinct, fun b hb => ?_,
    fun kind => ?_, fun hc => ?_⟩, hs.entries, fun b hb => ?_⟩
  · rcases List.mem_append.mp hb with hb | hb
    · exact hs.coherent.known b hb
    · rwa [List.mem_singleton.mp hb]
  · dsimp only
    rw [ActionQueue.ofKind_add]
    refine List.pairwise_append.mpr ⟨hs.coherent.single kind, ?_, fun b hb c hc k hk l hl => ?_⟩
    · split <;> simp
    · split at hc
      · rename_i hkind
        rw [List.mem_singleton.mp hc] at hl
        exact hfree l hl b (hkind ▸ hb) k hk
      · cases hc
  · rw [show _ = s.session.closed from rfl, ho] at hc
    cases hc
  · rcases List.mem_append.mp hb with hb | hb
    · exact hs.actions b hb
    · rwa [List.mem_singleton.mp hb]

/-- Some of the queued actions were carried out, and what they wrote was taken note of. -/
theorem settle (ho : s.session.closed = false) (hg : s.space.Grows w) {done left : List Action}
    (hq : s.session.queue.ordered = done ++ left) {es : List Entry} {t : Session}
    (hsound : ∀ e ∈ es, e.Sound w)
    (ht : ({ s.session with queue := ⟨left⟩ } : Session).Keeps
      (es ++ done.filterMap Action.updates) t) :
    Valid ⟨t.forgetAll (done.filterMap Action.deletes), w⟩ := by
  have hc := hs.coherent
  have hleft := hc.shorten ho hq
  have hupdates : ∀ e ∈ done.filterMap Action.updates, e.Sound w := by
    intro e he
    obtain ⟨version, ha⟩ := Action.mem_updates_iff.mp he
    exact Entry.Sound.mono (hs.actions _ (ActionQueue.mem_of_mem_done hq ha)) hg
  obtain ⟨htq, htc⟩ := ht.frame
  obtain ⟨hfq, -, hfm⟩ := t.forgetAll_frame (done.filterMap Action.deletes)
  refine ⟨(ht.coherent hleft ho).forgetAll (htc.trans ho) fun k hk a ha => ?_, fun p hp => ?_,
    fun a ha => ?_⟩
  · rw [htq] at ha
    exact ActionQueue.free_of_removed hq (hc.single .remove) hk ha
  · have hentries := ht.entries (C := fun e => e.Sound w) (fun p hp => (hs.entries p hp).mono hg)
      fun e he => ?_
    · exact hentries p (hfm p hp)
    · rcases List.mem_append.mp he with he | he
      · exact hsound e he
      · exact hupdates e he
  · rw [hfq, htq] at ha
    exact (hs.actions a (ActionQueue.mem_of_mem_left hq ha)).mono hg

end Valid

end SessionState

variable {σ : Type} {s t : SessionState σ} {evs : List SessionEvent}

/-- Every move keeps a session valid. -/
theorem Move.valid (m : Move s evs t) (hs : s.Valid) : t.Valid := by
  cases m with
  | work hg => exact hs.work hg
  | hit hk => exact hs
  | adopt snapshot ho hg he hnew => exact hs.keep ho hg he snapshot
  | produce snapshot ho hg he => exact hs.keep ho hg he snapshot
  | queuePersist ho hh => exact hs.queue ho hh (fun k hk => by cases hk) fun k hk => by cases hk
  | queueMerge version ho he hk hfree =>
    obtain ⟨p, hp, rfl⟩ := List.mem_map.mp he
    refine hs.queue ho (hs.entries p hp) (fun k h => ?_) fun k h => ?_ <;> cases h
    · exact hk
    · exact hfree
  | queueRemove ho he hk hfree =>
    obtain ⟨p, hp, rfl⟩ := List.mem_map.mp he
    refine hs.queue ho (hs.entries p hp) (fun k h => ?_) fun k h => ?_ <;> cases h
    · exact hk
    · exact hfree
  | settle ho hg hq hes hsound ht => exact hs.settle ho hg hq hsound ht
  | drop ho =>
    obtain ⟨hsame, hown, hdistinct, -, -, hended⟩ := hs.coherent
    exact ⟨⟨hsame, hown, hdistinct, by simp, by simp [ActionQueue.ofKind],
      fun h => absurd (ho.symm.trans h) (by decide)⟩, hs.entries, by simp⟩
  | switch active ho =>
    obtain ⟨hsame, hown, hdistinct, hknown, hsingle, hended⟩ := hs.coherent
    exact ⟨⟨hsame, hown, hdistinct, hknown, hsingle, hended⟩, hs.entries, hs.actions⟩
  | close ho hq =>
    obtain ⟨-, -, -, -, hsingle, -⟩ := hs.coherent
    refine ⟨⟨rfl, by simp [Assoc.empty], .nil, by simp [hq], hsingle, fun _ => ⟨rfl, rfl, hq⟩⟩,
      by simp [Assoc.empty], by simp [hq]⟩

theorem Moves.valid (m : Moves s evs t) (hs : s.Valid) : t.Valid := by
  induction m with
  | refl => exact hs
  | tail _ m ih => exact m.valid ih

end EntityMapper
