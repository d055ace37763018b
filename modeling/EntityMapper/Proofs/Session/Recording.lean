import EntityMapper.Proofs.Flush.Storing
import EntityMapper.Proofs.Session.Writing
/-! Recording: what a flush takes note of are snapshots of what the rows hold that it wrote. -/

namespace EntityMapper

variable {σ : Type}

/-- The snapshot was taken of an instance of the type of a key. -/
structure Snapshot.TakenOf (snapshot : Snapshot) (g : Gateway σ) (w : Workspace σ) (k : EntityKey)
    (i : Instance) (m : Metadata) : Prop where
  known : i.type ∈ g.catalogue
  path : k.path? = some i.type.path
  resolved : w.journal.registry.find? i.type.path = some m
  fits : i.Fits
  eq : snapshot = .capture m i

/-- The snapshot was taken of an instance that is as the row of its entity is. A snapshot with `X`
may be of any instance of the type. -/
def Snapshot.Recalls (snapshot : Snapshot) (g : Gateway σ) (rows : σ → EntityType → List TableRow)
    (X : EntityKey → Snapshot → Prop) (w : Workspace σ) (k : EntityKey) : Prop :=
  ∃ i m, snapshot.TakenOf g w k i m ∧
    (X k snapshot ∨ ∃ r ∈ rows w.store i.type, i.type.HasId r k ∧ i.type.Shows r i.fieldValue)

/-- Each known entity has a snapshot that recalls its row. The entities with one of some keys need
not. -/
def Session.Recalls (s : Session) (g : Gateway σ) (rows : σ → EntityType → List TableRow)
    (X : EntityKey → Snapshot → Prop) (w : Workspace σ) (ks : List EntityKey) : Prop :=
  ∀ k e, s.map.find? k = some e → (∀ l ∈ ks, (l == k) = false) →
    ∃ snapshot, s.snapshots.find? k = some snapshot ∧ snapshot.Recalls g rows X w k

section Recalls

variable {g : Gateway σ} {rows : σ → EntityType → List TableRow} {X : EntityKey → Snapshot → Prop}
  {w v : Workspace σ} {ks : List EntityKey} {s : Session} {e : Entry}

/-- A snapshot recalls a row as long as the row is not lost. -/
theorem Snapshot.Recalls.mono {snapshot : Snapshot} {k : EntityKey}
    (h : snapshot.Recalls g rows X w k) (hg : w.Grows v) (hs : g.Spares rows ks w.store v.store)
    (hk : ∀ l ∈ ks, (l == k) = false) : snapshot.Recalls g rows X v k := by
  obtain ⟨i, m, ht, hor⟩ := h
  refine ⟨i, m, ⟨ht.known, ht.path, hg.journal _ _ ht.resolved, ht.fits, ht.eq⟩, ?_⟩
  refine hor.imp_right ?_
  rintro ⟨r, hr, hid, hshows⟩
  rcases hs _ ht.known r hr with hr | ⟨l, hl, hlid⟩
  · exact ⟨r, hr, hid, hshows⟩
  · have hlk := hlid.beq hid
    rw [hk l hl] at hlk
    cases hlk

/-- A snapshot of an instance that is stored recalls its row. -/
theorem Entry.Stored.recalls (h : e.Stored rows w) (he : e.Ready w)
    (hheap : w.heap.Fits g.catalogue) {m : Metadata}
    (hm : w.journal.registry.find? (w.heap.get e.handle).type.path = some m) {k : EntityKey}
    (hk : (e.key == k) = true) :
    (Snapshot.capture m (w.heap.get e.handle)).Recalls g rows X w k := by
  obtain ⟨r, hr, hid, hshows⟩ := h
  obtain ⟨hknown, hfits⟩ := hheap _ he.lt
  have hpath := (EntityKey.path?_eq_of_beq hk).symm.trans he.path
  exact ⟨_, m, ⟨hknown, hpath, hm, hfits, rfl⟩, .inr ⟨r, hr, hid k hk, hshows⟩⟩

namespace Session.Recalls

theorem mono (h : s.Recalls g rows X w []) (hg : w.Grows v)
    (hs : g.Spares rows ks w.store v.store) : s.Recalls g rows X v ks := by
  intro k e hk hks
  obtain ⟨snapshot, hfind, hrecalls⟩ := h k e hk (by simp)
  exact ⟨snapshot, hfind, hrecalls.mono hg hs hks⟩

/-- An entity becomes known with a snapshot that recalls its row. -/
theorem keep (h : s.Recalls g rows X w ks) (hks : ∀ k ∈ ks, k = e.key) {snapshot : Snapshot}
    (hm : ∀ k, (e.key == k) = true → snapshot.Recalls g rows X w k) :
    (s.keep e snapshot).Recalls g rows X w [] := by
  intro k f hk _
  cases hbeq : e.key == k with
  | true => exact ⟨snapshot, Assoc.find?_insert_of_beq _ hbeq _, hm k hbeq⟩
  | false =>
    have hkept : s.map.find? k = some f :=
      (Assoc.find?_insert_of_not_beq s.map hbeq e).symm.trans hk
    obtain ⟨old, hfind, hrecalls⟩ := h k f hkept fun l hl => by rw [hks l hl]; exact hbeq
    exact ⟨old, (Assoc.find?_insert_of_not_beq _ hbeq _).trans hfind, hrecalls⟩

theorem keepNow (h : s.Recalls g rows X w ks) (hks : ∀ k ∈ ks, k = e.key) (he : e.Ready w)
    (hstored : e.Stored rows w) (hheap : w.heap.Fits g.catalogue) :
    (s.keepNow w e).Recalls g rows X w [] := by
  obtain ⟨m, hm⟩ := he.resolved
  rw [Session.keepNow_of_find? hm]
  exact h.keep hks fun k hk => hstored.recalls he hheap hm hk

theorem forget {k : EntityKey} (h : s.Recalls g rows X w [k]) (hd : s.map.Distinct) :
    (s.forget k).Recalls g rows X w [] := by
  intro l f hl _
  cases hbeq : k == l with
  | true =>
    have hnone := Assoc.contains_erase_of_beq hd hbeq
    rw [Assoc.contains, show (s.map.erase k).find? l = some f from hl] at hnone
    cases hnone
  | false =>
    have hkept : s.map.find? l = some f :=
      (Assoc.find?_erase_of_not_beq s.map hbeq).symm.trans hl
    obtain ⟨old, hfind, hrecalls⟩ := h l f hkept (by simpa using hbeq)
    exact ⟨old, (Assoc.find?_erase_of_not_beq _ hbeq).trans hfind, hrecalls⟩

end Session.Recalls

end Recalls

namespace Session

/-- The session that has taken note of an action that was carried out. -/
def noted (w : Workspace σ) (s : Session) : Action → Session
  | .persist h _ => s.keepNow w (.ofHandle w.heap h)
  | .merge e _ => s.keepNow w e
  | .remove e => s.forget e.key

variable {s : Session} {w v : Workspace σ} {a : Action} {e : Entry}

theorem mem_values_keep {f : Entry} {snapshot : Snapshot}
    (hf : f ∈ (s.keep e snapshot).map.values) : f ∈ s.map.values ∨ f = e := by
  obtain ⟨p, hp, rfl⟩ := List.mem_map.mp hf
  rcases Assoc.mem_insert hp with hp | ⟨hv, -⟩
  · exact .inl (List.mem_map.mpr ⟨p, hp, rfl⟩)
  · exact .inr hv

theorem keepNow_congr (he : e.Ready w) (hg : w.Grows v)
    (h : v.heap.get e.handle = w.heap.get e.handle) : s.keepNow v e = s.keepNow w e := by
  obtain ⟨m, hm⟩ := he.resolved
  rw [keepNow_of_find? hm, keepNow_of_find? (m := m) (by rw [h]; exact hg.journal _ _ hm), h]

theorem distinct_noted (hs : s.map.Distinct) : (s.noted w a).map.Distinct := by
  have hkeep (e : Entry) : (s.keepNow w e).map.Distinct := by
    unfold keepNow
    split
    · exact Assoc.distinct_insert hs _ _
    · exact hs
  cases a with
  | persist l instant => exact hkeep _
  | merge e x => exact hkeep _
  | remove e => exact Assoc.distinct_erase hs _

/-- What is known after note was taken of an action was known before, or the action wrote it. -/
theorem mem_values_noted (he : e ∈ (s.noted w a).map.values) :
    e ∈ s.map.values ∨ e ∈ a.written w.heap := by
  have hkeep (f : Entry) (he : e ∈ (s.keepNow w f).map.values) : e ∈ s.map.values ∨ f = e := by
    unfold keepNow at he
    split at he
    · exact (mem_values_keep he).imp_right Eq.symm
    · exact .inl he
  cases a with
  | persist l instant => exact (hkeep _ he).imp_right (congrArg some)
  | merge f x => exact (hkeep _ he).imp_right (congrArg some)
  | remove f =>
    obtain ⟨p, hp, rfl⟩ := List.mem_map.mp he
    exact .inl (List.mem_map.mpr ⟨p, List.mem_of_mem_eraseP hp, rfl⟩)

theorem mem_values_foldl_noted {done : List Action}
    (he : e ∈ (done.foldl (·.noted w ·) s).map.values) :
    e ∈ s.map.values ∨ ∃ a ∈ done, e ∈ a.written w.heap := by
  induction done generalizing s with
  | nil => exact .inl he
  | cons a done ih =>
    rcases ih he with he | ⟨b, hb, hbe⟩
    · exact (mem_values_noted he).imp_right fun h => ⟨a, List.mem_cons_self, h⟩
    · exact .inr ⟨b, List.mem_cons_of_mem a hb, hbe⟩

end Session

section Congruence

variable {w v : Workspace σ} {a : Action}

theorem Action.written_congr {h h' : Heap} (heq : ∀ l ∈ a.handle?, h'.get l = h.get l) :
    a.written h' = a.written h := by
  cases a with
  | persist l instant => simp [written, Entry.ofHandle, heq l rfl]
  | _ => rfl

theorem Action.handle?_subset (a : Action) (rest : List Action) :
    a.handle?.toList ⊆ (a :: rest).filterMap Action.handle? := by
  intro l hl
  exact List.mem_filterMap.mpr ⟨a, List.mem_cons_self, by simpa using hl⟩

theorem Outcome.record_congr {h h' : Heap} (heq : ∀ l ∈ a.handle?, h'.get l = h.get l)
    (o : Outcome) : o.record h' a = o.record h a := by
  cases a with
  | persist l instant => simp [record, Entry.ofHandle, heq l rfl]
  | _ => rfl

/-- It does not matter when note is taken of an action, as long as its instance stays. -/
theorem Session.noted_congr (hready : ∀ e ∈ a.written w.heap, e.Ready w) (hg : w.Grows v)
    (h : ∀ l ∈ a.handle?, v.heap.get l = w.heap.get l) (s : Session) :
    s.noted v a = s.noted w a := by
  have hwritten := Action.written_congr h
  cases a with
  | persist l instant =>
    have hentry : Entry.ofHandle v.heap l = .ofHandle w.heap l := Option.some.inj hwritten
    change s.keepNow v (.ofHandle v.heap l) = s.keepNow w (.ofHandle w.heap l)
    rw [hentry]
    exact keepNow_congr (hready _ rfl) hg (h l rfl)
  | merge e x => exact keepNow_congr (hready e rfl) hg (h _ rfl)
  | remove e => rfl

end Congruence

namespace Gateway

variable {g : Gateway σ} {rows : σ → EntityType → List TableRow} {w v : Workspace σ}

/-- Once note is taken of an action that was carried out, the known entities are recalled. -/
theorem Stores.noted {a : Action} (h : g.Stores rows a w v a.key?.toList (a.written v.heap))
    (hready : ∀ e ∈ a.written v.heap, e.Ready v) (hg : w.Grows v)
    (hheap : v.heap.Fits g.catalogue) (hmaps : v.Maps g) {s : Session}
    {X : EntityKey → Snapshot → Prop} (hd : s.map.Distinct) (hs : s.Recalls g rows X w []) :
    (s.noted v a).Recalls g rows X v [] := by
  have hrecalls := hs.mono hg (h.spares hmaps)
  cases a with
  | persist l instant =>
    exact hrecalls.keepNow (by simp [Action.key?]) (hready _ rfl) (h.stored _ rfl hmaps) hheap
  | merge e x =>
    exact hrecalls.keepNow (by simp [Action.key?]) (hready e rfl) (h.stored e rfl hmaps) hheap
  | remove e => exact hrecalls.forget hd

/-- What a drain leaves of actions: it changed no instances but theirs, and some of the actions were
recorded. Once note is taken of these the known entities are recalled. -/
structure Writes (g : Gateway σ) (rows : σ → EntityType → List TableRow) (as : List Action)
    (o : Outcome) (w : Workspace σ) (d : Drained) (v : Workspace σ) : Prop where
  touches : w.Touches g.catalogue (as.filterMap Action.handle?) v
  recorded : ∃ done, as = done ++ d.left ∧ d.outcome = done.foldl (·.record v.heap ·) o ∧
    (∀ a ∈ done, ∀ e ∈ a.written v.heap, e.Ready v) ∧
    ∀ (s : Session) X, s.map.Distinct → s.Recalls g rows X w [] → v.Maps g →
      (done.foldl (·.noted v ·) s).Recalls g rows X v []

section Draining

variable (hrows : g.Tabular rows) (hc : g.catalogue.Formed)

include hrows hc

/-- An action that fails ends the drain. It may have been recorded nevertheless. -/
theorem writes_of_error {a : Action} {o written : Outcome} {e : Error}
    (hw : w.heap.Fits g.catalogue) (ha : a.Fits g.catalogue w)
    (hr : g.perform a o w = ((.error e, written), v)) (rest : List Action) :
    g.Writes rows (a :: rest) o w
      ⟨.error e, if written.size = o.size then a :: rest else rest, written⟩
      (v.note .warn "Action failed; remaining actions stay queued") := by
  have hg := g.steady_perform a o w
  have hcases := perform_stores hrows hc hw ha o
  rw [hr] at hg hcases
  have hnote := v.heap_note .warn "Action failed; remaining actions stay queued"
  have hgn : v.Grows (v.note .warn "Action failed; remaining actions stay queued") :=
    .of_heap (fun _ _ h => h) rfl
  have htouches : w.Touches g.catalogue ((a :: rest).filterMap Action.handle?)
      (v.note .warn "Action failed; remaining actions stay queued") := by
    have hown := hcases.elim (fun h => h.2.2.touches) fun h => h.2.2.touches
    exact ⟨fun l hl => (hown.mono (a.handle?_subset rest)).others l hl, hown.fits⟩
  rcases hcases with ⟨-, hsame, hstores⟩ | ⟨hwritten, hready, hstores⟩
  · obtain rfl : written = o := hsame
    refine ⟨htouches, [], by simp, rfl, by simp, fun s X _ hs hmaps => ?_⟩
    exact hs.mono (hg.trans hgn) (hstores.spares hmaps)
  · have hsize : ¬ written.size = o.size := by
      rw [show written = o.record v.heap a from hwritten, Outcome.size_record]
      omega
    refine ⟨htouches, [a], by simp [hsize], hwritten, ?_, fun s X hd hs hmaps => ?_⟩
    · simpa using fun e he => (hready e he).mono hgn
    · have hnoted := hstores.noted hready hg (hstores.touches.fits hw) hmaps hd hs
      have hcongr := Session.noted_congr hready hgn (fun _ _ => by rw [hnote]) s
      rw [List.foldl_cons, List.foldl_nil, hcongr]
      exact hnoted.mono hgn (.of_eq rfl)

omit hrows hc in
/-- An action that was carried out comes before what the rest of the drain has written, which leaves
the instance of the action alone. -/
theorem Writes.cons {a : Action} {rest : List Action} {o : Outcome} {d : Drained} {u : Workspace σ}
    (hstores : g.Stores rows a w v a.key?.toList (a.written v.heap))
    (hready : ∀ e ∈ a.written v.heap, e.Ready v) (hw : w.heap.Fits g.catalogue)
    (hwv : w.Grows v) (hvu : v.Grows u)
    (hdisjoint : ∀ l ∈ a.handle?, l ∉ rest.filterMap Action.handle?)
    (hrest : g.Writes rows rest (o.record v.heap a) v d u) :
    g.Writes rows (a :: rest) o w d u := by
  obtain ⟨done, hleft, hrecord, hreadies, hrecalls⟩ := hrest.recorded
  have hstays : ∀ l ∈ a.handle?, u.heap.get l = v.heap.get l :=
    fun l hl => hrest.touches.others l (hdisjoint l hl)
  refine ⟨?_, a :: done, congrArg (a :: ·) hleft, ?_, ?_, fun s X hd hs hmaps => ?_⟩
  · refine (hstores.touches.trans hrest.touches).mono
      (List.append_subset.mpr ⟨a.handle?_subset rest, ?_⟩)
    exact (List.sublist_cons_self a rest).filterMap _ |>.subset
  · rw [List.foldl_cons, Outcome.record_congr hstays]
    exact hrecord
  · refine List.forall_mem_cons.mpr ⟨?_, hreadies⟩
    rw [Action.written_congr hstays]
    exact fun e he => (hready e he).mono hvu
  · rw [List.foldl_cons, Session.noted_congr hready hvu hstays]
    exact hrecalls _ X (Session.distinct_noted hd)
      (hstores.noted hready hwv (hstores.touches.fits hw) (hmaps.of_grows hvu) hd hs) hmaps

theorem performAll_writes {as : List Action} (hw : w.heap.Fits g.catalogue)
    (has : ∀ a ∈ as, a.Fits g.catalogue w) (hnodup : (as.filterMap Action.handle?).Nodup)
    (o : Outcome) : g.Writes rows as o w (g.performAll as o w).1 (g.performAll as o w).2 := by
  induction as generalizing o w with
  | nil => exact ⟨.of_heap rfl, [], rfl, rfl, by simp, fun s X _ hs _ => hs⟩
  | cons a rest ih =>
    have ha := has a List.mem_cons_self
    have hg := g.steady_perform a o w
    have hcases := perform_stores hrows hc hw ha o
    rcases hr : g.perform a o w with ⟨⟨e | u, written⟩, v⟩ <;> rw [hr] at hg hcases
    · rw [g.performAll_of_error hr]
      exact writes_of_error hrows hc hw ha hr rest
    · rcases hcases with ⟨⟨e, he⟩, -⟩ | ⟨hwritten, hready, hstores⟩
      · cases he
      obtain rfl : written = o.record v.heap a := hwritten
      rw [g.performAll_of_ok hr]
      obtain ⟨hdisjoint, hnodup⟩ : (∀ l ∈ a.handle?, l ∉ rest.filterMap Action.handle?) ∧
          (rest.filterMap Action.handle?).Nodup := by
        cases hh : a.handle? with
        | none => simpa [hh] using hnodup
        | some l => simpa [List.filterMap_cons, hh] using hnodup
      have hrest := ih (hstores.touches.fits hw)
        (fun b hb => (has b (List.mem_cons_of_mem a hb)).mono hg) hnodup (o.record v.heap a)
      exact hrest.cons hstores hready hw hg (steady_performAll g rest _ v) hdisjoint

end Draining

end Gateway

/-- What is recorded of actions, by kind. -/
theorem Outcome.foldl_record (heap : Heap) (done : List Action) (o : Outcome) :
    done.foldl (·.record heap ·) o =
      ⟨o.persisted ++ (done.filterMap Action.inserts).map (.ofHandle heap),
        o.merged ++ done.filterMap Action.updates,
        o.removed ++ done.filterMap Action.deletes⟩ := by
  induction done generalizing o with
  | nil => simp
  | cons a done ih =>
    rw [List.foldl_cons, ih]
    cases a <;>
      simp [record, List.filterMap_cons, Action.inserts, Action.updates, Action.deletes]

/-- The actions that a flush carried out stand by kind. -/
theorem ActionQueue.exists_kinds {q : ActionQueue} {done left : List Action}
    (h : q.ordered = done ++ left) : ∃ ps ms rs, done = ps ++ ms ++ rs ∧
      (∀ a ∈ ps, a.kind = .persist) ∧ (∀ a ∈ ms, a.kind = .merge) ∧
      ∀ a ∈ rs, a.kind = .remove := by
  have hdone : done = q.ordered.take done.length := by rw [h, List.take_left']; rfl
  rw [ordered, List.take_append, List.take_append] at hdone
  exact ⟨_, _, _, hdone, fun a ha => kind_of_mem_ofKind (List.mem_of_mem_take ha),
    fun a ha => kind_of_mem_ofKind (List.mem_of_mem_take ha),
    fun a ha => kind_of_mem_ofKind (List.mem_of_mem_take ha)⟩

namespace Session

section Folds

variable (w : Workspace σ) {as : List Action} (s : Session)

theorem foldl_noted_persists (h : ∀ a ∈ as, a.kind = .persist) :
    as.foldl (·.noted w ·) s =
      ((as.filterMap Action.inserts).map (.ofHandle w.heap)).foldl (·.keepNow w ·) s := by
  rw [List.foldl_map, List.foldl_filterMap]
  refine List.foldl_ext _ _ _ fun s a ha => ?_
  cases a with
  | persist l instant => rfl
  | _ => cases h _ ha

theorem foldl_noted_merges (h : ∀ a ∈ as, a.kind = .merge) :
    as.foldl (·.noted w ·) s = (as.filterMap Action.updates).foldl (·.keepNow w ·) s := by
  rw [List.foldl_filterMap]
  refine List.foldl_ext _ _ _ fun s a ha => ?_
  cases a with
  | merge e x => rfl
  | _ => cases h _ ha

theorem foldl_noted_removes (h : ∀ a ∈ as, a.kind = .remove) :
    as.foldl (·.noted w ·) s = s.forgetAll (as.filterMap Action.deletes) := by
  rw [forgetAll, List.foldl_filterMap]
  refine List.foldl_ext _ _ _ fun s a ha => ?_
  cases a with
  | remove e => rfl
  | _ => cases h _ ha

end Folds

/-- Taking note of what a flush carried out is taking note of its actions one by one. -/
theorem reconcile_noted (g : Gateway σ) {s : SessionState σ} {q : ActionQueue}
    {done left : List Action} (hq : q.ordered = done ++ left)
    (hready : ∀ a ∈ done, ∀ e ∈ a.written s.space.heap, e.Ready s.space) :
    reconcile g (done.foldl (·.record s.space.heap ·) {}) s =
      (.ok (), { s with session := done.foldl (·.noted s.space ·) s.session }) := by
  have hall : ∀ e ∈ (done.filterMap Action.inserts).map (.ofHandle s.space.heap) ++
      done.filterMap Action.updates, e.Ready s.space := by
    intro e he
    rcases List.mem_append.mp he with he | he
    · obtain ⟨l, hl, rfl⟩ := List.mem_map.mp he
      obtain ⟨a, ha, hal⟩ := List.mem_filterMap.mp hl
      refine hready a ha _ ?_
      cases a <;> cases hal
      rfl
    · obtain ⟨a, ha, hae⟩ := List.mem_filterMap.mp he
      refine hready a ha e ?_
      cases a <;> cases hae
      rfl
  rw [Outcome.foldl_record, reconcile_apply g (by simpa using hall)]
  obtain ⟨ps, ms, rs, rfl, hps, hms, hrs⟩ := ActionQueue.exists_kinds hq
  have hnone {kind : ActionKind} {as : List Action} {β : Type} {f : Action → Option β}
      (has : ∀ a ∈ as, a.kind = kind) (hf : ∀ a, a.kind = kind → f a = none) :
      as.filterMap f = [] :=
    List.filterMap_eq_nil_iff.mpr fun a ha => hf a (has a ha)
  simp only [List.foldl_append, foldl_noted_persists _ _ hps, foldl_noted_merges _ _ hms,
    foldl_noted_removes _ _ hrs, List.filterMap_append, List.nil_append]
  rw [hnone (f := Action.inserts) hms (by intro a ha; cases a <;> cases ha; rfl),
    hnone (f := Action.inserts) hrs (by intro a ha; cases a <;> cases ha; rfl),
    hnone (f := Action.updates) hps (by intro a ha; cases a <;> cases ha; rfl),
    hnone (f := Action.updates) hrs (by intro a ha; cases a <;> cases ha; rfl),
    hnone (f := Action.deletes) hps (by intro a ha; cases a <;> cases ha; rfl),
    hnone (f := Action.deletes) hms (by intro a ha; cases a <;> cases ha; rfl)]
  simp

end Session

end EntityMapper
