import EntityMapper.Proofs.Flush.Draining
import EntityMapper.Proofs.Flush.Splitting
import EntityMapper.Proofs.Store.Rows
/-! Storing: what performing an action does to the shared instances, and to the rows of a store that
executes the statements of mappings as written. -/

namespace EntityMapper

variable {σ : Type}

section Heaps

variable {c : Catalogue} {h : Heap} {i : Instance}

/-- All shared instances are of types of a catalogue, and hold what the types show. -/
def Heap.Fits (h : Heap) (c : Catalogue) : Prop :=
  ∀ l < h.next, (h.get l).type ∈ c ∧ (h.get l).Fits

theorem Heap.Fits.push (hf : h.Fits c) (ht : i.type ∈ c) (hi : i.Fits) : (h.push i).Fits c := by
  intro l hl
  by_cases hnew : l = h.next
  · rw [hnew, Heap.get_push_self]
    exact ⟨ht, hi⟩
  · rw [Heap.get_push_of_ne h i hnew]
    exact hf l (Nat.lt_of_le_of_ne (Nat.le_of_lt_succ hl) hnew)

theorem Heap.Fits.set (hf : h.Fits c) {k : Handle} (ht : i.type = (h.get k).type)
    (hi : (h.get k).Fits → i.Fits) : (h.set k i).Fits c := by
  intro l hl
  obtain ⟨htype, hfits⟩ := hf l hl
  by_cases hk : l = k
  · subst hk
    rw [Heap.get_set_self, ht]
    exact ⟨htype, hi hfits⟩
  · rw [Heap.get_set_of_ne h i hk]
    exact ⟨htype, hfits⟩

/-- The second workspace differs from the first in no shared instances but those of some handles,
and they go on holding what their types show. -/
structure Workspace.Touches (c : Catalogue) (hs : List Handle) (w v : Workspace σ) : Prop where
  others : ∀ l, l ∉ hs → v.heap.get l = w.heap.get l
  fits : w.heap.Fits c → v.heap.Fits c

namespace Workspace.Touches

variable {hs ks : List Handle} {u v w : Workspace σ}

theorem of_heap (h : v.heap = w.heap) : w.Touches c hs v :=
  ⟨fun _ _ => by rw [h], fun hf => by rwa [h]⟩

theorem trans (huv : u.Touches c hs v) (hvw : v.Touches c ks w) : u.Touches c (hs ++ ks) w := by
  refine ⟨fun l hl => ?_, fun hf => hvw.fits (huv.fits hf)⟩
  rw [hvw.others l fun h => hl (List.mem_append_right hs h),
    huv.others l fun h => hl (List.mem_append_left ks h)]

theorem mono (h : w.Touches c hs v) (hsub : hs ⊆ ks) : w.Touches c ks v :=
  ⟨fun l hl => h.others l fun hmem => hl (hsub hmem), h.fits⟩

end Workspace.Touches

end Heaps

section Rows

variable {g : Gateway σ} {rows : σ → EntityType → List TableRow} {t : EntityType} {m : Metadata}
  {f : EntityField} {a : FieldType}

theorem Gateway.Mapped.eq_of_column (hm : g.Mapped t m) {p q : PersistentField}
    (hp : p ∈ m.persistent) (hq : q ∈ m.persistent) (h : p.column = q.column) : p = q :=
  List.inj_on_of_nodup_map hm.columns hp hq h

theorem Gateway.Mapped.insertable_nodup (hm : g.Mapped t m) :
    (m.insertable.map (·.column)).Nodup :=
  hm.columns.sublist (List.filter_sublist.map _)

/-- The identifier has a column of its own. -/
theorem Gateway.Mapped.id_not_mem (hm : g.Mapped t m) (ht : t.Formed) :
    m.id.column ∉ m.insertable.map (·.column) := by
  intro hid
  obtain ⟨p, hp, hcolumn⟩ := List.mem_map.mp hid
  obtain ⟨hp, hne⟩ := List.mem_filter.mp hp
  obtain ⟨f, a, -, hf, hmid⟩ := Metadata.id_of_formed ht hm.checked
  have heq := hm.eq_of_column hp (Metadata.mem_persistent hf hm.checked)
    (by rw [hcolumn, hmid])
  rw [heq, hmid] at hne
  simp at hne

/-- All plain fields but the identifier are written. -/
theorem Gateway.Mapped.mem_insertable (hm : g.Mapped t m) (ht : t.Formed) (hf : t.HasColumn f a)
    (hid : f.isId = false) : ⟨f.name, f.columnName, false⟩ ∈ m.insertable := by
  obtain ⟨f', a', hid', hf', hmid⟩ := Metadata.id_of_formed ht hm.checked
  refine List.mem_filter.mpr ⟨Metadata.mem_persistent hf hm.checked, ?_⟩
  have hne : f.name ≠ f'.name := by
    intro h
    obtain rfl := ht.eq_of_name hf.mem hf'.mem h
    have := List.find?_some hid'
    simp [hid] at this
  simpa [hmid] using hne

/-- The row that an INSERT adds has what the source has of all fields that it writes. -/
theorem Gateway.Tabular.inserted_row (hrows : g.Tabular rows) (hm : g.Mapped t m) (ht : t.Formed)
    {source : FieldSource} {key : Value} {s : σ}
    (h : (g.connection.insert (m.insertOf source) s).1 = .ok key) :
    g.Spares rows [] s (g.connection.insert (m.insertOf source) s).2 ∧
      ∃ r ∈ rows (g.connection.insert (m.insertOf source) s).2 t, r m.id.column = key ∧
        ∀ p ∈ m.insertable, r p.column = (source p.field).getD .null := by
  obtain ⟨hspares, r, hr, hkey, hzip⟩ := hrows.inserted t m _ _ key s hm hm.insertable_nodup
    (hm.id_not_mem ht) h
  refine ⟨hspares, r, hr, hkey, fun p hp => hzip (p.column, (source p.field).getD .null) ?_⟩
  rw [List.zip_map']
  exact List.mem_map.mpr ⟨p, hp, rfl⟩

/-- What an UPDATE does to the rows, and what the row that it writes has afterwards. -/
theorem Gateway.Tabular.updated_row (hrows : g.Tabular rows) (hm : g.Mapped t m) (ht : t.Formed)
    {k : EntityKey} (hk : k.IsOf t) {x : Value} {source : FieldSource} {plan : UpdatePlan}
    (hplan : m.updateOf (some x) k.id source = .ok plan) {n : Nat} {s : σ}
    (h : (g.connection.execute plan.command s).1 = .ok n) :
    g.Spares rows [k] s (g.connection.execute plan.command s).2 ∧
      (n = 0 → g.Spares rows [] s (g.connection.execute plan.command s).2) ∧
      ∃ step, m.versionStep (some x) source = .ok step ∧
        plan.nextVersion = step.map (fun p => p.2.2) ∧
        (0 < n → ∃ r ∈ rows (g.connection.execute plan.command s).2 t, t.HasId r k ∧
          ∀ p ∈ m.insertable, r p.column = Metadata.assignedValue step source p) := by
  obtain ⟨step, hstep, hu, hnext⟩ := Metadata.ofCommand?_updateOf hplan
  obtain ⟨hspares, hnone, hsome⟩ := hrows.updated t m k _ _ n s hm hk hu rfl rfl rfl
    (by simpa [Function.comp_def, Metadata.updatable] using hm.insertable_nodup)
    (by simpa [Function.comp_def, Metadata.updatable] using hm.id_not_mem ht) h
  refine ⟨hspares, hnone, step, hstep, hnext, fun hn => ?_⟩
  obtain ⟨r, hr, hid, hassigned⟩ := hsome hn
  exact ⟨r, hr, hid, fun p hp => hassigned _ (List.mem_map.mpr ⟨p, hp, rfl⟩)⟩

/-- The row that was added for an instance has what the instance holds, once it has the identifier
of the row. -/
theorem Instance.stored_of_insert (hm : g.Mapped t m) (ht : t.Formed) {i j : Instance}
    (hi : i.type = t) (hfits : i.Fits) {key : Value} (hj : i.setValue m.id.field key = .ok j)
    {r : TableRow} (hkey : r m.id.column = key)
    (hr : ∀ p ∈ m.insertable, r p.column = (i.fieldValue p.field).getD .null) :
    (∀ k, (EntityKey.ofInstance j == k) = true → t.HasId r k) ∧ t.Shows r j.fieldValue := by
  subst hi
  obtain ⟨f, a, hid, hf, hmid⟩ := Metadata.id_of_formed ht hm.checked
  rw [hmid] at hkey hj
  obtain ⟨v, hread, hslot, hothers⟩ := Instance.slot?_of_setValue ht hfits hf hj
  have htype := Instance.type_of_setValue hj
  refine ⟨fun k hk => ⟨f, a, v, hid, hf, by rw [hkey]; exact hread, ?_⟩, fun f' a' hf' hid' => ?_⟩
  · have hvalue : j.idValue = v := by simp [Instance.idValue, htype, hid, hslot, Slot.value?]
    rwa [EntityKey.ofInstance, htype, hvalue] at hk
  · have hne : f'.name ≠ f.name := by
      intro h
      obtain rfl := ht.eq_of_name hf'.mem hf.mem h
      have := List.find?_some hid
      simp [hid'] at this
    obtain ⟨u, hu, hshows⟩ := hfits f' a' hf'
    have hcell := hr _ (hm.mem_insertable ht hf' hid')
    rw [Instance.fieldValue_of_slot? hu] at hcell
    refine ⟨u, by rw [hcell]; exact FieldType.read_of_shows hshows, ?_⟩
    exact Instance.fieldValue_of_slot? ((hothers _ hne).trans hu)

/-- The row that was written for an instance has what the instance holds, once it has the version of
the row. -/
theorem Instance.stored_of_update (hm : g.Mapped t m) (ht : t.Formed) {i : Instance}
    (hi : i.type = t) (hfits : i.Fits) {x : Value}
    (hx : ∀ f a, t.versionField? = some f → t.HasColumn f a → x = .null ∨ a.Shows x)
    {step : Option (ColumnMapping × Value × Value)}
    (hstep : m.versionStep (some x) i.fieldValue = .ok step) {r : TableRow}
    (hr : ∀ p ∈ m.insertable, r p.column = Metadata.assignedValue step i.fieldValue p) :
    (step = none ∧ t.Shows r i.fieldValue) ∨
      ∃ f j next, t.versionField? = some f ∧ step.map (fun p => p.2.2) = some next ∧
        i.setValue f.name next = .ok j ∧ t.Shows r j.fieldValue := by
  subst hi
  have hkept {f : EntityField} {a : FieldType} (hf : i.type.HasColumn f a) (hid : f.isId = false)
      (hassigned : Metadata.assignedValue step i.fieldValue ⟨f.name, f.columnName, false⟩ =
        (i.fieldValue f.name).getD .null) :
      ∃ u, a.read (r f.columnName) = .ok u ∧ i.slot? f.name = some (.value u) := by
    obtain ⟨u, hu, hshows⟩ := hfits f a hf
    have hcell := hr _ (hm.mem_insertable ht hf hid)
    rw [hassigned, Instance.fieldValue_of_slot? hu] at hcell
    exact ⟨u, by rw [hcell]; exact FieldType.read_of_shows hshows, hu⟩
  rcases Metadata.version_of_formed ht hm.checked with ⟨hnone, -⟩ | ⟨f, a, hversion, hf, hint, hmv⟩
  · obtain rfl : step = none := by simpa [Metadata.versionStep, hnone] using hstep.symm
    refine .inl ⟨rfl, fun f a hf hid => ?_⟩
    obtain ⟨u, hread, hslot⟩ := hkept hf hid rfl
    exact ⟨u, hread, Instance.fieldValue_of_slot? hslot⟩
  · unfold Metadata.versionStep at hstep
    rw [hmv] at hstep
    cases hnext : x.nextVersion with
    | none => simp [hnext] at hstep
    | some next =>
      simp only [Option.getD_some, hnext, Except.ok.injEq] at hstep
      subst hstep
      obtain ⟨z, hz⟩ := FieldType.read_nextVersion hint (hx f a hversion hf) hnext
      have hset : i.setValue f.name next = .ok (i.setSlot f.name (.value z)) := by
        rw [Instance.setValue_column ht hf, hz]
        rfl
      obtain ⟨w, hw, hslot, hothers⟩ := Instance.slot?_of_setValue ht hfits hf hset
      refine .inr ⟨f, _, next, hversion, rfl, hset, fun f' a' hf' hid' => ?_⟩
      by_cases hname : f'.name = f.name
      · obtain rfl := ht.eq_of_name hf'.mem hf.mem hname
        obtain rfl := hf.unique hf'
        have hcell := hr _ (hm.mem_insertable ht hf' hid')
        simp only [Metadata.assignedValue, if_true] at hcell
        exact ⟨w, by rw [hcell]; exact hw, Instance.fieldValue_of_slot? hslot⟩
      · obtain ⟨u, hread, hu⟩ := hkept hf' hid' (by simp [Metadata.assignedValue, Ne.symm hname])
        exact ⟨u, hread, Instance.fieldValue_of_slot? ((hothers _ hname).trans hu)⟩

end Rows

namespace Action

/-- The handle of the instance that an action changes. -/
def handle? : Action → Option Handle
  | persist h _ => some h
  | merge e _ => some e.handle
  | remove _ => none

/-- The entry that is kept once an action was carried out. -/
def written (heap : Heap) : Action → Option Entry
  | persist h _ => some (.ofHandle heap h)
  | merge e _ => some e
  | remove _ => none

/-- What is written is shared, its key is one of its type, and so is the version that its row is
expected to have. -/
def Fits (c : Catalogue) (w : Workspace σ) : Action → Prop
  | persist h _ => h < w.heap.next
  | merge e x => e.handle < w.heap.next ∧ e.key.IsOf (w.heap.get e.handle).type ∧
    ∀ f a, (w.heap.get e.handle).type.versionField? = some f →
      (w.heap.get e.handle).type.HasColumn f a → x = .null ∨ a.Shows x
  | remove e => ∃ t ∈ c, e.key.IsOf t

theorem Fits.mono {c : Catalogue} {w v : Workspace σ} {a : Action} (h : a.Fits c w)
    (hg : w.Grows v) : a.Fits c v := by
  cases a with
  | persist k instant => exact Nat.lt_of_lt_of_le h hg.next
  | merge e x =>
    obtain ⟨hlt, hkey, hx⟩ := h
    refine ⟨Nat.lt_of_lt_of_le hlt hg.next, ?_⟩
    rw [hg.types _ hlt]
    exact ⟨hkey, hx⟩
  | remove e => exact h

theorem Fits.sound {c : Catalogue} {w : Workspace σ} {e : Entry} {x : Value}
    (h : (merge e x).Fits c w) : e.Sound w := by
  obtain ⟨hlt, ⟨f, a, v, -, -, -, hkey⟩, -⟩ := h
  exact ⟨hlt, by rw [hkey]; rfl⟩

end Action

/-- The mappings that are kept for types of the catalogue are right. -/
def Workspace.Maps (w : Workspace σ) (g : Gateway σ) : Prop :=
  ∀ t ∈ g.catalogue, ∀ m, w.journal.registry.find? t.path = some m → g.Mapped t m

theorem Workspace.Maps.of_grows {g : Gateway σ} {w v : Workspace σ} (h : v.Maps g)
    (hg : w.Grows v) : w.Maps g :=
  fun t ht m hm => h t ht m (hg.journal _ _ hm)

theorem Workspace.maps_of_checked {g : Gateway σ} {w : Workspace σ}
    (h : ∀ t ∈ g.catalogue, ∀ m ∈ w.journal.registry.find? t.path,
      (Metadata.ofDescriptor g.catalogue.schema t.descriptor).toOption = some m ∧
        (m.persistent.map (·.column)).Nodup) : w.Maps g :=
  fun t ht m hm => ⟨ht, eq_ok_of_toOption (h t ht m hm).1, (h t ht m hm).2⟩

/-- The store has a row of the entry, and the row has what the instance of the entry holds. -/
def Entry.Stored (e : Entry) (rows : σ → EntityType → List TableRow) (w : Workspace σ) : Prop :=
  ∃ r ∈ rows w.store (w.heap.get e.handle).type,
    (∀ k, (e.key == k) = true → (w.heap.get e.handle).type.HasId r k) ∧
      (w.heap.get e.handle).type.Shows r (w.heap.get e.handle).fieldValue

namespace Gateway

variable (g : Gateway σ) (rows : σ → EntityType → List TableRow)

/-- What performing an action leaves: it changed no instance but its own, no rows but those of some
keys, and the entry that is kept, if there is one, is stored. -/
structure Stores (a : Action) (w v : Workspace σ) (ks : List EntityKey) (kept : Option Entry) :
    Prop where
  touches : w.Touches g.catalogue a.handle?.toList v
  spares : v.Maps g → g.Spares rows ks w.store v.store
  stored : ∀ e ∈ kept, v.Maps g → e.Stored rows v

variable {g rows} {w v : Workspace σ}

/-- Nothing is kept of an action that changed nothing. -/
theorem Stores.of_spares {a : Action} (hheap : v.heap = w.heap)
    (h : v.Maps g → g.Spares rows [] w.store v.store) : g.Stores rows a w v [] none :=
  ⟨.of_heap hheap, h, by simp⟩

section Performing

variable (hrows : g.Tabular rows) (hc : g.catalogue.Formed) (hw : w.heap.Fits g.catalogue)

include hrows hc hw

theorem stores_persist {h : Handle} (hh : h < w.heap.next) (instant : Bool) :
    Meets (Eq w) (g.persist h)
      (fun e v => e = .ofHandle v.heap h ∧ g.Stores rows (.persist h instant) w v [] (some e))
      (fun v => g.Stores rows (.persist h instant) w v [] none) := by
  rintro _ rfl
  obtain ⟨hknown, hfits⟩ := hw h hh
  have ht := hc.types _ hknown
  obtain ⟨hheap, hstore⟩ := g.resolve_frame (w.heap.get h).type w
  rw [persist_apply]
  rcases hr : g.resolve (w.heap.get h).type w with ⟨e | m, u⟩ <;> rw [hr] at hheap hstore
  · exact .of_spares hheap fun _ => .of_eq (by rw [hstore])
  have hmapped (hmaps : u.Maps g) : g.Mapped (w.heap.get h).type m :=
    hmaps _ hknown m (find?_of_resolve hr)
  dsimp only
  cases ha : (g.connection.insert (m.insertOf (w.heap.get h).fieldValue) u.store).1 with
  | error f =>
    have hsame := hrows.refusedInsert _ f u.store ha
    exact .of_spares hheap fun _ => hstore ▸ hsame
  | ok key =>
    have hadded (hmaps : u.Maps g) := hrows.inserted_row (hmapped hmaps) ht ha
    have hspares (hmaps : u.Maps g) : g.Spares rows [] w.store
        (g.connection.insert (m.insertOf (w.heap.get h).fieldValue) u.store).2 := by
      rw [← hstore]
      exact (hadded hmaps).1
    by_cases hn : key.isNull = true
    · simp only [hn, if_true]
      exact .of_spares hheap hspares
    simp only [hn, Bool.false_eq_true, if_false]
    cases hset : (w.heap.get h).setValue m.id.field key with
    | error e => exact .of_spares hheap hspares
    | ok i =>
      have htype := Instance.type_of_setValue hset
      have hfit := Instance.fits_of_setValue ht hfits hset
      refine ⟨by simp [Entry.ofHandle], ⟨fun l hl => ?_, fun hf => hf.set htype fun _ => hfit⟩,
        hspares, fun e he hmaps => ?_⟩
      · exact Heap.get_set_of_ne _ _ fun heq => hl (by simp [heq, Action.handle?])
      · obtain ⟨-, r, hr, hkey, hcells⟩ := hadded hmaps
        obtain rfl := Option.mem_some.mp he
        unfold Entry.Stored
        simp only [Heap.get_set_self, htype]
        exact ⟨r, hr, Instance.stored_of_insert (hmapped hmaps) ht rfl hfits hset hkey hcells⟩

omit hrows hc hw in
theorem find?_of_resolveKey {k : EntityKey} {t : EntityType} (hk : k.IsOf t) {m : Metadata}
    (h : g.resolveKey k w = (.ok m, v)) : v.journal.registry.find? t.path = some m := by
  obtain ⟨f, a, x, -, -, -, rfl⟩ := hk
  exact find?_of_resolve h

omit hrows hw in
theorem touches_writeVersion {e : Entry} (he : (w.heap.get e.handle).type ∈ g.catalogue)
    (next : Option Value) : w.Touches g.catalogue [e.handle] (writeVersion e next w).2 := by
  rw [writeVersion_apply]
  split
  · rw [setValue_apply]
    cases hset : (w.heap.get e.handle).setValue _ _ with
    | error f => exact .of_heap rfl
    | ok i =>
      refine ⟨fun l hl => Heap.get_set_of_ne _ _ fun heq => hl (by simp [heq]), fun hf => ?_⟩
      exact hf.set (Instance.type_of_setValue hset) fun hfits =>
        Instance.fits_of_setValue (hc.types _ he) hfits hset
  · exact .of_heap rfl

omit hrows in
/-- The version of the row is put into the instance, so that it holds what the row has. -/
theorem stores_writeVersion {e : Entry} {x : Value} (ha : (Action.merge e x).Fits g.catalogue w)
    {m : Metadata} {step : Option (ColumnMapping × Value × Value)}
    (hstep : m.versionStep (some x) (w.heap.get e.handle).fieldValue = .ok step)
    (hheap : v.heap = w.heap) (hspares : v.Maps g → g.Spares rows [e.key] w.store v.store)
    (hrow : v.Maps g → g.Mapped (w.heap.get e.handle).type m ∧
      ∃ r ∈ rows v.store (w.heap.get e.handle).type, (w.heap.get e.handle).type.HasId r e.key ∧
        ∀ p ∈ m.insertable,
          r p.column = Metadata.assignedValue step (w.heap.get e.handle).fieldValue p) :
    g.Stores rows (.merge e x) w (writeVersion e (step.map fun p => p.2.2) v).2 [e.key]
      (some e) := by
  obtain ⟨hlt, -, hx⟩ := ha
  obtain ⟨hknown, hfits⟩ := hw _ hlt
  have htouches := touches_writeVersion hc (w := v) (e := e) (by rw [hheap]; exact hknown)
    (step.map fun p => p.2.2)
  have hgrows := steady_writeVersion e (step.map fun p => p.2.2) v
  refine ⟨⟨fun l hl => ?_, fun hf => htouches.fits (hheap ▸ hf)⟩, fun hmaps => ?_,
    fun f hf hmaps => ?_⟩
  · rw [htouches.others l (by simpa [Action.handle?] using hl), hheap]
  · rw [store_writeVersion]
    exact hspares (hmaps.of_grows hgrows)
  · obtain rfl := Option.mem_some.mp hf
    obtain ⟨hmapped, r, hr, hid, hcells⟩ := hrow (hmaps.of_grows hgrows)
    have hids (k : EntityKey) (hk : (e.key == k) = true) := hid.of_beq hk
    unfold Entry.Stored
    rw [store_writeVersion]
    rcases Instance.stored_of_update hmapped (hc.types _ hknown) rfl hfits hx hstep hcells with
      ⟨rfl, hshows⟩ | ⟨f, j, next, hversion, hnext, hset, hshows⟩
    · simp only [Option.map_none, writeVersion_apply, hheap]
      exact ⟨r, hr, hids, hshows⟩
    · simp only [hnext, writeVersion_apply, hheap, hversion, setValue_apply, hset,
        Heap.get_set_self, Instance.type_of_setValue hset]
      exact ⟨r, hr, hids, hshows⟩

theorem stores_update {e : Entry} {x : Value} (ha : (Action.merge e x).Fits g.catalogue w) :
    Meets (Eq w) (g.update e x)
      (fun next v => g.Stores rows (.merge e x) w (writeVersion e next v).2 [e.key] (some e))
      (fun v => g.Stores rows (.merge e x) w v [] none) := by
  rintro _ rfl
  obtain ⟨hlt, hkey, -⟩ := id ha
  obtain ⟨hknown, -⟩ := hw _ hlt
  have ht := hc.types _ hknown
  obtain ⟨hheap, hstore⟩ := g.resolveKey_frame e.key w
  rw [update_apply]
  rcases hr : g.resolveKey e.key w with ⟨f | m, u⟩ <;> rw [hr] at hheap hstore
  · exact .of_spares hheap fun _ => .of_eq (by rw [hstore])
  have hmapped (hmaps : u.Maps g) : g.Mapped (w.heap.get e.handle).type m :=
    hmaps _ hknown m (find?_of_resolveKey hkey hr)
  dsimp only at hheap hstore ⊢
  rw [hheap]
  cases hplan : m.updateOf (some x) e.key.id (w.heap.get e.handle).fieldValue with
  | error fault => exact .of_spares hheap fun _ => .of_eq (by rw [hstore])
  | ok plan =>
    dsimp only
    cases hans : (g.connection.execute plan.command u.store).1 with
    | error f =>
      have hsame := hrows.refusedExecute _ f u.store hans
      exact .of_spares hheap fun _ => hstore ▸ hsame
    | ok n =>
      have hwritten (hmaps : u.Maps g) := hrows.updated_row (hmapped hmaps) ht hkey hplan hans
      by_cases hn : n = 0
      · simp only [hn, if_true]
        refine .of_spares hheap fun hmaps => ?_
        rw [← hstore]
        exact (hwritten hmaps).2.1 hn
      · simp only [hn, if_false]
        obtain ⟨step, hstep, -, hnext⟩ := Metadata.ofCommand?_updateOf hplan
        rw [hnext]
        refine stores_writeVersion hc hw ha hstep hheap (fun hmaps => ?_) fun hmaps => ?_
        · rw [← hstore]
          exact (hwritten hmaps).1
        · obtain ⟨-, -, step', hstep', -, hrow⟩ := hwritten hmaps
          obtain rfl := Except.ok.inj (hstep.symm.trans hstep')
          exact ⟨hmapped hmaps, hrow (Nat.pos_of_ne_zero hn)⟩

omit hc hw in
theorem stores_remove {e : Entry} (ha : (Action.remove e).Fits g.catalogue w) :
    Meets (Eq w) (g.remove e.key)
      (fun _ v => g.Stores rows (.remove e) w v [e.key] none)
      (fun v => g.Stores rows (.remove e) w v [] none) := by
  rintro _ rfl
  obtain ⟨t, hknown, hkey⟩ := ha
  obtain ⟨hheap, hstore⟩ := g.resolveKey_frame e.key w
  rw [remove_apply]
  rcases hr : g.resolveKey e.key w with ⟨f | m, u⟩ <;> rw [hr] at hheap hstore
  · exact .of_spares hheap fun _ => .of_eq (by rw [hstore])
  have hmapped (hmaps : u.Maps g) : g.Mapped t m := hmaps _ hknown m (find?_of_resolveKey hkey hr)
  dsimp only at hheap hstore ⊢
  cases hans : (g.connection.execute ⟨m.deleteById, [e.key.id]⟩ u.store).1 with
  | error f =>
    have hsame := hrows.refusedExecute _ f u.store hans
    exact .of_spares hheap fun _ => hstore ▸ hsame
  | ok n =>
    have hdeleted (hmaps : u.Maps g) := hrows.deleted t m e.key n u.store (hmapped hmaps) hkey hans
    by_cases hn : n = 0
    · simp only [hn, if_true]
      refine .of_spares hheap fun hmaps => ?_
      rw [← hstore]
      exact (hdeleted hmaps).2 hn
    · simp only [hn, if_false]
      refine ⟨.of_heap hheap, fun hmaps => ?_, by simp⟩
      rw [← hstore]
      exact (hdeleted hmaps).1

/-- An action that is performed either fails, and then no row is lost, or it is recorded, and then
what is kept of it is stored and ready to be taken note of. -/
theorem perform_stores {a : Action} (ha : a.Fits g.catalogue w) (o : Outcome) :
    ((∃ e, (g.perform a o w).1.1 = .error e) ∧ (g.perform a o w).1.2 = o ∧
        g.Stores rows a w (g.perform a o w).2 [] none) ∨
      (g.perform a o w).1.2 = o.record (g.perform a o w).2.heap a ∧
        (∀ e ∈ a.written (g.perform a o w).2.heap, e.Ready (g.perform a o w).2) ∧
        g.Stores rows a w (g.perform a o w).2 a.key?.toList
          (a.written (g.perform a o w).2.heap) := by
  cases a with
  | persist h instant =>
    have hstores := stores_persist hrows hc hw ha instant w rfl
    rw [perform_persist_apply]
    rcases hr : g.persist h w with ⟨f | entry, v⟩ <;> rw [hr] at hstores
    · exact .inl ⟨⟨f, rfl⟩, rfl, hstores⟩
    · obtain ⟨-, hready⟩ := g.ready_of_persist ha hr
      obtain ⟨rfl, hstores⟩ := hstores
      exact .inr ⟨rfl, by simpa [Action.written] using hready, hstores⟩
  | merge e x =>
    have hstores := stores_update hrows hc hw ha w rfl
    rw [perform_merge_apply]
    rcases hr : g.update e x w with ⟨f | next, v⟩ <;> rw [hr] at hstores
    · exact .inl ⟨⟨f, rfl⟩, rfl, hstores⟩
    · have hready := (g.ready_of_update ha.sound hr).mono (steady_writeVersion e next v)
      exact .inr ⟨rfl, by simpa [Action.written] using hready, hstores⟩
  | remove e =>
    have hstores := stores_remove hrows ha w rfl
    rw [perform_remove_apply]
    rcases hr : g.remove e.key w with ⟨f | u, v⟩ <;> rw [hr] at hstores
    · exact .inl ⟨⟨f, rfl⟩, rfl, hstores⟩
    · exact .inr ⟨rfl, by simp [Action.written], hstores⟩

end Performing

end Gateway

end EntityMapper
