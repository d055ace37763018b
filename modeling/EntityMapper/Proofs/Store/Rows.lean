import EntityMapper.Entity.Key
import EntityMapper.Proofs.Entity.KeyEquality
import EntityMapper.Proofs.Store.Loading
import EntityMapper.Proofs.Store.Updates
/-! Rows of tables: what a store has in them that executes the statements of a mapping as written,
and what is built from them. -/

namespace EntityMapper

variable {σ : Type}

/-- A row of a table, by what it holds in each column. -/
abbrev TableRow := String → Value

namespace EntityType

variable (t : EntityType)

/-- The row of a table is that of an entity with a key. -/
def HasId (cells : TableRow) (k : EntityKey) : Prop :=
  ∃ f a v, t.idField? = some f ∧ t.HasColumn f a ∧ a.read (cells f.columnName) = .ok v ∧
    (EntityKey.of t v == k) = true

/-- In all columns but that of the identifier the row of a table has the values of a source, when
they are read as the fields read them. -/
def Shows (cells : TableRow) (source : FieldSource) : Prop :=
  ∀ f a, t.HasColumn f a → f.isId = false →
    ∃ v, a.read (cells f.columnName) = .ok v ∧ source f.name = some v

variable {t} {cells : TableRow} {k l : EntityKey}

theorem HasColumn.unique {f : EntityField} {a b : FieldType} (ha : t.HasColumn f a)
    (hb : t.HasColumn f b) : a = b :=
  FieldRole.column.inj (ha.role.symm.trans hb.role)

theorem HasId.of_beq (h : t.HasId cells k) (hkl : (k == l) = true) : t.HasId cells l := by
  obtain ⟨f, a, v, hid, hf, hread, hk⟩ := h
  exact ⟨f, a, v, hid, hf, hread, BEq.trans hk hkl⟩

/-- A row is not that of two entities. -/
theorem HasId.beq (hk : t.HasId cells k) (hl : t.HasId cells l) : (k == l) = true := by
  obtain ⟨f, a, v, hid, hf, hread, hk⟩ := hk
  obtain ⟨f', a', v', hid', hf', hread', hl⟩ := hl
  obtain rfl := Option.some.inj (hid.symm.trans hid')
  obtain rfl := hf.unique hf'
  obtain rfl := Except.ok.inj (hread.symm.trans hread')
  exact BEq.trans (BEq.symm hk) hl

end EntityType

/-- The key is that of an entity of a type, with an identifier that the type shows. -/
def EntityKey.IsOf (k : EntityKey) (t : EntityType) : Prop :=
  ∃ f a v, t.idField? = some f ∧ t.HasColumn f a ∧ a.Shows v ∧ k = .of t v

namespace Row

variable {r : Row}

/-- In the columns of a type the row of a result holds what the row of a table does. -/
def Agrees (r : Row) (t : EntityType) (cells : TableRow) : Prop :=
  ∀ f a, t.HasColumn f a → ∀ v, r.get? f.columnName = some v → cells f.columnName = v

theorem get?_of_read {name : String} {a : FieldType} {v : Value}
    (h : r.read name a = .ok v) : ∃ u, r.get? name = some u ∧ a.read u = .ok v := by
  unfold read at h
  cases hu : r.require name with
  | error e =>
    rw [hu] at h
    cases h
  | ok u =>
    rw [hu] at h
    exact ⟨u, get?_of_require hu, ok_of_mapError _ h⟩

end Row

namespace Instance

variable {i : Instance} {t : EntityType} {r : Row} {cells : TableRow} {k : EntityKey}

/-- The columns of the instance hold what is read from the row of a table. -/
def ReadFrom (i : Instance) (cells : TableRow) : Prop :=
  ∀ f a, i.type.HasColumn f a →
    ∃ v, a.read (cells f.columnName) = .ok v ∧ i.slot? f.name = some (.value v)

theorem BuiltFrom.readFrom (h : i.BuiltFrom t r) (ht : t.Formed) (hr : r.Agrees t cells) :
    i.ReadFrom cells := by
  intro f a hf
  rw [h.type] at hf
  obtain ⟨v, hread, hslot⟩ := h.columns ht.names f a hf
  obtain ⟨u, hu, hv⟩ := Row.get?_of_read hread
  rw [hr f a hf u hu]
  exact ⟨v, hv, hslot⟩

theorem BuiltFrom.fits (h : i.BuiltFrom t r) (ht : t.Formed) : i.Fits := by
  intro f a hf
  rw [h.type] at hf
  obtain ⟨v, hread, hslot⟩ := h.columns ht.names f a hf
  obtain ⟨u, -, hv⟩ := Row.get?_of_read hread
  exact ⟨v, hslot, FieldType.shows_of_read hv⟩

theorem ReadFrom.shows (h : i.ReadFrom cells) : i.type.Shows cells i.fieldValue := by
  intro f a hf _
  obtain ⟨v, hread, hslot⟩ := h f a hf
  exact ⟨v, hread, fieldValue_of_slot? hslot⟩

theorem ReadFrom.hasId (h : i.ReadFrom cells) {f : EntityField} {a : FieldType}
    (hid : i.type.idField? = some f) (hf : i.type.HasColumn f a)
    (hk : (EntityKey.ofInstance i == k) = true) : i.type.HasId cells k := by
  obtain ⟨v, hread, hslot⟩ := h f a hf
  have hvalue : i.idValue = v := by simp [idValue, hid, hslot, Slot.value?]
  rw [EntityKey.ofInstance, hvalue] at hk
  exact ⟨f, a, v, hid, hf, hread, hk⟩

end Instance

/-- A snapshot of a source has the values that the row of a table shows of it. -/
theorem EntityType.Shows.capture {t : EntityType} {cells : TableRow} {i : Instance}
    {schema : Schema} {m : Metadata} (h : t.Shows cells i.fieldValue)
    (hm : Metadata.ofDescriptor schema t.descriptor = .ok m) :
    t.Shows cells ((Snapshot.capture m i).valueOf? m) := by
  intro f a hf hid
  obtain ⟨v, hread, hv⟩ := h f a hf hid
  have hcaptured := Metadata.valueOf?_capture i (Metadata.mem_persistent hf hm)
  exact ⟨v, hread, by rw [hcaptured, hv]; rfl⟩

/-- The types of a catalogue are formed, and their paths tell them from each other. -/
structure Catalogue.Formed (c : Catalogue) : Prop where
  types : ∀ t ∈ c, t.Formed
  paths : ∀ t ∈ c, ∀ u ∈ c, t.path = u.path → t = u

namespace Gateway

variable (g : Gateway σ) (rows : σ → EntityType → List TableRow)

/-- The mapping of a type of the catalogue, with a column of its own for each stored field. -/
structure Mapped (t : EntityType) (m : Metadata) : Prop where
  known : t ∈ g.catalogue
  checked : Metadata.ofDescriptor g.catalogue.schema t.descriptor = .ok m
  columns : (m.persistent.map (·.column)).Nodup

/-- The rows that a statement may lose are those of the entities with one of the keys. -/
def Spares (ks : List EntityKey) (s s' : σ) : Prop :=
  ∀ t ∈ g.catalogue, ∀ r ∈ rows s t, r ∈ rows s' t ∨ ∃ k ∈ ks, t.HasId r k

/-- A query changes no row. -/
def Harmless (c : Command) : Prop :=
  ∀ s, rows (g.connection.query c s).2 = rows s

/-- A query answers with rows of the table of a type, all of them with `C`. -/
def Answers (t : EntityType) (c : Command) (C : TableRow → Prop) : Prop :=
  ∀ s rs, (g.connection.query c s).1 = .ok rs →
    ∀ r ∈ rs, ∃ cells ∈ rows s t, C cells ∧ r.Agrees t cells

/-- The store keeps the entities of each type in a table of its own, and executes the statements of
their mappings as written, or it answers an error and leaves all rows alone. A row that is found by
an identifier is that of the entity with it. Only what a rollback does to the rows is left open. -/
structure Tabular : Prop where
  select : Command.AllowsSelect (g.Harmless rows)
  selected : ∀ t m column v, g.Mapped t m →
    g.Answers rows t ⟨m.selectBy column, [v]⟩ fun _ => True
  identified : ∀ t m k, g.Mapped t m → k.IsOf t →
    g.Answers rows t ⟨m.selectById, [k.id]⟩ fun cells => t.HasId cells k
  inserted : ∀ t m columns params key s, g.Mapped t m → columns.Nodup → m.id.column ∉ columns →
    (g.connection.insert ⟨.insert m.table columns, params⟩ s).1 = .ok key →
    g.Spares rows [] s (g.connection.insert ⟨.insert m.table columns, params⟩ s).2 ∧
      ∃ r ∈ rows (g.connection.insert ⟨.insert m.table columns, params⟩ s).2 t,
        r m.id.column = key ∧ ∀ p ∈ columns.zip params, r p.1 = p.2
  updated : ∀ t m k c u n s, g.Mapped t m → k.IsOf t → RowUpdate.ofCommand? c = some u →
    u.table = m.table → u.idColumn = m.id.column → u.id = k.id →
    (u.assigned.map (·.1)).Nodup → m.id.column ∉ u.assigned.map (·.1) →
    (g.connection.execute c s).1 = .ok n →
    g.Spares rows [k] s (g.connection.execute c s).2 ∧
      (n = 0 → g.Spares rows [] s (g.connection.execute c s).2) ∧
      (0 < n → ∃ r ∈ rows (g.connection.execute c s).2 t,
        t.HasId r k ∧ ∀ p ∈ u.assigned, r p.1 = p.2)
  deleted : ∀ t m k n s, g.Mapped t m → k.IsOf t →
    (g.connection.execute ⟨m.deleteById, [k.id]⟩ s).1 = .ok n →
    g.Spares rows [k] s (g.connection.execute ⟨m.deleteById, [k.id]⟩ s).2 ∧
      (n = 0 → g.Spares rows [] s (g.connection.execute ⟨m.deleteById, [k.id]⟩ s).2)
  refusedInsert : ∀ c e s, (g.connection.insert c s).1 = .error e →
    g.Spares rows [] s (g.connection.insert c s).2
  refusedExecute : ∀ c e s, (g.connection.execute c s).1 = .error e →
    g.Spares rows [] s (g.connection.execute c s).2
  transact : ∀ step s, step ≠ .rollback → rows (g.connection.transact step s).2 = rows s

variable {g rows}

namespace Spares

variable {ks ls : List EntityKey} {s s' s'' : σ}

theorem of_eq (h : rows s' = rows s) : g.Spares rows ks s s' :=
  fun _ _ _ hr => .inl (h ▸ hr)

end Spares

/-- The mapping of a type is kept, all instances are of the type, and if the mapping is right each
of them was read from a row with `C` that is in the table. -/
def Found (g : Gateway σ) (rows : σ → EntityType → List TableRow) (t : EntityType)
    (C : TableRow → Prop) (is : List Instance) (w : Workspace σ) : Prop :=
  ∃ m, w.journal.registry.find? t.path = some m ∧ ∀ i ∈ is, i.type = t ∧ i.Fits ∧
    (g.Mapped t m → ∃ cells ∈ rows w.store t, C cells ∧ i.ReadFrom cells)

section Finding

variable {t : EntityType} (hrows : g.Tabular rows) (ht : t.Formed) {C : TableRow → Prop}

include ht

theorem meets_fetch {l : Linker (StateM (Workspace σ))}
    (hl : l.Reads g.connection (g.Harmless rows)) {m : Metadata} {c : Command}
    (hc : g.Harmless rows c) (hanswers : g.Mapped t m → g.Answers rows t c C) :
    Meets (fun w => w.journal.registry.find? t.path = some m) (g.query c >>= hydrate l t)
      (g.Found rows t C) (fun _ => True) := by
  intro w hm
  rw [bind_apply, query_apply]
  cases ha : (g.connection.query c w.store).1 with
  | error e => trivial
  | ok rs =>
    dsimp only [mapError_ok]
    generalize hu : (g.announced w).exchanged _ _ = u
    have hstore : rows u.store = rows w.store := by
      rw [← hu]
      exact hc w.store
    have hbuilt := meets_hydrate (l := l) t rs u trivial
    have hread := reads_hydrate g hl t rs u
    rcases hr : hydrate l t rs u with ⟨e | is, v⟩ <;> rw [hr] at hbuilt hread
    · trivial
    · refine ⟨m, hread.journal _ _ (hu ▸ hm), fun i hi => ?_⟩
      obtain ⟨r, hr, hi⟩ := hbuilt i hi
      refine ⟨hi.type, hi.fits ht, fun hmapped => ?_⟩
      obtain ⟨cells, hcells, hcell, hagrees⟩ := hanswers hmapped _ _ ha r hr
      refine ⟨cells, ?_, hcell, hi.readFrom ht hagrees⟩
      rw [hread.store.keeps fun cmd s h => h s, hstore]
      exact hcells

omit ht in
theorem meets_resolved (g : Gateway σ) (t : EntityType) : Meets (fun _ => True) (g.resolve t)
    (fun m w => w.journal.registry.find? t.path = some m) (fun _ => True) := by
  intro w _
  rcases hr : g.resolve t w with ⟨e | m, v⟩
  · trivial
  · rw [resolve_apply] at hr
    obtain ⟨hm, rfl⟩ := Prod.mk.inj hr
    exact Journal.find?_resolve (Prod.ext hm rfl)

include hrows

theorem found_findAllBy (field : String) (v : Value) : Meets (fun _ => True)
    (g.findAllBy t field v) (g.Found rows t fun _ => True) (fun _ => True) := by
  refine (meets_resolved g t).bind fun m => ?_
  split
  · exact .throw fun _ _ => trivial
  · exact meets_fetch ht (g.reads_linker (g.reads_load hrows.select)) (hrows.select _ _ _)
      (hrows.selected t m _ v)

theorem found_nativeAll {sql : String} {params : List Value}
    (hc : g.Harmless rows ⟨.native sql, params⟩)
    (hanswers : g.Answers rows t ⟨.native sql, params⟩ C) :
    Meets (fun _ => True) (g.nativeAll t sql params) (g.Found rows t C) (fun _ => True) :=
  (meets_resolved g t).bind fun _ =>
    meets_fetch ht (g.reads_linker (g.reads_load hrows.select)) hc fun _ => hanswers

theorem found_load {id : Value} (hanswers : ∀ m, g.Mapped t m →
      g.Answers rows t ⟨m.selectById, [id.identity]⟩ C) :
    Meets (fun _ => True) (Option.toList <$> g.load t id) (g.Found rows t C) (fun _ => True) := by
  refine .map ?_
  unfold load
  cases g.catalogue.length with
  | zero => exact .throw fun _ _ => trivial
  | succ depth =>
    have hfetched := (meets_resolved g t).bind fun m => meets_fetch ht
      (c := ⟨m.selectById, [id.identity]⟩)
      (g.reads_linker (g.reads_loadWithin hrows.select depth)) (hrows.select _ _ _) (hanswers m)
    have hone := hfetched.bind (f := fun found => liftM (atMostOne t found)) fun found =>
      .lift (Q := fun (o : Option Instance) w => g.Found rows t C o.toList w)
        (fun o ho w hw => by
          rw [toList_of_atMostOne ho]
          exact hw) fun _ _ => trivial
    simpa only [loadWithin, bind_assoc] using hone

end Finding

end Gateway

end EntityMapper
