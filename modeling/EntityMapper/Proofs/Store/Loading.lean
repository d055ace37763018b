import EntityMapper.Proofs.Entity.Typing
import EntityMapper.Proofs.Store.Reading
/-! Loading: what is built from rows is of the type that was asked for and holds what was read from
them, and that type stays resolved. -/

namespace EntityMapper

open Work (Steady)

variable {σ : Type}

theorem Row.get?_of_require {r : Row} {name : String} {v : Value} (h : r.require name = .ok v) :
    r.get? name = some v := by
  unfold require at h
  split at h
  · rename_i u hu
    rw [hu, Except.ok.inj h]
  · cases h

namespace Instance

/-- The instance is of a type, and what its columns hold was read from a row. -/
structure BuiltFrom (i : Instance) (t : EntityType) (r : Row) : Prop where
  type : i.type = t
  columns : (t.fields.map (·.name)).Nodup → ∀ f a, t.HasColumn f a →
    ∃ v, r.read f.columnName a = .ok v ∧ i.slot? f.name = some (.value v)

/-- Of fields that differ in their names each finds its own slot. -/
theorem lookup_of_forall₂ {Q : EntityField → Slot Instance → Prop} {fs : List EntityField}
    {slots : List (String × Slot Instance)}
    (h : List.Forall₂ (fun f p => p.1 = f.name ∧ Q f p.2) fs slots)
    (hn : (fs.map (·.name)).Nodup) {f : EntityField} (hf : f ∈ fs) :
    ∃ s, slots.lookup f.name = some s ∧ Q f s := by
  induction h with
  | nil => cases hf
  | @cons f' p fs slots hp _ ih =>
    obtain ⟨hnew, hn⟩ := List.nodup_cons.mp hn
    obtain ⟨name, s⟩ := p
    obtain ⟨rfl, hq⟩ := hp
    rcases List.mem_cons.mp hf with rfl | hf
    · exact ⟨s, by simp, hq⟩
    · have hne : f.name ≠ f'.name := fun heq => hnew (List.mem_map.mpr ⟨f, hf, heq⟩)
      simpa [List.lookup_cons, beq_eq_false_iff_ne.mpr hne] using ih hn hf

theorem fits_initial {t : EntityType} (ht : t.Formed) : (initial t).Fits := by
  intro f a hf
  have hslots : List.Forall₂ (fun f p => p.1 = f.name ∧ p.2 = .initial f.role) t.fields
      (initial t).slots :=
    List.forall₂_map_right_iff.mpr (List.forall₂_same.mpr fun _ _ => ⟨rfl, rfl⟩)
  obtain ⟨s, hlookup, rfl⟩ :=
    lookup_of_forall₂ (Q := fun f s => s = .initial f.role) hslots ht.names hf.mem
  exact ⟨a.initial, by rw [slot?, hlookup, hf.role, Slot.initial], a.shows_initial⟩

variable {l : Linker (StateM (Workspace σ))} (t : EntityType) (r : Row)

/-- If a field has a column, a slot holds what was read from the column. -/
def Holds (r : Row) (f : EntityField) (s : Slot Instance) : Prop :=
  ∀ a, f.role = .column a → ∃ v, r.read f.columnName a = .ok v ∧ s = .value v

theorem meets_readSlot (f : EntityField) : Meets (fun _ => True)
    (readSlot l t r f : Work σ (Slot Instance)) (fun s _ => Holds r f s) (fun _ => True) := by
  unfold readSlot
  cases hr : f.role with
  | column type =>
    refine Meets.bind (Q := fun v _ => r.read f.columnName type = .ok v)
      (.lift (fun v hv _ _ => hv) fun _ _ => trivial) fun v => .pure fun _ hv a ha => ?_
    obtain rfl : type = a := FieldRole.column.inj (hr.symm.trans ha)
    exact ⟨v, hv, rfl⟩
  | _ =>
    refine Meets.trivially.weaken (fun _ h => h) (fun _ _ _ a ha => ?_) fun _ h => h
    rw [hr] at ha
    cases ha

theorem meets_ofRow : Meets (fun _ => True) (ofRow l t r : Work σ Instance)
    (fun i _ => i.BuiltFrom t r) (fun _ => True) := by
  unfold ofRow
  refine Meets.bind (Meets.mapM (P := fun _ => True)
    (C := fun (f : EntityField) (p : String × Slot Instance) => p.1 = f.name ∧ Holds r f p.2)
    fun f _ => (meets_readSlot t r f).bind fun s => .pure fun _ hs => ⟨⟨rfl, hs⟩, trivial⟩)
      fun slots => .pure fun _ hslots => ⟨rfl, fun hn f a hf => ?_⟩
  obtain ⟨s, hlookup, hs⟩ := lookup_of_forall₂ hslots.1 hn hf.mem
  obtain ⟨v, hv, rfl⟩ := hs a hf.role
  exact ⟨v, hv, hlookup⟩

end Instance

namespace Gateway

variable (g : Gateway σ)

section Hydrating

variable {l : Linker (StateM (Workspace σ))} (t : EntityType) (rows : List Row)

/-- Each row gives the instance that is built from it. -/
theorem meets_hydrate_each : Meets (fun _ => True) (hydrate l t rows : Work σ (List Instance))
    (fun is _ => List.Forall₂ (fun r (i : Instance) => i.BuiltFrom t r) rows is)
    (fun _ => True) :=
  (Meets.mapM (P := fun _ => True) fun r _ =>
    (Instance.meets_ofRow t r).adapt.weaken (fun _ h => h) (fun _ _ h => ⟨h, trivial⟩)
      fun _ h => h).weaken (fun _ h => h) (fun _ _ h => h.1) fun _ h => h

/-- All instances are built from one of the rows. -/
theorem meets_hydrate : Meets (fun _ => True) (hydrate l t rows : Work σ (List Instance))
    (fun is _ => ∀ i ∈ is, ∃ r ∈ rows, i.BuiltFrom t r) (fun _ => True) := by
  exact (meets_hydrate_each t rows).weaken (fun _ h => h) (fun _ _ h => exists_of_forall₂ h.flip)
    fun _ h => h

/-- All instances built from rows are of the type that was asked for. -/
theorem meets_hydrate_type : Meets (fun _ => True) (hydrate l t rows : Work σ (List Instance))
    (fun is _ => ∀ i ∈ is, i.type = t) (fun _ => True) := by
  refine (meets_hydrate t rows).weaken (fun _ h => h) (fun is _ h i hi => ?_) fun _ h => h
  obtain ⟨r, -, hr⟩ := h i hi
  exact hr.type

end Hydrating

/-- The type is resolved, and all instances are of it. -/
def AllOf (t : EntityType) (is : List Instance) (w : Workspace σ) : Prop :=
  (∃ m, w.journal.registry.find? t.path = some m) ∧ ∀ i ∈ is, i.type = t

/-- Work that gives instances of a type, which is resolved from then on. -/
def Loads (t : EntityType) (x : Work σ (List Instance)) : Prop :=
  ∀ w : Workspace σ, Meets w.Grows x (fun is v => w.Grows v ∧ AllOf t is v) w.Grows

/-- What is found once a type was resolved is of that type. -/
theorem loads_of_resolve {t : EntityType} {f : Metadata → Work σ (List Instance)}
    (hf : ∀ m, Steady (f m))
    (ht : ∀ m, Meets (fun _ => True) (f m) (fun is _ => ∀ i ∈ is, i.type = t) (fun _ => True)) :
    Loads t (g.resolve t >>= f) := by
  intro w
  refine Meets.bind (Q := fun m v => w.Grows v ∧ v.journal.registry.find? t.path = some m) ?_
    fun m u hu => ?_
  · intro u hu
    have hg := hu.trans (g.steady_resolve t u)
    rcases hr : g.resolve t u with ⟨e | m, v⟩ <;> rw [hr] at hg
    · exact hg
    · rw [resolve_apply] at hr
      obtain ⟨hm, rfl⟩ := Prod.mk.inj hr
      exact ⟨hg, Journal.find?_resolve (Prod.ext hm rfl)⟩
  · have hg := hf m u
    have htype := ht m u trivial
    rcases hr : f m u with ⟨e | is, v⟩ <;> rw [hr] at hg htype
    · exact hu.1.trans hg
    · exact ⟨hu.1.trans hg, ⟨m, hg.journal _ _ hu.2⟩, htype⟩

theorem meets_select (t : EntityType) (c : Command) : Meets (fun _ => True) (g.select t c)
    (fun is _ => ∀ i ∈ is, i.type = t) (fun _ => True) := by
  exact Meets.trivially.bind fun rows => meets_hydrate_type t rows

theorem loads_findAllBy (t : EntityType) (field : String) (v : Value) :
    Loads t (g.findAllBy t field v) := by
  refine g.loads_of_resolve (fun m => ?_) fun m => ?_
  · split
    · exact .throw _
    · exact (g.reads_select Command.allowsSelect_any t trivial).steady
  · split
    · exact .throw fun _ _ => trivial
    · exact g.meets_select t _

theorem loads_nativeAll (t : EntityType) (sql : String) (params : List Value) :
    Loads t (g.nativeAll t sql params) :=
  g.loads_of_resolve (fun _ => (g.reads_select Command.allowsSelect_any t trivial).steady)
    fun _ => g.meets_select t _

theorem toList_of_atMostOne {α : Type} {t : EntityType} {found : List α} {r : Option α}
    (h : atMostOne t found = .ok r) : r.toList = found := by
  unfold atMostOne at h
  split at h <;> cases h <;> rfl

/-- The only instance found is one of those found. -/
theorem loads_atMostOne {t : EntityType} {x : Work σ (List Instance)} (hx : Loads t x) :
    Loads t (Option.toList <$> (x >>= fun found => liftM (atMostOne t found))) := by
  intro w
  refine Meets.map ((hx w).bind fun found => .lift (fun r hr v hv => ?_) fun v hv => hv.1)
  rw [toList_of_atMostOne hr]
  exact hv

theorem loads_findBy (t : EntityType) (field : String) (v : Value) :
    Loads t (Option.toList <$> g.findBy t field v) :=
  loads_atMostOne (g.loads_findAllBy t field v)

theorem loads_nativeBy (t : EntityType) (sql : String) (params : List Value) :
    Loads t (Option.toList <$> g.nativeBy t sql params) :=
  loads_atMostOne (g.loads_nativeAll t sql params)

theorem loads_load (t : EntityType) (id : Value) :
    Loads t (Option.toList <$> g.load t id) := by
  unfold load
  cases g.catalogue.length with
  | zero => exact fun w => .map (.throw fun _ h => h)
  | succ depth =>
    have hx : Loads t (do
        let m ← g.resolve t
        let rows ← g.query ⟨m.selectById, [id.identity]⟩
        hydrate (g.linker (g.loadWithin depth)) t rows) := by
      refine g.loads_of_resolve (fun m => ?_) fun m => ?_
      · have hload := g.reads_loadWithin Command.allowsSelect_any depth
        exact ((g.reads_query trivial).bind fun rows =>
          g.reads_hydrate (g.reads_linker hload) t rows).steady
      · exact Meets.trivially.bind fun rows => meets_hydrate_type t rows
    have h := loads_atMostOne hx
    simpa only [loadWithin, bind_assoc] using h

end Gateway

end EntityMapper
