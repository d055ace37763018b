import EntityMapper.Proofs.Store.Loading
/-! Fetching: following references asks for nothing but single entities of the types that are
reached, and finds a fault in a mapping only if one of these types has none. -/

namespace EntityMapper

variable {σ α β : Type}

/-- The mappings that are kept for types of the catalogue are made from these types. -/
def Workspace.Derives (w : Workspace σ) (g : Gateway σ) : Prop :=
  ∀ t ∈ g.catalogue, ∀ m, w.journal.registry.find? t.path = some m →
    Metadata.ofDescriptor g.catalogue.schema t.descriptor = .ok m

def Error.IsMapping : Error → Prop
  | .mapping _ _ => True
  | _ => False

/-- The store itself answers a query with a fault in a mapping. -/
def Exchange.FailsInMapping (x : Exchange) : Prop :=
  ∃ c e, x = .query c (.error e) ∧ e.IsMapping

namespace Gateway

variable (g : Gateway σ)

/-- The types of the catalogue differ in their paths. -/
def PathsDiffer : Prop :=
  ∀ t ∈ g.catalogue, ∀ u ∈ g.catalogue, t.path = u.path → t = u

instance : Decidable g.PathsDiffer :=
  inferInstanceAs (Decidable (∀ t ∈ g.catalogue, ∀ u ∈ g.catalogue, t.path = u.path → t = u))

/-- An owning field of the first type refers to the second one. -/
def Refers (t u : EntityType) : Prop :=
  ∃ f ∈ t.fields, ∃ exclusive place join, f.role = .reference exclusive place join ∧
    g.catalogue[place]? = some u

def Unmapped (t : EntityType) : Prop :=
  ∀ m, Metadata.ofDescriptor g.catalogue.schema t.descriptor ≠ .ok m

/-- The entity of a type with some identifier is asked for. -/
def AsksFor (t : EntityType) (x : Exchange) : Prop :=
  ∃ m id answer, Metadata.ofDescriptor g.catalogue.schema t.descriptor = .ok m ∧
    x = .query ⟨m.selectById, [id]⟩ answer

variable {g}

theorem Refers.mem {t u : EntityType} (h : g.Refers t u) : u ∈ g.catalogue := by
  obtain ⟨f, -, exclusive, place, join, -, hplace⟩ := h
  exact List.mem_of_getElem? hplace

end Gateway

/-- The second workspace is left by work that asks for single entities of some types only. If it
fails with a fault in a mapping, one of the types has none or the store has answered so. -/
structure Workspace.Fetched (g : Gateway σ) (reached : EntityType → Prop) (w : Workspace σ)
    (r : Except Error α) (v : Workspace σ) : Prop where
  derives : v.Derives g
  told : ∃ xs, v.transcript = w.transcript ++ xs ∧
    (∀ x ∈ xs, ∃ u, reached u ∧ g.AsksFor u x) ∧
    ∀ e, r = .error e → e.IsMapping →
      (∃ u, reached u ∧ g.Unmapped u) ∨ ∃ x ∈ xs, x.FailsInMapping

/-- Whatever comes of it, the work asks for single entities of some types only, and what it gives
has a property. -/
def Work.Fetches (g : Gateway σ) (reached : EntityType → Prop) (x : Work σ α) (Q : α → Prop) :
    Prop :=
  ∀ w : Workspace σ, w.Derives g → w.Fetched g reached (x w).1 (x w).2 ∧
    ∀ v, (x w).1 = .ok v → Q v

namespace Work.Fetches

variable {g : Gateway σ} {reached : EntityType → Prop} {x : Work σ α} {f : α → Work σ β}
  {Q : α → Prop} {R : β → Prop}

/-- Work that sends nothing and fails with no fault in a mapping. -/
theorem quiet (h : ∀ w : Workspace σ, w.Derives g → (x w).2.Derives g ∧
    (x w).2.transcript = w.transcript ∧ (∀ e, (x w).1 = .error e → ¬ e.IsMapping) ∧
    ∀ v, (x w).1 = .ok v → Q v) : Fetches g reached x Q := by
  intro w hw
  obtain ⟨hderives, htold, hfails, hq⟩ := h w hw
  exact ⟨⟨hderives, [], by rw [htold, List.append_nil], by simp,
    fun e he hmapping => absurd hmapping (hfails e he)⟩, hq⟩

theorem lift {y : Except Error α} (h : ∀ e, y = .error e → ¬ e.IsMapping)
    (hq : ∀ v, y = .ok v → Q v) : Fetches g reached (liftM y : Work σ α) Q := by
  refine quiet fun w hw => ?_
  rw [liftM_except_apply]
  exact ⟨hw, rfl, h, hq⟩

theorem pure {v : α} (h : Q v) : Fetches g reached (Pure.pure v : Work σ α) Q := by
  refine quiet fun w hw => ⟨hw, rfl, fun e he => ?_, fun u hu => ?_⟩
  · cases he
  · cases hu
    exact h

theorem throw {e : Error} (h : ¬ e.IsMapping) :
    Fetches g reached (MonadExcept.throw e : Work σ α) Q := by
  refine quiet fun w hw => ⟨hw, rfl, fun e' he => ?_, fun v hv => ?_⟩
  · cases he
    exact h
  · cases hv

theorem bind (hx : Fetches g reached x Q) (hf : ∀ v, Q v → Fetches g reached (f v) R) :
    Fetches g reached (x >>= f) R := by
  intro w hw
  obtain ⟨hfetched, hq⟩ := hx w hw
  rw [bind_apply]
  rcases hr : x w with ⟨e | v, u⟩ <;> rw [hr] at hfetched hq
  · refine ⟨⟨hfetched.derives, ?_⟩, fun v hv => by cases hv⟩
    obtain ⟨xs, hxs, hall, hfails⟩ := hfetched.told
    exact ⟨xs, hxs, hall, fun e' he' => hfails e' (by cases he'; rfl)⟩
  · obtain ⟨hnext, hr'⟩ := hf v (hq v rfl) u hfetched.derives
    obtain ⟨xs, hxs, hall, -⟩ := hfetched.told
    obtain ⟨ys, hys, hall', hfails⟩ := hnext.told
    refine ⟨⟨hnext.derives, xs ++ ys, by rw [hys, hxs, List.append_assoc],
      List.forall_mem_append.mpr ⟨hall, hall'⟩, fun e he hmapping => ?_⟩, hr'⟩
    rcases hfails e he hmapping with hunmapped | ⟨y, hy, hanswer⟩
    · exact .inl hunmapped
    · exact .inr ⟨y, List.mem_append_right _ hy, hanswer⟩

theorem adapt {h : Error → Error} (hh : ∀ e, (h e).IsMapping → e.IsMapping)
    (hx : Fetches g reached x Q) : Fetches g reached (x.adapt h) Q := by
  intro w hw
  obtain ⟨hfetched, hq⟩ := hx w hw
  rw [adapt_apply]
  rcases hr : x w with ⟨e | v, u⟩ <;> rw [hr] at hfetched hq
  · refine ⟨⟨hfetched.derives, ?_⟩, fun v hv => by cases hv⟩
    obtain ⟨xs, hxs, hall, hfails⟩ := hfetched.told
    exact ⟨xs, hxs, hall, fun e' he' hmapping => hfails e rfl (hh e (by cases he'; exact hmapping))⟩
  · refine ⟨⟨hfetched.derives, ?_⟩, fun v hv => hq v (by cases hv; rfl)⟩
    obtain ⟨xs, hxs, hall, -⟩ := hfetched.told
    exact ⟨xs, hxs, hall, fun e' he' => by cases he'⟩

theorem mapM {step : β → Work σ α} {l : List β}
    (h : ∀ b ∈ l, Fetches g reached (step b) fun _ => True) :
    Fetches g reached (l.mapM step) fun _ => True := by
  induction l with
  | nil => exact pure trivial
  | cons b l ih =>
    obtain ⟨hb, hl⟩ := List.forall_mem_cons.mp h
    rw [List.mapM_cons]
    exact hb.bind fun v _ => (ih hl).bind fun vs _ => pure trivial

end Work.Fetches

section Faults

variable {e : Error}

theorem Error.isMapping_of_withSql {sql : String} (h : (e.withSql sql).IsMapping) :
    e.IsMapping := by
  cases e with
  | mapping entity message => trivial
  | dataAccess fault message sql source => cases sql <;> exact h.elim
  | _ => exact h.elim

theorem Error.isMapping_of_whileBuilding {t : EntityType} (h : (e.whileBuilding t).IsMapping) :
    e.IsMapping := by
  cases e <;> exact h

theorem Row.not_isMapping_of_require {r : Row} {name : String} (h : r.require name = .error e) :
    ¬ e.IsMapping := by
  unfold Row.require at h
  split at h <;> cases h
  exact id

theorem Row.not_isMapping_of_read {r : Row} {name : String} {a : FieldType}
    (h : r.read name a = .error e) : ¬ e.IsMapping := by
  unfold Row.read at h
  split at h
  · cases h
    exact not_isMapping_of_require ‹_›
  · cases hread : a.read _ with
    | error e' =>
      obtain ⟨expected, actual, rfl⟩ := FieldType.type_of_read_error hread
      rw [hread] at h
      cases h
      exact id
    | ok v =>
      rw [hread] at h
      cases h

theorem not_isMapping_of_atMostOne {t : EntityType} {found : List α}
    (h : atMostOne t found = .error e) : ¬ e.IsMapping := by
  unfold atMostOne at h
  split at h <;> cases h
  exact id

end Faults

namespace Gateway

open Work (Fetches)

variable {g : Gateway σ} {reached : EntityType → Prop} {t : EntityType} {m : Metadata} {r : Row}

theorem fetches_query (ht : reached t)
    (hm : Metadata.ofDescriptor g.catalogue.schema t.descriptor = .ok m) (id : Value) :
    Fetches g reached (g.query ⟨m.selectById, [id]⟩) fun _ => True := by
  intro w hw
  rw [query_apply]
  refine ⟨⟨hw, [_], rfl, List.forall_mem_singleton.mpr ⟨t, ht, m, id, _, hm, rfl⟩, ?_⟩,
    fun _ _ => trivial⟩
  cases (g.connection.query ⟨m.selectById, [id]⟩ w.store).1 with
  | error e' =>
    rintro e ⟨⟩ hmapping
    exact .inr ⟨_, List.mem_singleton_self _, _, e', rfl, Error.isMapping_of_withSql hmapping⟩
  | ok rows => rintro e ⟨⟩

section Resolved

variable (hpaths : g.PathsDiffer) (ht : t ∈ g.catalogue)

include hpaths ht

/-- A type of the catalogue resolves to its own mapping, and no other mapping is kept for it. -/
theorem resolve_of_derives {w : Workspace σ} (hw : w.Derives g) :
    ∃ j, g.resolve t w =
        (Metadata.ofDescriptor g.catalogue.schema t.descriptor, { w with journal := j }) ∧
      Workspace.Derives { w with journal := j } g := by
  have hanswer : (Journal.resolve g.catalogue.schema t.descriptor w.journal).1 = _ :=
    Journal.resolve_of_kept (hw t ht)
  refine ⟨_, by rw [resolve_apply, hanswer], fun u hu n hn => ?_⟩
  rcases (Journal.find?_resolve_iff ..).mp hn with hkept | ⟨hpath, hmade⟩
  · exact hw u hu n hkept
  · obtain rfl := hpaths t ht u hu hpath
    exact hanswer.symm.trans hmade

theorem fetches_resolve (hreached : reached t) : Fetches g reached (g.resolve t) fun m =>
    Metadata.ofDescriptor g.catalogue.schema t.descriptor = .ok m := by
  intro w hw
  obtain ⟨j, hrun, hderives⟩ := resolve_of_derives hpaths ht hw
  rw [hrun]
  refine ⟨⟨hderives, [], by simp, by simp, fun e he _ => ?_⟩, fun m hm => hm⟩
  refine .inl ⟨t, hreached, fun m hm => ?_⟩
  rw [hm] at he
  cases he

variable (hm : Metadata.ofDescriptor g.catalogue.schema t.descriptor = .ok m)

include hm

/-- A list for a field that is a collection is made without a statement. -/
theorem collection_apply {field : String} {c : CollectionMapping}
    (hc : m.collection? field = some c) (target : EntityType) (id : Value) {w : Workspace σ}
    (hw : w.Derives g) :
    ∃ j, Workspace.Derives { w with journal := j } g ∧ g.collection t field target id w =
      if id.isNull then (.ok none, { w with journal := j })
      else (.ok (some w.lists.length), { w with
        journal := j, lists := w.lists ++ [.pending ⟨field, target, c.mappedBy, id⟩] }) := by
  obtain ⟨j, hrun, hderives⟩ := resolve_of_derives hpaths ht hw
  refine ⟨j, hderives, ?_⟩
  rw [collection, bind_apply, hrun, hm]
  simp only [hc]
  split <;> rfl

theorem fetches_collection {field : String} {c : CollectionMapping}
    (hc : m.collection? field = some c) (target : EntityType) (id : Value) :
    Fetches g reached (g.collection t field target id) fun _ => True := by
  refine .quiet fun w hw => ?_
  obtain ⟨j, hderives, hrun⟩ := collection_apply hpaths ht hm hc target id hw
  rw [hrun]
  split
  · exact ⟨hderives, rfl, by simp, fun _ _ => trivial⟩
  · exact ⟨hderives, rfl, by simp, fun _ _ => trivial⟩

end Resolved

/-- An owning field of a row refers to a type, if its join column is not null. -/
def Leads (g : Gateway σ) (t : EntityType) (r : Row) (u : EntityType) : Prop :=
  ∃ f ∈ t.fields, ∃ exclusive place join held, f.role = .reference exclusive place join ∧
    g.catalogue[place]? = some u ∧ r.get? join = some held ∧ held.isNull = false

theorem Leads.refers {u : EntityType} (h : g.Leads t r u) : g.Refers t u := by
  obtain ⟨f, hf, exclusive, place, join, held, hrole, hplace, -⟩ := h
  exact ⟨f, hf, exclusive, place, join, hrole, hplace⟩

theorem fetches_typeAt (place : Nat) :
    Fetches g reached (g.typeAt place) fun u => g.catalogue[place]? = some u := by
  unfold typeAt
  split
  · exact .pure ‹_›
  · exact .throw id

section Building

variable (hpaths : g.PathsDiffer) (ht : t ∈ g.catalogue)
  (hm : Metadata.ofDescriptor g.catalogue.schema t.descriptor = .ok m)
  {load : EntityType → Value → Work σ (Option Instance)}
  (hload : ∀ u, g.Leads t r u → ∀ id, Fetches g reached (load u id) fun _ => True)

include hpaths ht hm hload

theorem fetches_readSlot {f : EntityField} (hf : f ∈ t.fields) :
    Fetches g reached (Instance.readSlot (g.linker load) t r f) fun _ => True := by
  unfold Instance.readSlot
  cases hrole : f.role with
  | column type =>
    exact (Fetches.lift (fun e he => Row.not_isMapping_of_read he) fun _ _ => trivial).bind
      fun _ _ => .pure trivial
  | reference exclusive place join =>
    refine (Fetches.lift (Q := fun held => r.get? join = some held)
      (fun e he => Row.not_isMapping_of_require he) fun held hheld =>
        Row.get?_of_require hheld).bind fun held hheld => ?_
    refine Fetches.bind (Q := fun _ => True) ?_ fun _ _ => .pure trivial
    simp only [linker]
    cases hnull : held.isNull with
    | true => exact .pure trivial
    | false =>
      exact (fetches_typeAt place).bind fun u hu =>
        hload u ⟨f, hf, exclusive, place, join, held, hrole, hu, hheld, hnull⟩ held
  | collection place mappedBy =>
    refine (Fetches.lift (Q := fun _ => True) (fun e he => Row.not_isMapping_of_require he)
      fun _ _ => trivial).bind fun id _ => ?_
    refine Fetches.bind (Q := fun _ => True) ?_ fun _ _ => .pure trivial
    refine (fetches_typeAt place).bind fun u _ => ?_
    obtain ⟨d, hd, hname, hrelation⟩ : ∃ d, f.descriptor? = some d ∧ d.name = f.name ∧
        d.relation = some .oneToMany := by
      rw [EntityField.descriptor?, hrole]
      exact ⟨_, rfl, rfl, rfl⟩
    obtain ⟨c, hc⟩ := Metadata.exists_collection hm (Metadata.mem_descriptor_fields hf hd)
      hrelation rfl
    rw [hname] at hc
    exact fetches_collection hpaths ht hm hc u id
  | transient => exact .pure trivial

theorem fetches_ofRow :
    Fetches g reached (Instance.ofRow (g.linker load) t r) fun _ => True :=
  (Fetches.mapM fun _ hf => (fetches_readSlot hpaths ht hm hload hf).bind fun _ _ =>
    .pure trivial).bind fun _ _ => .pure trivial

end Building

theorem fetches_hydrate (hpaths : g.PathsDiffer) (ht : t ∈ g.catalogue)
    (hm : Metadata.ofDescriptor g.catalogue.schema t.descriptor = .ok m)
    {load : EntityType → Value → Work σ (Option Instance)} {rows : List Row}
    (hload : ∀ r ∈ rows, ∀ u, g.Leads t r u → ∀ id, Fetches g reached (load u id) fun _ => True) :
    Fetches g reached (hydrate (g.linker load) t rows) fun _ => True :=
  .mapM fun r hr => (fetches_ofRow hpaths ht hm (hload r hr)).adapt fun _ h =>
    Error.isMapping_of_whileBuilding h

/-- Loading an entity asks for single entities of the types that it leads to. -/
theorem fetches_loadWithin (hpaths : g.PathsDiffer) (hknown : ∀ u, reached u → u ∈ g.catalogue)
    (hclosed : ∀ u v, reached u → g.Refers u v → reached v) (depth : Nat) (ht : reached t)
    (id : Value) : Fetches g reached (g.loadWithin depth t id) fun _ => True := by
  induction depth generalizing t id with
  | zero => exact .throw fun h => h
  | succ depth ih =>
    refine (fetches_resolve hpaths (hknown t ht) ht).bind fun m hm => ?_
    refine (fetches_query ht hm id.identity).bind fun rows _ => ?_
    refine (fetches_hydrate hpaths (hknown t ht) hm fun r _ u hu id =>
      ih (hclosed t u ht hu.refers) id).bind fun found _ => ?_
    exact .lift (fun e he => not_isMapping_of_atMostOne he) fun _ _ => trivial

end Gateway

end EntityMapper
