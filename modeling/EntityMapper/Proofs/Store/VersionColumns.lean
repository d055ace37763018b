import EntityMapper.Proofs.Flush.Versions
/-! Version columns: for which mappings every UPDATE tests the version of its row and counts it
up. -/

namespace EntityMapper

/-- An UPDATE writes the next version to the version column, and only once; it is for the row of an
identifier, which it does not write, and for one version of it. -/
structure RowUpdate.Bumps (u : RowUpdate) (m : Metadata) (v : ColumnMapping)
    (id tested next : Value) : Prop where
  bumped : u.assigned.filter (·.1 == v.column) = [(v.column, next)]
  kept : ∀ a ∈ u.assigned, a.1 ≠ m.id.column
  row : u.idColumn = m.id.column ∧ u.id = id
  guarded : (u.test, u.tested) = if tested.isNull then (some (.isMissing v.column), [])
    else (some (.isEqual v.column), [tested])

namespace Metadata

/-- The UPDATE of a plan counts the version up that it tests. -/
def Bumps (m : Metadata) (v : ColumnMapping) (id tested : Value) (plan : UpdatePlan) : Prop :=
  ∃ u next, RowUpdate.ofCommand? plan.command = some u ∧ tested.nextVersion = some next ∧
    plan.nextVersion = some next ∧ u.Bumps m v id tested next

/-- Every UPDATE of a mapping counts up the version that it tests. -/
def AlwaysBumps (m : Metadata) (v : ColumnMapping) : Prop :=
  ∀ expected id source plan, m.updateOf expected id source = .ok plan →
    m.Bumps v id (testedVersion v expected source) plan

/-- The version is no identifier and has a column of its own, as has the identifier. -/
structure KeysApart (m : Metadata) (v : ColumnMapping) : Prop where
  role : v.field ≠ m.id.field
  version : (m.updatable.filter (·.column == v.column)).length = 1
  id : ∀ f ∈ m.updatable, f.column ≠ m.id.column

variable {m : Metadata} {schema : Schema} {d : EntityDescriptor} {v : ColumnMapping}

theorem KeysApart.filter_updatable (hm : ofDescriptor schema d = .ok m) (hv : m.version = some v)
    (h : m.KeysApart v) :
    m.updatable.filter (·.column == v.column) = [⟨v.field, v.column, false⟩] := by
  obtain ⟨f, hf⟩ := List.length_eq_one_iff.mp h.version
  have hmem : (⟨v.field, v.column, false⟩ : PersistentField) ∈
      m.updatable.filter (·.column == v.column) :=
    List.mem_filter.mpr ⟨version_mem_updatable hm hv h.role, beq_self_eq_true v.column⟩
  rw [hf] at hmem ⊢
  rw [List.mem_singleton.mp hmem]

/-- The assignments to a column are those of the fields that are stored in it. -/
theorem filter_assigned (column : String) (value : PersistentField → Value) :
    (m.updatable.map fun f => (f.column, value f)).filter (·.1 == column) =
      (m.updatable.filter (·.column == column)).map fun f => (f.column, value f) := by
  rw [List.filter_map]
  rfl

theorem bumps_of_keysApart (hm : ofDescriptor schema d = .ok m) (hv : m.version = some v)
    (hapart : m.KeysApart v) {expected : Option Value} {id : Value} {source : FieldSource}
    {plan : UpdatePlan} (h : m.updateOf expected id source = .ok plan) :
    m.Bumps v id (testedVersion v expected source) plan := by
  obtain ⟨step, hstep, hu, hplan⟩ := ofCommand?_updateOf h
  obtain ⟨next, hnext, rfl⟩ := exists_of_versionStep hv hstep
  refine ⟨_, next, hu, hnext, hplan, ?_, fun a ha => ?_, ⟨rfl, rfl⟩, ?_⟩
  · rw [filter_assigned, hapart.filter_updatable hm hv]
    simp [assignedValue]
  · obtain ⟨f, hf, rfl⟩ := List.mem_map.mp ha
    exact hapart.id f hf
  · simp only [versionTest]

theorem exists_updateOf (hv : m.version = some v) (hsome : m.updatable ≠ []) :
    ∃ plan, m.updateOf (some .null) .null (fun _ => none) = .ok plan := by
  have hfields : m.updatable.isEmpty = false := by
    simpa using hsome
  unfold updateOf versionStep
  rw [hv, hfields]
  exact ⟨_, rfl⟩

/-- An entity without values shows which field gets the next version. -/
theorem keysApart_of_bumps (hv : m.version = some v) {plan : UpdatePlan}
    (h : m.updateOf (some .null) .null (fun _ => none) = .ok plan)
    (hbumps : m.Bumps v .null .null plan) : m.KeysApart v := by
  obtain ⟨step, hstep, hu, -⟩ := ofCommand?_updateOf h
  obtain ⟨next, hnext, rfl⟩ := exists_of_versionStep hv hstep
  obtain ⟨u, next', hu', hnext', -, hb⟩ := hbumps
  cases hu.symm.trans hu'
  cases hnext.symm.trans hnext'
  have hassigned := hb.bumped
  rw [filter_assigned] at hassigned
  obtain ⟨f, hf, hvalue⟩ := List.map_eq_singleton_iff.mp hassigned
  have hfield : v.field = f.field := by
    by_contra hne
    have hnull : Value.null = next := by
      simpa [assignedValue, hne] using congrArg Prod.snd hvalue
    rw [← hnull] at hnext
    cases hnext
  have hmem : f ∈ m.updatable :=
    (List.mem_filter.mp (by rw [hf]; exact List.mem_singleton_self f)).1
  refine ⟨?_, by rw [hf]; rfl, fun g hg => hb.kept _ (List.mem_map_of_mem hg)⟩
  rw [hfield]
  simpa [updatable, insertable] using (List.mem_filter.mp hmem).2

/-- Every UPDATE of a versioned type counts up the version that it tests exactly if the type has no
field to update, or its version is no identifier and both have columns of their own. -/
theorem always_bumps_iff (hm : ofDescriptor schema d = .ok m) (hv : m.version = some v) :
    m.AlwaysBumps v ↔ m.updatable = [] ∨ m.KeysApart v := by
  constructor
  · intro hall
    by_cases hnone : m.updatable = []
    · exact .inl hnone
    · obtain ⟨plan, hplan⟩ := exists_updateOf hv hnone
      exact .inr (keysApart_of_bumps hv hplan (hall _ _ _ _ hplan))
  · rintro (hnone | hapart) expected id source plan h
    · exact absurd hnone (exists_of_updateOf h).1
    · exact bumps_of_keysApart hm hv hapart h

end Metadata

namespace SampleVersionColumns

/-- A type with a version and a title. -/
def titled (titleColumn : String) : EntityDescriptor where
  path := "Parcel"
  name := "Parcel"
  table := some "parcels"
  fields := [{ name := "id", isId := true }, { name := "rev", isVersion := true, integral := true },
    { name := "title", column := some titleColumn }]

def titledMapping (titleColumn : String) : Metadata :=
  .ofFields (titled titleColumn) { name := "id", isId := true }
    (some { name := "rev", isVersion := true, integral := true })
    [.column ⟨"id", "id"⟩, .column ⟨"rev", "rev"⟩, .column ⟨"title", titleColumn⟩]

/-- A type whose only number is its identifier and its version. -/
def numbered : EntityDescriptor where
  path := "Ticket"
  name := "Ticket"
  fields := [{ name := "number", isId := true, isVersion := true, integral := true },
    { name := "label" }]

def numberedMapping : Metadata :=
  .ofFields numbered { name := "number", isId := true, isVersion := true, integral := true }
    (some { name := "number", isId := true, isVersion := true, integral := true })
    [.column ⟨"number", "number"⟩, .column ⟨"label", "label"⟩]

theorem titled_resolves (titleColumn : String) :
    Metadata.ofDescriptor [] (titled titleColumn) = .ok (titledMapping titleColumn) := rfl

theorem numbered_resolves : Metadata.ofDescriptor [] numbered = .ok numberedMapping := rfl

/-- The version is counted up in a column of its own, not in one that the title is stored in too,
and not if it is the identifier. -/
theorem always_bumps_iff_samples :
    (titledMapping "title").AlwaysBumps ⟨"rev", "rev"⟩ ∧
      ¬ (titledMapping "rev").AlwaysBumps ⟨"rev", "rev"⟩ ∧
      ¬ numberedMapping.AlwaysBumps ⟨"number", "number"⟩ := by
  refine ⟨(Metadata.always_bumps_iff (titled_resolves "title") rfl).mpr (.inr ?_), fun hall => ?_,
    fun hall => ?_⟩
  · exact ⟨by decide, by decide, by decide⟩
  · rcases (Metadata.always_bumps_iff (titled_resolves "rev") rfl).mp hall with hnone | hapart
    · exact absurd hnone (by decide)
    · exact absurd hapart.version (by decide)
  · rcases (Metadata.always_bumps_iff numbered_resolves rfl).mp hall with hnone | hapart
    · exact absurd hnone (by decide)
    · exact hapart.role rfl

end SampleVersionColumns

end EntityMapper
