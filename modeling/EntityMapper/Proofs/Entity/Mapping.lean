import EntityMapper.Proofs.Computation
import EntityMapper.Entity.Metadata
/-! What the mapping of a descriptor is made of, when there is one. -/

namespace EntityMapper

namespace Metadata

theorem mem_insertByName {α : Type} {name : α → String} {a b : α} {l : List α} :
    b ∈ insertByName name a l ↔ b = a ∨ b ∈ l := by
  induction l with
  | nil => simp [insertByName]
  | cons c l ih =>
    unfold insertByName
    split
    · simp only [List.mem_cons, ih]
      exact or_left_comm
    · simp

@[simp] theorem mem_sortByName {α : Type} {name : α → String} {b : α} {l : List α} :
    b ∈ sortByName name l ↔ b ∈ l := by
  induction l with
  | nil => simp [sortByName]
  | cons a l ih => simp [sortByName, mem_insertByName, ih]

variable {schema : Schema} {d : EntityDescriptor} {f : FieldDescriptor}

/-- The three forms that a mapped field can have. -/
theorem mapField_forms {x : MappedField} (h : mapField schema d f = .ok x) :
    (f.relation = none ∧ f.joinColumn = none ∧ x = .column ⟨f.name, f.columnName⟩) ∨
      ∃ kind target, f.relation = some kind ∧ f.target? schema = some target ∧
        ((∃ join, kind.isOwning = true ∧ f.joinColumn = some join ∧
            x = .reference ⟨f.name, join, kind, target⟩) ∨
          ∃ owner, kind.isOwning = false ∧ f.joinColumn = none ∧
            owningField schema d f target = .ok owner ∧
            x = .collection ⟨f.name, target, owner⟩) := by
  unfold mapField at h
  cases hr : f.relation with
  | none =>
    cases hj : f.joinColumn with
    | some join => simp [hr, hj] at h
    | none =>
      simp only [hr, hj, Option.isSome_none, Bool.false_eq_true, if_false, Except.ok.injEq] at h
      exact .inl ⟨rfl, rfl, h.symm⟩
  | some kind =>
    by_cases hk : (f.isId || f.isVersion) = true
    · simp [hr, hk] at h
    cases ht : f.target? schema with
    | none => simp [hr, hk, ht] at h
    | some target =>
      refine .inr ⟨kind, target, rfl, rfl, ?_⟩
      cases ho : kind.isOwning <;> cases hj : f.joinColumn <;>
        simp only [hr, hk, ht, ho, hj, Option.isSome_none, Option.isSome_some, if_true, if_false,
          Bool.false_eq_true, reduceCtorEq, Except.ok.injEq] at h
      · cases hf : owningField schema d f target with
        | error e => simp [hf, Except.map] at h
        | ok owner =>
          simp only [hf, Except.map, Except.ok.injEq] at h
          exact .inr ⟨owner, rfl, rfl, rfl, h.symm⟩
      · exact .inl ⟨_, rfl, rfl, h.symm⟩

/-- An identifier or version is no relation. -/
theorem relation_of_key {x : MappedField} (h : mapField schema d f = .ok x)
    (hkey : f.isId = true ∨ f.isVersion = true) : f.relation = none := by
  cases hr : f.relation with
  | none => rfl
  | some kind =>
    rw [← Bool.or_eq_true] at hkey
    simp [mapField, hr, hkey] at h

/-- The key fields are the only ones marked as such, and a version is an integer. -/
theorem keyFields_parts {id : FieldDescriptor} {version : Option FieldDescriptor}
    (h : keyFields d = .ok (id, version)) :
    d.fields.filter (·.isId) = [id] ∧ d.fields.filter (·.isVersion) = version.toList ∧
      ∀ v ∈ version, v.integral = true := by
  unfold keyFields at h
  split at h
  · cases h
  split at h
  · cases h
  · rename_i only hid
    split at h
    · rename_i hversion
      cases h
      exact ⟨hid, hversion, by simp⟩
    · rename_i v hversion
      split at h <;> cases h
      rename_i hintegral
      exact ⟨hid, hversion, by simpa using hintegral⟩
    · cases h
  · cases h

theorem mem_of_keyFields {id : FieldDescriptor} {version : Option FieldDescriptor}
    (h : keyFields d = .ok (id, version)) : id ∈ d.fields := by
  have hid : id ∈ d.fields.filter (·.isId) := by simp [(keyFields_parts h).1]
  exact (List.mem_filter.mp hid).1

theorem version_of_keyFields {id version : FieldDescriptor}
    (h : keyFields d = .ok (id, some version)) :
    version ∈ d.fields ∧ version.isVersion = true := by
  have hversion : version ∈ d.fields.filter (·.isVersion) := by simp [(keyFields_parts h).2.1]
  exact List.mem_filter.mp hversion

/-- A mapping is made of the key fields and all mapped fields. -/
theorem ofDescriptor_parts {m : Metadata} (h : ofDescriptor schema d = .ok m) :
    ∃ id version fields, keyFields d = .ok (id, version) ∧
      d.fields.mapM (mapField schema d) = .ok fields ∧ m = ofFields d id version fields := by
  unfold ofDescriptor check at h
  cases hk : keyFields d with
  | error e => simp [hk, bind, Except.bind] at h
  | ok p =>
    cases hf : d.fields.mapM (mapField schema d) with
    | error e => simp [hk, hf, bind, Except.bind] at h
    | ok fields =>
      simp only [hk, hf, mapError_ok, bind, Except.bind, pure, Except.pure,
        Except.ok.injEq] at h
      exact ⟨p.1, p.2, fields, rfl, rfl, h.symm⟩

theorem descriptor_of_ofDescriptor {m : Metadata} (h : ofDescriptor schema d = .ok m) :
    m.descriptor = d := by
  obtain ⟨id, version, fields, -, -, rfl⟩ := ofDescriptor_parts h
  rfl

/-- A field without relation is stored in its own column. -/
theorem mem_persistent_of_plain {m : Metadata} (hm : ofDescriptor schema d = .ok m)
    (hf : f ∈ d.fields) (hr : f.relation = none) :
    ⟨f.name, f.columnName, false⟩ ∈ m.persistent := by
  obtain ⟨id, version, fields, -, hfields, rfl⟩ := ofDescriptor_parts hm
  obtain ⟨x, hx, hmapped⟩ := exists_of_mapM hfields f hf
  rcases mapField_forms hmapped with ⟨-, -, rfl⟩ | ⟨kind, target, hr', -⟩
  · simp only [ofFields, mem_sortByName, List.mem_append, List.mem_map, List.mem_filterMap]
    exact .inl ⟨⟨f.name, f.columnName⟩, ⟨_, hx, rfl⟩, rfl⟩
  · rw [hr] at hr'
    cases hr'

/-- An owning field is stored in its join column. -/
theorem mem_persistent_of_owning {m : Metadata} (hm : ofDescriptor schema d = .ok m)
    (hf : f ∈ d.fields) {kind : RelationKind} (hr : f.relation = some kind)
    {join : String} (hj : f.joinColumn = some join) :
    ⟨f.name, join, true⟩ ∈ m.persistent := by
  obtain ⟨id, version, fields, -, hfields, rfl⟩ := ofDescriptor_parts hm
  obtain ⟨x, hx, hmapped⟩ := exists_of_mapM hfields f hf
  rcases mapField_forms hmapped with ⟨hr', -⟩ |
    ⟨kind', target, hr', -, ⟨join', -, hj', rfl⟩ | ⟨owner, -, hj', -⟩⟩
  · rw [hr] at hr'
    cases hr'
  · obtain rfl := Option.some.inj (hj.symm.trans hj')
    simp only [ofFields, mem_sortByName, List.mem_append, List.mem_map, List.mem_filterMap]
    exact .inr ⟨⟨f.name, join, kind', target⟩, ⟨_, hx, rfl⟩, rfl⟩
  · rw [hj] at hj'
    cases hj'

/-- Every stored field is a plain one in its own column, or an owning one in its join column. -/
theorem exists_of_mem_persistent {m : Metadata} (hm : ofDescriptor schema d = .ok m)
    {p : PersistentField} (hp : p ∈ m.persistent) :
    ∃ f ∈ d.fields, f.name = p.field ∧
      (f.relation = none ∧ p.column = f.columnName ∨ f.joinColumn = some p.column) := by
  obtain ⟨id, version, fields, -, hfields, rfl⟩ := ofDescriptor_parts hm
  simp only [ofFields, mem_sortByName, List.mem_append, List.mem_map, List.mem_filterMap] at hp
  obtain ⟨c, ⟨x, hx, hc⟩, rfl⟩ | ⟨r, ⟨x, hx, hr⟩, rfl⟩ := hp <;>
    obtain ⟨f, hf, hmapped⟩ := mem_of_mapM hfields x hx <;>
    rcases mapField_forms hmapped with ⟨hrelation, -, rfl⟩ |
      ⟨kind, target, -, -, ⟨join, -, hj, rfl⟩ | ⟨owner, -, -, -, rfl⟩⟩
  · cases hc
    exact ⟨f, hf, rfl, .inl ⟨hrelation, rfl⟩⟩
  · cases hc
  · cases hc
  · cases hr
  · cases hr
    exact ⟨f, hf, rfl, .inr hj⟩
  · cases hr

/-- Every collection comes from a field that is a relation and owns nothing, with the field of its
target that was found to own it. -/
theorem exists_of_mem_collections {m : Metadata} (hm : ofDescriptor schema d = .ok m)
    {c : CollectionMapping} (hc : c ∈ m.collections) :
    ∃ f ∈ d.fields, f.name = c.field ∧ owningField schema d f c.target = .ok c.mappedBy := by
  obtain ⟨id, version, fields, -, hfields, rfl⟩ := ofDescriptor_parts hm
  obtain ⟨x, hx, hc⟩ := List.mem_filterMap.mp hc
  obtain ⟨f, hf, hmapped⟩ := mem_of_mapM hfields x hx
  rcases mapField_forms hmapped with ⟨-, -, rfl⟩ |
    ⟨kind, target, -, -, ⟨join, -, -, rfl⟩ | ⟨owner, -, -, howner, rfl⟩⟩
  · cases hc
  · cases hc
  · cases hc
    exact ⟨f, hf, rfl, howner⟩

/-- A relation that owns nothing is a collection of the mapping. -/
theorem exists_collection {m : Metadata} (hm : ofDescriptor schema d = .ok m)
    (hf : f ∈ d.fields) {kind : RelationKind} (hr : f.relation = some kind)
    (ho : kind.isOwning = false) : ∃ c, m.collection? f.name = some c := by
  obtain ⟨id, version, fields, -, hfields, rfl⟩ := ofDescriptor_parts hm
  obtain ⟨x, hx, hmapped⟩ := exists_of_mapM hfields f hf
  rcases mapField_forms hmapped with ⟨hr', -⟩ |
    ⟨kind', target, hr', -, ⟨join, ho', -⟩ | ⟨owner, -, -, -, rfl⟩⟩
  · rw [hr] at hr'
    cases hr'
  · obtain rfl := Option.some.inj (hr.symm.trans hr')
    rw [ho] at ho'
    cases ho'
  · rw [← Option.isSome_iff_exists, collection?, List.find?_isSome]
    exact ⟨_, List.mem_filterMap.mpr ⟨_, hx, rfl⟩, beq_self_eq_true f.name⟩

theorem id_mem_persistent {m : Metadata} (hm : ofDescriptor schema d = .ok m) :
    ⟨m.id.field, m.id.column, false⟩ ∈ m.persistent := by
  obtain ⟨id, version, fields, hkeys, hfields, hparts⟩ := ofDescriptor_parts hm
  have hmem : id ∈ d.fields.filter (·.isId) := by simp [(keyFields_parts hkeys).1]
  obtain ⟨hid, hmark⟩ := List.mem_filter.mp hmem
  obtain ⟨x, -, hx⟩ := exists_of_mapM hfields id hid
  have hstored := mem_persistent_of_plain hm hid (relation_of_key hx (.inl hmark))
  rw [hparts] at hstored ⊢
  exact hstored

theorem version_mem_persistent {m : Metadata} {v : ColumnMapping}
    (hm : ofDescriptor schema d = .ok m) (hv : m.version = some v) :
    ⟨v.field, v.column, false⟩ ∈ m.persistent := by
  obtain ⟨id, version, fields, hkeys, hfields, hparts⟩ := ofDescriptor_parts hm
  rw [hparts] at hv
  obtain ⟨f, rfl, rfl⟩ := Option.map_eq_some_iff.mp hv
  obtain ⟨hf, hmark⟩ := version_of_keyFields hkeys
  obtain ⟨x, -, hx⟩ := exists_of_mapM hfields f hf
  exact mem_persistent_of_plain hm hf (relation_of_key hx (.inr hmark))

end Metadata

end EntityMapper
