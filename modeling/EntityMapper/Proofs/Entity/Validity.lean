import EntityMapper.Proofs.Entity.Mapping
import EntityMapper.Proofs.Entity.Ordering
/-! Validity: the rules for descriptors. A descriptor has a mapping exactly if it keeps them, and
the mapping lists its fields in order. -/

namespace EntityMapper

namespace FieldDescriptor

variable (schema : Schema)

/-- An owning reference to a type, which is told by its path. -/
def RefersTo (f : FieldDescriptor) (owner : EntityDescriptor) : Prop :=
  ∃ kind target, f.relation = some kind ∧ kind.isOwning = true ∧ f.target? schema = some target ∧
    target.path = owner.path

/-- A field of the target owns a collection: it is the first one of the name that is given, or no
name is given and it is the only one that refers back. -/
inductive OwnedBy (owner : EntityDescriptor) (f : FieldDescriptor) (target : EntityDescriptor) :
    FieldDescriptor → Prop
  | named {mappedBy g before after} (hname : f.mappedBy = some mappedBy)
    (hfields : target.fields = before ++ g :: after) (hfirst : ∀ h ∈ before, h.name ≠ mappedBy)
    (hg : g.name = mappedBy) (hrefers : g.RefersTo schema owner) : OwnedBy owner f target g
  | only {g before after} (hname : f.mappedBy = none)
    (hfields : target.fields = before ++ g :: after) (hrefers : g.RefersTo schema owner)
    (hothers : ∀ h ∈ before ++ after, ¬ h.RefersTo schema owner) : OwnedBy owner f target g

/-- Why no field of the target owns a collection. -/
inductive Unowned (owner : EntityDescriptor) (f : FieldDescriptor) (target : EntityDescriptor) :
    MappingFault → Prop
  | unknown {mappedBy} (hname : f.mappedBy = some mappedBy)
    (hnone : ∀ g ∈ target.fields, g.name ≠ mappedBy) :
    Unowned owner f target (.unknownOwner f.name target.name mappedBy)
  | foreign {mappedBy g before after} (hname : f.mappedBy = some mappedBy)
    (hfields : target.fields = before ++ g :: after) (hfirst : ∀ h ∈ before, h.name ≠ mappedBy)
    (hg : g.name = mappedBy) (hrefers : ¬ g.RefersTo schema owner) :
    Unowned owner f target (.foreignOwner f.name target.name mappedBy owner.name)
  | missing (hname : f.mappedBy = none) (hnone : ∀ g ∈ target.fields, ¬ g.RefersTo schema owner) :
    Unowned owner f target (.missingOwner f.name owner.name target.name)
  | ambiguous {g h before between after} (hname : f.mappedBy = none)
    (hfields : target.fields = before ++ g :: (between ++ h :: after))
    (hg : g.RefersTo schema owner) (hh : h.RefersTo schema owner) :
    Unowned owner f target (.ambiguousOwner f.name target.name owner.name)

/-- The rules for a single field: what has no relation has no join column, and a relation is no key
and has a target, with a join column exactly if it is owning. -/
structure Proper (f : FieldDescriptor) : Prop where
  plain : f.relation = none → f.joinColumn = none
  unkeyed : f.relation.isSome → f.isId = false ∧ f.isVersion = false
  targeted : f.relation.isSome → (f.target? schema).isSome
  owning : ∀ kind, f.relation = some kind → kind.isOwning = true → f.joinColumn.isSome
  inverse : ∀ kind, f.relation = some kind → kind.isOwning = false → f.joinColumn = none

/-- If the field is a collection, a field of its target owns it. -/
def Owned (owner : EntityDescriptor) (f : FieldDescriptor) : Prop :=
  ∀ kind target, f.relation = some kind → kind.isOwning = false →
    f.target? schema = some target → ∃ g, f.OwnedBy schema owner target g

end FieldDescriptor

namespace EntityDescriptor

/-- The rules for a type as a whole: it is managed, and of its fields exactly one is the identifier
and at most one is the version, which is an integer. -/
structure Keyed (d : EntityDescriptor) : Prop where
  managed : d.managed = true
  identifier : (d.fields.filter (·.isId)).length = 1
  version : (d.fields.filter (·.isVersion)).length ≤ 1
  integral : ∀ f ∈ d.fields, f.isVersion = true → f.integral = true

/-- The rules for descriptors. -/
structure Valid (schema : Schema) (d : EntityDescriptor) : Prop extends Keyed d where
  fields : ∀ f ∈ d.fields, f.Proper schema
  collections : ∀ f ∈ d.fields, f.Owned schema d

end EntityDescriptor

namespace Metadata

variable {schema : Schema} {d target : EntityDescriptor} {f : FieldDescriptor}

theorem pointsTo_iff {owner : EntityDescriptor} :
    pointsTo schema owner f = true ↔ f.RefersTo schema owner := by
  simp only [pointsTo, FieldDescriptor.RefersTo, Bool.and_eq_true, Option.any_eq_true, beq_iff_eq]
  constructor
  · rintro ⟨⟨kind, hkind, ho⟩, target, ht, hpath⟩
    exact ⟨kind, target, hkind, ho, ht, hpath⟩
  · rintro ⟨kind, target, hkind, ho, ht, hpath⟩
    exact ⟨⟨kind, hkind, ho⟩, target, ht, hpath⟩

/-- The search for the owning field gives the field that owns the collection, or says why there is
none. -/
theorem owningField_cases (schema : Schema) (d : EntityDescriptor) (f : FieldDescriptor)
    (target : EntityDescriptor) :
    (∃ g, f.OwnedBy schema d target g ∧ owningField schema d f target = .ok g.name) ∨
      ∃ fault, f.Unowned schema d target fault ∧
        owningField schema d f target = .error fault := by
  unfold owningField
  cases hname : f.mappedBy with
  | some mappedBy =>
    dsimp only
    cases hfield : target.field? mappedBy with
    | none =>
      refine .inr ⟨_, .unknown hname fun g hg heq => ?_, rfl⟩
      simpa [heq] using List.find?_eq_none.mp hfield g hg
    | some g =>
      obtain ⟨hg, before, after, hfields, hfirst⟩ := List.find?_eq_some_iff_append.mp hfield
      simp only [beq_iff_eq] at hg
      simp only [Bool.not_eq_eq_eq_not, Bool.not_true, beq_eq_false_iff_ne] at hfirst
      by_cases hrefers : pointsTo schema d g = true
      · exact .inl ⟨g, .named hname hfields hfirst hg (pointsTo_iff.mp hrefers), if_pos hrefers⟩
      · exact .inr ⟨_, .foreign hname hfields hfirst hg (mt pointsTo_iff.mpr hrefers),
          if_neg hrefers⟩
  | none =>
    dsimp only
    rcases hcandidates : target.fields.filter (pointsTo schema d) with _ | ⟨g, _ | ⟨h, rest⟩⟩
    · refine .inr ⟨_, .missing hname fun g hg hrefers => ?_, rfl⟩
      exact List.filter_eq_nil_iff.mp hcandidates g hg (pointsTo_iff.mpr hrefers)
    · obtain ⟨before, after, hfields, hbefore, hg, hafter⟩ :=
        List.filter_eq_cons_iff.mp hcandidates
      refine .inl ⟨g, .only hname hfields (pointsTo_iff.mp hg) fun h hh hrefers => ?_, rfl⟩
      rcases List.mem_append.mp hh with hh | hh
      · exact hbefore h hh (pointsTo_iff.mpr hrefers)
      · exact List.filter_eq_nil_iff.mp hafter h hh (pointsTo_iff.mpr hrefers)
    · obtain ⟨before, after, hfields, -, hg, hafter⟩ := List.filter_eq_cons_iff.mp hcandidates
      obtain ⟨between, after', rfl, -, hh, -⟩ := List.filter_eq_cons_iff.mp hafter
      exact .inr ⟨_, .ambiguous hname hfields (pointsTo_iff.mp hg) (pointsTo_iff.mp hh), rfl⟩

/-- A field that owns a collection is found. -/
theorem owningField_of_ownedBy {g : FieldDescriptor} (h : f.OwnedBy schema d target g) :
    owningField schema d f target = .ok g.name := by
  unfold owningField
  cases h with
  | @named mappedBy _ before after hname hfields hfirst hg hrefers =>
    have hfield : target.field? mappedBy = some g := by
      refine List.find?_eq_some_iff_append.mpr ⟨by simp [hg], before, after, hfields, ?_⟩
      simpa using hfirst
    simp only [hname, hfield, pointsTo_iff.mpr hrefers, if_true]
  | @only _ before after hname hfields hrefers hothers =>
    have hnone {l : List FieldDescriptor} (hl : ∀ h ∈ l, ¬ h.RefersTo schema d) :
        l.filter (pointsTo schema d) = [] :=
      List.filter_eq_nil_iff.mpr fun h hh hp => hl h hh (pointsTo_iff.mp hp)
    have hcandidates : target.fields.filter (pointsTo schema d) = [g] := by
      rw [hfields, List.filter_append, List.filter_cons_of_pos (pointsTo_iff.mpr hrefers),
        hnone fun h hh => hothers h (List.mem_append_left _ hh),
        hnone fun h hh => hothers h (List.mem_append_right _ hh)]
      rfl
    simp only [hname, hcandidates]

/-- What is mapped keeps the rules for a field, and has an owner if it is a collection. -/
theorem proper_of_mapField {x : MappedField} (h : mapField schema d f = .ok x) :
    f.Proper schema ∧ f.Owned schema d := by
  have hunkeyed : f.relation.isSome → f.isId = false ∧ f.isVersion = false := by
    intro hr
    rw [← Bool.or_eq_false_iff]
    by_contra hkey
    rw [Bool.not_eq_false, Bool.or_eq_true] at hkey
    rw [relation_of_key h hkey] at hr
    cases hr
  rcases mapField_forms h with ⟨hr, hj, -⟩ |
    ⟨kind, target, hr, ht, ⟨join, ho, hj, -⟩ | ⟨owner, ho, hj, howner, -⟩⟩
  · exact ⟨⟨fun _ => hj, hunkeyed, by simp [hr], by simp [hr], by simp [hr]⟩,
      by simp [FieldDescriptor.Owned, hr]⟩
  · refine ⟨⟨by simp [hr], hunkeyed, by simp [ht], by simp [hj], by simp [hr, ho]⟩, ?_⟩
    intro kind' target' hr' ho'
    obtain rfl := Option.some.inj (hr.symm.trans hr')
    rw [ho] at ho'
    cases ho'
  · refine ⟨⟨by simp [hr], hunkeyed, by simp [ht], by simp [hr, ho], by simp [hj]⟩, ?_⟩
    intro kind' target' _ _ ht'
    obtain rfl := Option.some.inj (ht.symm.trans ht')
    obtain ⟨g, hg, -⟩ | ⟨fault, -, hfault⟩ := owningField_cases schema d f target
    · exact ⟨g, hg⟩
    · rw [howner] at hfault
      cases hfault

theorem mapField_collection (hf : f.Proper schema) {kind : RelationKind}
    (hr : f.relation = some kind) (ho : kind.isOwning = false)
    (ht : f.target? schema = some target) : mapField schema d f =
      (owningField schema d f target).map fun owner => .collection ⟨f.name, target, owner⟩ := by
  obtain ⟨hid, hversion⟩ := hf.unkeyed (by simp [hr])
  simp [mapField, hr, hid, hversion, ht, ho, hf.inverse kind hr ho]

/-- A field that keeps the rules is mapped, unless it is a collection that no field owns. -/
theorem mapField_cases (d : EntityDescriptor) (hf : f.Proper schema) :
    (∃ x, mapField schema d f = .ok x) ∨
      ∃ kind target fault, f.relation = some kind ∧ kind.isOwning = false ∧
        f.target? schema = some target ∧ f.Unowned schema d target fault ∧
        mapField schema d f = .error fault := by
  cases hr : f.relation with
  | none => exact .inl ⟨.column ⟨f.name, f.columnName⟩, by simp [mapField, hr, hf.plain hr]⟩
  | some kind =>
    have hsome : f.relation.isSome := by simp [hr]
    obtain ⟨target, ht⟩ := Option.isSome_iff_exists.mp (hf.targeted hsome)
    cases ho : kind.isOwning with
    | true =>
      obtain ⟨hid, hversion⟩ := hf.unkeyed hsome
      obtain ⟨join, hj⟩ := Option.isSome_iff_exists.mp (hf.owning kind hr ho)
      exact .inl ⟨.reference ⟨f.name, join, kind, target⟩, by
        simp [mapField, hr, hid, hversion, ht, ho, hj]⟩
    | false =>
      rw [mapField_collection hf hr ho ht]
      obtain ⟨g, -, howner⟩ | ⟨fault, hfault, howner⟩ := owningField_cases schema d f target
      · exact .inl ⟨.collection ⟨f.name, target, g.name⟩, by rw [howner]; rfl⟩
      · exact .inr ⟨kind, target, fault, rfl, ho, ht, hfault, by rw [howner]; rfl⟩

theorem mapField_isOk_iff :
    (∃ x, mapField schema d f = .ok x) ↔ f.Proper schema ∧ f.Owned schema d := by
  refine ⟨fun ⟨x, hx⟩ => proper_of_mapField hx, fun ⟨hproper, howned⟩ => ?_⟩
  rcases mapField_cases d hproper with hx | ⟨kind, target, fault, hr, ho, ht, -, herror⟩
  · exact hx
  · obtain ⟨g, hg⟩ := howned kind target hr ho ht
    rw [mapField_collection hproper hr ho ht, owningField_of_ownedBy hg] at herror
    cases herror

/-- The key fields are found exactly if the type keeps the rules for them. -/
theorem keyFields_isOk_iff : (∃ p, keyFields d = .ok p) ↔ d.Keyed := by
  constructor
  · rintro ⟨⟨id, version⟩, h⟩
    obtain ⟨hid, hversion, hintegral⟩ := keyFields_parts h
    refine ⟨?_, by rw [hid]; rfl, ?_, fun f hf hmark => ?_⟩
    · by_contra hmanaged
      simp [keyFields, Bool.eq_false_of_not_eq_true hmanaged] at h
    · rw [hversion]
      cases version <;> simp
    · have hmem : f ∈ version.toList := hversion ▸ List.mem_filter.mpr ⟨hf, hmark⟩
      exact hintegral f (Option.mem_toList.mp hmem)
  · intro h
    obtain ⟨id, hid⟩ := List.length_eq_one_iff.mp h.identifier
    rcases hversion : d.fields.filter (·.isVersion) with _ | ⟨version, _ | ⟨other, rest⟩⟩
    · exact ⟨(id, none), by simp [keyFields, h.managed, hid, hversion]⟩
    · have hmem : version ∈ d.fields.filter (·.isVersion) := by simp [hversion]
      obtain ⟨hmem, hmark⟩ := List.mem_filter.mp hmem
      exact ⟨(id, some version), by
        simp [keyFields, h.managed, hid, hversion, h.integral version hmem hmark]⟩
    · have hone := h.version
      rw [hversion] at hone
      simp at hone

section Listed

variable {fields : List MappedField}

/-- The plain fields give the columns. -/
theorem columns_of_mapM (h : d.fields.mapM (mapField schema d) = .ok fields) :
    fields.filterMap MappedField.column? =
      (d.fields.filter (·.relation.isNone)).map fun f => ⟨f.name, f.columnName⟩ := by
  rw [mapM_eq_ok_iff] at h
  generalize d.fields = fs at h
  induction h with
  | nil => rfl
  | cons hf _ ih =>
    rcases mapField_forms hf with ⟨hr, -, rfl⟩ |
      ⟨kind, target, hr, -, ⟨join, -, -, rfl⟩ | ⟨owner, -, -, -, rfl⟩⟩
    · rw [List.filterMap_cons_some (f := MappedField.column?) rfl,
        List.filter_cons_of_pos (by simp [hr]), List.map_cons, ih]
    · rw [List.filterMap_cons_none rfl, List.filter_cons_of_neg (by simp [hr]), ih]
    · rw [List.filterMap_cons_none rfl, List.filter_cons_of_neg (by simp [hr]), ih]

/-- The owning fields give the references, in order. -/
theorem references_of_mapM (h : d.fields.mapM (mapField schema d) = .ok fields) :
    List.Forall₂ (fun f r => r.field = f.name ∧ f.relation = some r.kind ∧
        f.joinColumn = some r.joinColumn ∧ f.target? schema = some r.target)
      (d.fields.filter fun f => f.relation.any (·.isOwning))
      (fields.filterMap MappedField.reference?) := by
  rw [mapM_eq_ok_iff] at h
  generalize d.fields = fs at h
  induction h with
  | nil => exact .nil
  | cons hf _ ih =>
    rcases mapField_forms hf with ⟨hr, -, rfl⟩ |
      ⟨kind, target, hr, ht, ⟨join, ho, hj, rfl⟩ | ⟨owner, ho, -, -, rfl⟩⟩
    · rw [List.filterMap_cons_none rfl, List.filter_cons_of_neg (by simp [hr])]
      exact ih
    · rw [List.filterMap_cons_some (f := MappedField.reference?) rfl,
        List.filter_cons_of_pos (by simp [hr, ho])]
      exact .cons ⟨rfl, hr, hj, ht⟩ ih
    · rw [List.filterMap_cons_none rfl, List.filter_cons_of_neg (by simp [hr, ho])]
      exact ih

end Listed

/-- The mapping lists the fields of its descriptor: the plain ones ordered by name, the owning ones
as they were declared, and both together ordered by name. -/
structure Lists (schema : Schema) (d : EntityDescriptor) (m : Metadata) : Prop where
  columns : OrderedByName ColumnMapping.field
    ((d.fields.filter (·.relation.isNone)).map fun f => ⟨f.name, f.columnName⟩) m.columns
  references : List.Forall₂ (fun f r => r.field = f.name ∧ f.relation = some r.kind ∧
      f.joinColumn = some r.joinColumn ∧ f.target? schema = some r.target)
    (d.fields.filter fun f => f.relation.any (·.isOwning)) m.references
  persistent : OrderedByName PersistentField.field
    (m.columns.map (fun c => ⟨c.field, c.column, false⟩) ++
      m.references.map (fun r => ⟨r.field, r.joinColumn, true⟩)) m.persistent

theorem lists_of_ofDescriptor {m : Metadata} (h : ofDescriptor schema d = .ok m) :
    m.Lists schema d := by
  obtain ⟨id, version, fields, -, hfields, rfl⟩ := ofDescriptor_parts h
  refine ⟨?_, references_of_mapM hfields, orderedByName_sortByName _ _⟩
  rw [← columns_of_mapM hfields]
  exact orderedByName_sortByName _ _

/-- A descriptor has a mapping exactly if it keeps the rules. -/
theorem ofDescriptor_isOk_iff : (∃ m, ofDescriptor schema d = .ok m) ↔ d.Valid schema := by
  constructor
  · rintro ⟨m, h⟩
    obtain ⟨id, version, fields, hkeys, hfields, -⟩ := ofDescriptor_parts h
    have hmapped f hf := mapField_isOk_iff.mp (mapM_isOk_iff.mp ⟨fields, hfields⟩ f hf)
    exact ⟨keyFields_isOk_iff.mp ⟨_, hkeys⟩, fun f hf => (hmapped f hf).1,
      fun f hf => (hmapped f hf).2⟩
  · intro h
    obtain ⟨⟨id, version⟩, hkeys⟩ := keyFields_isOk_iff.mpr h.toKeyed
    obtain ⟨fields, hfields⟩ := mapM_isOk_iff.mpr fun f hf =>
      mapField_isOk_iff.mpr ⟨h.fields f hf, h.collections f hf⟩
    exact ⟨ofFields d id version fields, by
      simp [ofDescriptor, check, hkeys, hfields, bind, Except.bind, pure, Except.pure]⟩

/-- The descriptors that are accepted are those that keep the rules, and the mapping of such a
descriptor lists its fields in their orders. -/
theorem accepts_exactly_valid (schema : Schema) (d : EntityDescriptor) :
    ((∃ m, ofDescriptor schema d = .ok m) ↔ d.Valid schema) ∧
      ∀ m, ofDescriptor schema d = .ok m → m.Lists schema d :=
  ⟨ofDescriptor_isOk_iff, fun _ => lists_of_ofDescriptor⟩

/-- If the type keeps its rules and each field those for a single field, only the search for the
owner of a collection can fail. -/
theorem unowned_of_error (hd : d.Keyed) (hfields : ∀ f ∈ d.fields, f.Proper schema) {e : Error}
    (h : ofDescriptor schema d = .error e) :
    ∃ f ∈ d.fields, ∃ kind target fault, f.relation = some kind ∧ kind.isOwning = false ∧
      f.target? schema = some target ∧ f.Unowned schema d target fault ∧
      e = .mapping d.name fault.message := by
  obtain ⟨⟨id, version⟩, hkeys⟩ := keyFields_isOk_iff.mpr hd
  cases hmapped : d.fields.mapM (mapField schema d) with
  | ok fields =>
    simp [ofDescriptor, check, hkeys, hmapped, bind, Except.bind, pure, Except.pure] at h
  | error fault =>
    obtain ⟨f, hf, hfault⟩ := exists_of_mapM_error hmapped
    obtain ⟨x, hx⟩ | ⟨kind, target, fault', hr, ho, ht, hunowned, hfault'⟩ :=
      mapField_cases d (hfields f hf)
    · rw [hx] at hfault
      cases hfault
    · obtain rfl := Except.error.inj (hfault'.symm.trans hfault)
      refine ⟨f, hf, kind, target, fault', hr, ho, ht, hunowned, ?_⟩
      simpa [ofDescriptor, check, hkeys, hmapped, bind, Except.bind, eq_comm] using h

end Metadata

end EntityMapper
