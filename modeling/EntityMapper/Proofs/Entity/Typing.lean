import EntityMapper.Entity.Hydration
import EntityMapper.Proofs.Entity.Mapping
import EntityMapper.Session.Snapshot
import Mathlib.Data.List.Nodup
/-! Typing: the fields of an instance hold what their types show, in agreement with the mapping of
its type. -/

namespace EntityMapper

namespace Scalar

/-- A value is read into one that the field can show, or it is of a wrong type. -/
theorem read_forms (s : Scalar) (v : Value) :
    (∃ w, s.read v = .ok w ∧ s.Shows w) ∨
      ∃ expected actual, s.read v = .error (.type expected actual none) := by
  cases s with
  | bool =>
    cases hb : v.asBool with
    | none => exact .inr ⟨_, _, by rw [read, hb]; rfl⟩
    | some b => exact .inl ⟨.bool b, by rw [read, hb], trivial⟩
  | integer width =>
    cases hv : v.asInteger with
    | none => exact .inr ⟨_, _, by rw [read, readInteger, hv]; rfl⟩
    | some n =>
      cases hm : SizedInt.ofInt? width n.val with
      | none => exact .inr ⟨_, _, by simp only [read, readInteger, hv, hm]; rfl⟩
      | some m => exact .inl ⟨.integer width m, by simp only [read, readInteger, hv, hm], rfl⟩
  | count =>
    cases hv : v.asInteger with
    | none => exact .inr ⟨_, _, by rw [read, readCount, hv]; rfl⟩
    | some n =>
      simp only [read, readCount, hv]
      split
      · rename_i hn
        exact .inl ⟨_, rfl, by simpa [Shows] using hn⟩
      · exact .inr ⟨_, _, rfl⟩
  | double =>
    cases hd : v.asDouble with
    | none => exact .inr ⟨_, _, by rw [read, hd]; rfl⟩
    | some x => exact .inl ⟨.double x, by rw [read, hd], trivial⟩
  | text =>
    cases ht : v.asText with
    | none => exact .inr ⟨_, _, by rw [read, ht]; rfl⟩
    | some x => exact .inl ⟨.text x, by rw [read, ht], trivial⟩
  | single | bytes | document =>
    cases v <;> simp only [read, Value.asDouble] <;> (try split) <;>
      first | exact .inl ⟨_, rfl, trivial⟩ | exact .inr ⟨_, _, rfl⟩
  | any => exact .inl ⟨v, rfl, trivial⟩

/-- What is read into a field is a value that the field can show. -/
theorem shows_of_read {s : Scalar} {v w : Value} (h : s.read v = .ok w) : s.Shows w := by
  obtain ⟨u, hread, hshows⟩ | ⟨expected, actual, hread⟩ := s.read_forms v
  · rw [← Except.ok.inj (hread.symm.trans h)]
    exact hshows
  · rw [h] at hread
    cases hread

/-- What cannot be read is of a wrong type. -/
theorem type_of_read_error {s : Scalar} {v : Value} {e : Error} (h : s.read v = .error e) :
    ∃ expected actual, e = .type expected actual none := by
  obtain ⟨u, hread, -⟩ | ⟨expected, actual, hread⟩ := s.read_forms v
  · rw [h] at hread
    cases hread
  · exact ⟨expected, actual, Except.error.inj (h.symm.trans hread)⟩

/-- A value that a field shows is read back as it is. -/
theorem read_of_shows {s : Scalar} {v : Value} (h : s.Shows v) : s.read v = .ok v := by
  cases s with
  | any => rfl
  | integer width =>
    cases v <;> simp only [Shows] at h
    subst h
    simp [read, readInteger, Value.asInteger]
  | count =>
    cases v with
    | integer width n =>
      cases width <;> simp only [Shows] at h
      have hn : (decide (0 ≤ n.val) && decide (n.val < 2 ^ 32)) = true := by
        rw [decide_eq_true h.1, decide_eq_true h.2]
        rfl
      exact if_pos hn
    | _ => simp only [Shows] at h
  | _ =>
    cases v <;> simp only [Shows] at h
    simp [read, Value.asBool, Value.asDouble, Value.asText]

theorem shows_initial (s : Scalar) : s.Shows s.initial := by
  cases s with
  | integer => rfl
  | count => exact ⟨Int.le_refl 0, by decide⟩
  | _ => trivial

end Scalar

namespace FieldType

theorem shows_initial (t : FieldType) : t.Shows t.initial := by
  cases t with
  | required s => exact s.shows_initial
  | optional s => exact .inl rfl

theorem shows_of_read {t : FieldType} {v w : Value} (h : t.read v = .ok w) : t.Shows w := by
  cases t with
  | required s => exact Scalar.shows_of_read h
  | optional s =>
    simp only [read] at h
    split at h
    · exact .inl (Except.ok.inj h).symm
    · exact .inr (Scalar.shows_of_read h)

theorem type_of_read_error {t : FieldType} {v : Value} {e : Error}
    (h : t.read v = .error e) : ∃ expected actual, e = .type expected actual none := by
  cases t with
  | required s => exact Scalar.type_of_read_error h
  | optional s =>
    simp only [read] at h
    split at h
    · cases h
    · exact Scalar.type_of_read_error h
theorem read_of_shows {t : FieldType} {v : Value} (h : t.Shows v) : t.read v = .ok v := by
  cases t with
  | required s => exact Scalar.read_of_shows h
  | optional s =>
    cases hn : v.isNull with
    | true =>
      cases v <;> simp only [Value.isNull, reduceCtorEq] at hn
      rfl
    | false =>
      rcases h with rfl | h
      · cases hn
      · simp only [read, hn]
        exact Scalar.read_of_shows h

/-- The version after one that an integral field shows can be read into the field. -/
theorem read_nextVersion {t : FieldType} (ht : t.isIntegral = true) {x y : Value}
    (hx : x = .null ∨ t.Shows x) (hy : x.nextVersion = some y) : ∃ z, t.read y = .ok z := by
  have hread : ∀ {w : IntWidth} {n : SizedInt .big} {m : SizedInt w}, m.val = n.val →
      (Scalar.integer w).read (.integer .big n) = .ok (.integer w m) := by
    intro w n m hmn
    simp [Scalar.read, Scalar.readInteger, Value.asInteger, SizedInt.ofInt?_eq_some_iff.mpr hmn]
  have hscalar : ∀ {w : IntWidth}, x = .null ∨ (Scalar.integer w).Shows x →
      ∃ z, (Scalar.integer w).read y = .ok z := by
    intro w hx
    rcases hx with rfl | hx
    · cases hy
      exact ⟨_, hread (m := ⟨1, w.holds_one⟩) rfl⟩
    · cases x with
      | integer v n =>
        obtain rfl : v = w := hx
        obtain ⟨m, -, rfl⟩ := Option.map_eq_some_iff.mp hy
        exact ⟨_, Scalar.read_of_shows rfl⟩
      | _ => exact hx.elim
  cases t with
  | required s => cases s <;> first | exact hscalar hx | cases ht
  | optional s =>
    have hx' : x = .null ∨ s.Shows x := hx.elim .inl id
    have hnull : y.isNull = false := by
      cases x <;> simp only [Value.nextVersion, Option.map_eq_some_iff, reduceCtorEq] at hy
      · cases hy
        rfl
      · obtain ⟨m, -, rfl⟩ := hy
        rfl
    simp only [read, hnull, Bool.false_eq_true, if_false]
    cases s <;> first | exact hscalar hx' | cases ht

end FieldType

namespace EntityType

/-- A field of the type keeps values of a field type in a column. -/
structure HasColumn (t : EntityType) (f : EntityField) (a : FieldType) : Prop where
  mem : f ∈ t.fields
  role : f.role = .column a

/-- The fields of the type differ in their names, and what is not stored is neither identifier nor
version. -/
structure Formed (t : EntityType) : Prop where
  names : (t.fields.map (·.name)).Nodup
  unmarked : ∀ f ∈ t.fields, f.role = .transient → f.isId = false ∧ f.isVersion = false

variable {t : EntityType} {f : EntityField} {a : FieldType}

theorem Formed.eq_of_name (ht : t.Formed) {h : EntityField} (hf : f ∈ t.fields)
    (hh : h ∈ t.fields) (hname : f.name = h.name) : f = h :=
  List.inj_on_of_nodup_map ht.names hf hh hname

theorem Formed.field?_of_mem (ht : t.Formed) (hf : f ∈ t.fields) : t.field? f.name = some f := by
  obtain ⟨h, hh⟩ : ∃ h, t.field? f.name = some h := by
    rw [← Option.isSome_iff_exists, field?, List.find?_isSome]
    exact ⟨f, hf, by simp⟩
  have hname : h.name = f.name := by simpa using List.find?_some hh
  rw [hh, ht.eq_of_name (List.mem_of_find?_eq_some hh) hf hname]

end EntityType

namespace Instance

variable {i j : Instance} {f : EntityField} {a : FieldType} {name other : String}

/-- Every field with a column holds a value that its type shows. -/
def Fits (i : Instance) : Prop :=
  ∀ f a, i.type.HasColumn f a → ∃ v, i.slot? f.name = some (.value v) ∧ a.Shows v

theorem fieldValue_of_slot? {v : Value} (h : i.slot? name = some (.value v)) :
    i.fieldValue name = some v := by
  simp [fieldValue, h]

theorem slot?_setSlot (i : Instance) (name other : String) (s : Slot Instance) :
    (i.setSlot name s).slot? other =
      if other = name then (i.slot? other).map fun _ => s else i.slot? other := by
  obtain ⟨t, slots⟩ := i
  simp only [slot?, setSlot]
  induction slots with
  | nil => split <;> rfl
  | cons p rest ih =>
    obtain ⟨n, x⟩ := p
    by_cases hn : n = name
    · subst hn
      by_cases ho : other = n
      · subst ho
        simp
      · simpa [ho, List.lookup_cons, beq_eq_false_iff_ne.mpr ho] using ih
    · by_cases ho : other = n
      · subst ho
        simp [hn]
      · simpa [hn, List.lookup_cons, beq_eq_false_iff_ne.mpr ho] using ih

/-- Puts a value that can be read into a field with a column. -/
theorem setValue_column (ht : i.type.Formed) (hf : i.type.HasColumn f a) (v : Value) :
    i.setValue f.name v = (a.read v).map fun v => i.setSlot f.name (.value v) := by
  simp [setValue, ht.field?_of_mem hf.mem, hf.role]

/-- An instance with another value in a field with a column. -/
theorem slot?_of_setValue (ht : i.type.Formed) (hi : i.Fits) (hf : i.type.HasColumn f a) {v : Value}
    (h : i.setValue f.name v = .ok j) :
    ∃ w, a.read v = .ok w ∧ j.slot? f.name = some (.value w) ∧
      ∀ other, other ≠ f.name → j.slot? other = i.slot? other := by
  rw [setValue_column ht hf] at h
  cases hr : a.read v with
  | error e =>
    rw [hr] at h
    cases h
  | ok w =>
    rw [hr] at h
    cases h
    obtain ⟨u, hu, -⟩ := hi f a hf
    refine ⟨w, rfl, by simp [slot?_setSlot, hu], fun other ho => by simp [slot?_setSlot, ho]⟩

theorem fits_of_setValue (ht : i.type.Formed) (hi : i.Fits) {v : Value}
    (h : i.setValue name v = .ok j) : j.Fits := by
  cases hf : (i.type.field? name).map EntityField.role with
  | none =>
    rw [setValue, hf] at h
    cases h
    exact hi
  | some role =>
    obtain ⟨f, hfind, rfl⟩ := Option.map_eq_some_iff.mp hf
    cases hr : f.role with
    | column a =>
      obtain rfl : f.name = name := by simpa using List.find?_some hfind
      have hcolumn : i.type.HasColumn f a := ⟨List.mem_of_find?_eq_some hfind, hr⟩
      obtain ⟨w, hread, hslot, hothers⟩ := slot?_of_setValue ht hi hcolumn h
      have htype : j.type = i.type := by
        rw [setValue_column ht hcolumn, hread] at h
        cases h
        rfl
      intro h b hb
      rw [htype] at hb
      by_cases hname : h.name = f.name
      · obtain rfl := ht.eq_of_name hb.mem hcolumn.mem hname
        obtain rfl : a = b := FieldRole.column.inj (hr.symm.trans hb.role)
        exact ⟨w, hslot, FieldType.shows_of_read hread⟩
      · rw [hothers _ hname]
        exact hi h b hb
    | _ =>
      rw [setValue, hf, hr] at h
      cases h
      exact hi

/-- An instance shows what it identifies itself with. -/
theorem idValue_of_fits (hi : i.Fits) (hid : i.type.idField? = some f)
    (hf : i.type.HasColumn f a) : i.slot? f.name = some (.value i.idValue) ∧ a.Shows i.idValue := by
  obtain ⟨v, hv, hshows⟩ := hi f a hf
  have hvalue : i.idValue = v := by simp [idValue, hid, hv, Slot.value?]
  rw [hvalue]
  exact ⟨hv, hshows⟩

end Instance

namespace Metadata

variable {t : EntityType} {schema : Schema} {m : Metadata} {f : EntityField} {a : FieldType}

theorem mem_descriptor_fields (hf : f ∈ t.fields) {d : FieldDescriptor}
    (hd : f.descriptor? = some d) : d ∈ t.descriptor.fields :=
  List.mem_filterMap.mpr ⟨f, hf, hd⟩

theorem isId_of_descriptor {d : FieldDescriptor} (hd : f.descriptor? = some d) :
    d.isId = f.isId := by
  unfold EntityField.descriptor? at hd
  split at hd <;> cases hd <;> rfl

theorem isVersion_of_descriptor {d : FieldDescriptor} (hd : f.descriptor? = some d) :
    d.isVersion = f.isVersion := by
  unfold EntityField.descriptor? at hd
  split at hd <;> cases hd <;> rfl

/-- A marked field of a formed type is stored, under its own name and marks. -/
theorem exists_descriptor (ht : t.Formed) (hf : f ∈ t.fields)
    (hmark : f.isId = true ∨ f.isVersion = true) :
    ∃ d, f.descriptor? = some d ∧ d.name = f.name ∧ d.columnName = f.columnName ∧
      d.isId = f.isId ∧ d.isVersion = f.isVersion ∧
      (d.relation = none → ∃ a, f.role = .column a ∧ d.integral = a.isIntegral) := by
  unfold EntityField.descriptor?
  cases hr : f.role with
  | transient =>
    obtain ⟨hid, hversion⟩ := ht.unmarked f hf hr
    simp [hid, hversion] at hmark
  | column a => exact ⟨_, rfl, rfl, rfl, rfl, rfl, fun _ => ⟨a, rfl, rfl⟩⟩
  | reference exclusive target join =>
    exact ⟨_, rfl, rfl, rfl, rfl, rfl, fun h => by cases exclusive <;> cases h⟩
  | collection target mappedBy => exact ⟨_, rfl, rfl, rfl, rfl, rfl, fun h => by cases h⟩

/-- A field that is identifier or version of a mapping is no relation. -/
theorem relation_of_marked {d : FieldDescriptor} {descriptor : EntityDescriptor}
    {fields : List MappedField}
    (hfields : descriptor.fields.mapM (mapField schema descriptor) = .ok fields)
    (hd : d ∈ descriptor.fields) (hmark : d.isId = true ∨ d.isVersion = true) :
    d.relation = none := by
  obtain ⟨x, -, hx⟩ := exists_of_mapM hfields d hd
  exact relation_of_key hx hmark

theorem mem_persistent (hf : t.HasColumn f a) (hm : ofDescriptor schema t.descriptor = .ok m) :
    ⟨f.name, f.columnName, false⟩ ∈ m.persistent :=
  mem_persistent_of_plain hm
    (mem_descriptor_fields hf.mem (d := _) (by rw [EntityField.descriptor?, hf.role])) rfl

/-- The identifier of a mapping is the one of the type. -/
theorem id_of_formed (ht : t.Formed) (hm : ofDescriptor schema t.descriptor = .ok m) :
    ∃ f a, t.idField? = some f ∧ t.HasColumn f a ∧ m.id = ⟨f.name, f.columnName⟩ := by
  obtain ⟨id, version, fields, hkeys, hfields, rfl⟩ := ofDescriptor_parts hm
  obtain ⟨hid, -, -⟩ := keyFields_parts hkeys
  obtain ⟨f, hf⟩ : ∃ f, t.idField? = some f := by
    have hmem : id ∈ t.descriptor.fields.filter (·.isId) := by simp [hid]
    obtain ⟨hmem, hmark⟩ := List.mem_filter.mp hmem
    obtain ⟨f, hf, hd⟩ := List.mem_filterMap.mp hmem
    rw [← Option.isSome_iff_exists, EntityType.idField?, List.find?_isSome]
    exact ⟨f, hf, by rw [← hmark]; exact (isId_of_descriptor hd).symm⟩
  have hmem := List.mem_of_find?_eq_some hf
  have hmark : f.isId = true := by simpa using List.find?_some hf
  obtain ⟨d, hd, hname, hcolumn, hdid, -, hrole⟩ := exists_descriptor ht hmem (.inl hmark)
  have hin : d ∈ t.descriptor.fields.filter (·.isId) :=
    List.mem_filter.mpr ⟨mem_descriptor_fields hmem hd, hdid.trans hmark⟩
  obtain rfl : d = id := by simpa [hid] using hin
  obtain ⟨a, ha, -⟩ := hrole (relation_of_marked hfields (mem_descriptor_fields hmem hd)
    (.inl (hdid.trans hmark)))
  exact ⟨f, a, hf, ⟨hmem, ha⟩, by simp [ofFields, hname, hcolumn]⟩

/-- The version of a mapping is the one of the type, an integral field. -/
theorem version_of_formed (ht : t.Formed) (hm : ofDescriptor schema t.descriptor = .ok m) :
    m.version = none ∧ t.versionField? = none ∨
      ∃ f a, t.versionField? = some f ∧ t.HasColumn f a ∧ a.isIntegral = true ∧
        m.version = some ⟨f.name, f.columnName⟩ := by
  obtain ⟨id, version, fields, hkeys, hfields, rfl⟩ := ofDescriptor_parts hm
  obtain ⟨-, hversion, hintegral⟩ := keyFields_parts hkeys
  cases hf : t.versionField? with
  | none =>
    refine .inl ⟨?_, rfl⟩
    cases version with
    | none => rfl
    | some v =>
      have hmem : v ∈ t.descriptor.fields.filter (·.isVersion) := by simp [hversion]
      obtain ⟨hmem, hmark⟩ := List.mem_filter.mp hmem
      obtain ⟨f, hf', hd⟩ := List.mem_filterMap.mp hmem
      have hnot := List.find?_eq_none.mp hf f hf'
      rw [← isVersion_of_descriptor hd, hmark] at hnot
      exact absurd rfl hnot
  | some f =>
    have hmem := List.mem_of_find?_eq_some hf
    have hmark : f.isVersion = true := by simpa using List.find?_some hf
    obtain ⟨d, hd, hname, hcolumn, -, hdversion, hrole⟩ := exists_descriptor ht hmem (.inr hmark)
    have hin : d ∈ t.descriptor.fields.filter (·.isVersion) :=
      List.mem_filter.mpr ⟨mem_descriptor_fields hmem hd, hdversion.trans hmark⟩
    obtain rfl : version = some d := by
      rw [hversion, Option.mem_toList] at hin
      exact hin
    obtain ⟨a, ha, hinteger⟩ := hrole (relation_of_marked hfields (mem_descriptor_fields hmem hd)
      (.inr (hdversion.trans hmark)))
    exact .inr ⟨f, a, rfl, ⟨hmem, ha⟩, hinteger ▸ hintegral d rfl,
      by simp [ofFields, hname, hcolumn]⟩

theorem valueOf?_capture (i : Instance) {f : PersistentField} (hf : f ∈ m.persistent) :
    (Snapshot.capture m i).valueOf? m f.field = some ((i.fieldValue f.field).getD .null) := by
  obtain ⟨k, hk⟩ : ∃ k, m.snapshotIndex? f.field = some k := by
    rw [← Option.isSome_iff_exists, snapshotIndex?, List.findIdx?_isSome, List.any_eq_true]
    exact ⟨f, hf, by simp⟩
  obtain ⟨hlt, hname, -⟩ := List.findIdx?_eq_some_iff_getElem.mp hk
  simp only [beq_iff_eq] at hname
  simp [Snapshot.valueOf?, hk, Snapshot.capture, List.getElem?_eq_getElem hlt, hname]

end Metadata

end EntityMapper
