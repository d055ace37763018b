import EntityMapper.Proofs.Computation
import EntityMapper.Proofs.Entity.Resolution
import EntityMapper.Value.Show
/-! Names without question marks: descriptors, the mappings made of them, and the mappings kept. -/

namespace EntityMapper

namespace Text

def Unmarked (t : List Char) : Prop :=
  '?' ∉ t

instance (t : List Char) : Decidable (Unmarked t) :=
  inferInstanceAs (Decidable ('?' ∉ t))

@[simp] theorem unmarked_nil : Unmarked [] := by
  simp [Unmarked]

@[simp] theorem unmarked_cons {c : Char} {t : List Char} :
    Unmarked (c :: t) ↔ c ≠ '?' ∧ Unmarked t := by
  simp [Unmarked, eq_comm]

@[simp] theorem unmarked_append {a b : List Char} :
    Unmarked (a ++ b) ↔ Unmarked a ∧ Unmarked b := by
  simp [Unmarked]

theorem eq_of_toLower {c d : Char} (h : c.toLower = d) (hd : d.isLower = false) : c = d := by
  unfold Char.toLower at h
  split at h
  · rename_i hc
    obtain ⟨h1, h2⟩ := hc
    subst h
    change (decide (_ ≥ 'a'.val) && decide (_ ≤ 'z'.val)) = false at hd
    simp only [ge_iff_le, UInt32.le_iff_toNat_le] at h1 h2
    simp [UInt32.le_iff_toNat_le, UInt32.toNat_add] at hd h1 h2
    omega
  · exact h

/-- What is no letter cannot hide in another case. -/
theorem not_mem_of_alike {a b : List Char} {d : Char} (hd : d.isLower = false)
    (hsame : d.toLower = d) (ha : d ∉ a) (h : alike a b = true) : d ∉ b := by
  intro hb
  have hmem : d ∈ a.map Char.toLower := by
    rw [show a.map Char.toLower = b.map Char.toLower by simpa [alike] using h]
    exact List.mem_map.mpr ⟨d, hb, hsame⟩
  obtain ⟨c, hc, hl⟩ := List.mem_map.mp hmem
  exact ha (eq_of_toLower hl hd ▸ hc)

theorem Unmarked.of_alike {a b : List Char} (ha : Unmarked a) (h : alike a b = true) :
    Unmarked b :=
  not_mem_of_alike (by decide) (by decide) ha h

theorem unmarked_showNat (n : Nat) : Unmarked (showNat n).toList := by
  intro h
  rw [showNat, String.toList_ofList] at h
  have hd := Nat.isDigit_of_mem_toDigits (by decide) (by decide) h
  revert hd
  decide

end Text

open Text

/-- No name that the descriptor gives has a question mark. -/
structure EntityDescriptor.Unmarked (d : EntityDescriptor) : Prop where
  name : Text.Unmarked d.name.toList
  table : Text.Unmarked d.tableName.toList
  fields : ∀ f ∈ d.fields, Text.Unmarked f.name.toList ∧ Text.Unmarked f.columnName.toList
  joinColumns : ∀ f ∈ d.fields, ∀ c ∈ f.joinColumn, Text.Unmarked c.toList

/-- No name of the column has a question mark. -/
def ColumnMapping.Unmarked (c : ColumnMapping) : Prop :=
  Text.Unmarked c.field.toList ∧ Text.Unmarked c.column.toList

/-- No name of the reference or of its target has a question mark. -/
def ReferenceMapping.Unmarked (r : ReferenceMapping) : Prop :=
  Text.Unmarked r.field.toList ∧ Text.Unmarked r.joinColumn.toList ∧ r.target.Unmarked

/-- No name that queries are compiled with has a question mark. -/
structure Metadata.Unmarked (m : Metadata) : Prop where
  name : Text.Unmarked m.name.toList
  table : Text.Unmarked m.table.toList
  id : m.id.Unmarked
  columns : ∀ c ∈ m.columns, c.Unmarked
  references : ∀ r ∈ m.references, r.Unmarked

variable {schema : Schema} {d : EntityDescriptor}

/-- The mapping of a descriptor has no names of its own. -/
theorem Metadata.unmarked_of_ofDescriptor (hs : ∀ e ∈ schema, e.Unmarked) (hd : d.Unmarked)
    {m : Metadata} (h : Metadata.ofDescriptor schema d = .ok m) : m.Unmarked := by
  obtain ⟨id, version, fields, hid, hfields, rfl⟩ := ofDescriptor_parts h
  refine ⟨hd.name, hd.table, hd.fields id (mem_of_keyFields hid), fun c hc => ?_, fun r hr => ?_⟩
  · simp only [ofFields, mem_sortByName, List.mem_filterMap] at hc
    obtain ⟨x, hx, hxc⟩ := hc
    obtain ⟨f, hf, hfx⟩ := mem_of_mapM hfields x hx
    obtain ⟨-, -, rfl⟩ | ⟨kind, target, -, -, ⟨join, -, -, rfl⟩ | ⟨owner, -, -, -, rfl⟩⟩ :=
      mapField_forms hfx
    · cases hxc
      exact hd.fields f hf
    · cases hxc
    · cases hxc
  · simp only [ofFields, List.mem_filterMap] at hr
    obtain ⟨x, hx, hxr⟩ := hr
    obtain ⟨f, hf, hfx⟩ := mem_of_mapM hfields x hx
    obtain ⟨-, -, rfl⟩ | ⟨kind, target, -, ht, ⟨join, -, hj, rfl⟩ | ⟨owner, -, -, -, rfl⟩⟩ :=
      mapField_forms hfx
    · cases hxr
    · cases hxr
      obtain ⟨i, -, hi⟩ := Option.bind_eq_some_iff.mp ht
      exact ⟨(hd.fields f hf).1, hd.joinColumns f hf join hj,
        hs target (List.mem_of_getElem? hi)⟩
    · cases hxr

namespace Journal

/-- No mapping that is kept has a question mark in its names. -/
def Unmarked (j : Journal) : Prop :=
  ∀ path m, j.registry.find? path = some m → m.Unmarked

theorem unmarked_empty : Unmarked {} := by
  intro path m h
  cases h

theorem Unmarked.remember {j : Journal} (hj : j.Unmarked) {m : Metadata} (hm : m.Unmarked) :
    (j.remember m).Unmarked := by
  intro path n h
  rw [find?_remember, Option.or_eq_some_iff] at h
  rcases h with h | ⟨-, h⟩
  · exact hj path n h
  · split at h <;> cases h
    exact hm

/-- Resolving a type gives a mapping without question marks and keeps none with one. -/
theorem meets_resolve (hs : ∀ e ∈ schema, e.Unmarked) (hd : d.Unmarked) :
    Meets Unmarked (resolve schema d) (fun m j => m.Unmarked ∧ j.Unmarked) Unmarked := by
  intro j hj
  have hr := resolution schema d j
  generalize resolve schema d j = answer at hr ⊢
  obtain ⟨r, k⟩ := answer
  cases hr with
  | kept hfind => exact ⟨hj d.path _ hfind, hj⟩
  | made _ hm =>
    have hu := Metadata.unmarked_of_ofDescriptor hs hd hm
    exact ⟨hu, hj.remember hu⟩
  | refused => exact hj

end Journal

end EntityMapper
