import EntityMapper.Entity.Registry
import EntityMapper.Proofs.Associations
import EntityMapper.Proofs.Entity.Mapping
/-! Resolving types: mappings that were resolved once are kept, and found again. -/

namespace EntityMapper

namespace Journal

/-- Every mapping kept in the first journal is kept in the second. -/
def Grows (j k : Journal) : Prop :=
  ∀ path m, j.registry.find? path = some m → k.registry.find? path = some m

theorem Grows.refl (j : Journal) : j.Grows j := fun _ _ h => h

theorem Grows.trans {i j k : Journal} (hij : i.Grows j) (hjk : j.Grows k) : i.Grows k :=
  fun path m h => hjk path m (hij path m h)

/-- What is kept stays as it is, and the mapping is found by the path of its type. -/
theorem find?_remember (j : Journal) (m : Metadata) (path : String) :
    (j.remember m).registry.find? path =
      (j.registry.find? path).or (if m.descriptor.path == path then some m else none) :=
  j.registry.find?_insertNew m.descriptor.path path m

/-- What resolving a type can come to: a mapping is kept for its path already, or it gets one
now, or its descriptor is no mapping. -/
inductive Resolution (schema : Schema) (d : EntityDescriptor) (j : Journal) :
    Except Error Metadata → Journal → Prop
  | kept {m : Metadata} (hfind : j.registry.find? d.path = some m) : Resolution schema d j (.ok m) j
  | made {m : Metadata} (hfind : j.registry.find? d.path = none)
      (hm : Metadata.ofDescriptor schema d = .ok m) : Resolution schema d j (.ok m) (j.remember m)
  | refused {e : Error} (hfind : j.registry.find? d.path = none)
      (he : Metadata.ofDescriptor schema d = .error e) : Resolution schema d j (.error e) j

variable (schema : Schema) (d : EntityDescriptor) (j : Journal)

theorem resolution : Resolution schema d j (resolve schema d j).1 (resolve schema d j).2 := by
  unfold resolve
  cases hfind : j.registry.find? d.path with
  | some m => exact .kept hfind
  | none =>
    cases hm : Metadata.ofDescriptor schema d with
    | ok m => exact .made hfind hm
    | error e => exact .refused hfind hm

/-- What is kept afterwards was kept before, or it is the mapping that the type has resolved to. -/
theorem find?_resolve_iff {path : String} {m : Metadata} :
    (resolve schema d j).2.registry.find? path = some m ↔
      j.registry.find? path = some m ∨ d.path = path ∧ (resolve schema d j).1 = .ok m := by
  have h := resolution schema d j
  generalize (resolve schema d j).1 = r, (resolve schema d j).2 = k at h ⊢
  cases h with
  | kept hfind =>
    refine ⟨.inl, ?_⟩
    rintro (hm | ⟨rfl, hm⟩)
    · exact hm
    · rwa [← Except.ok.inj hm]
  | made hfind hm =>
    rw [find?_remember, Metadata.descriptor_of_ofDescriptor hm, Option.or_eq_some_iff]
    refine or_congr_right ⟨?_, ?_⟩
    · rintro ⟨-, hnew⟩
      split at hnew <;> cases hnew
      exact ⟨eq_of_beq ‹_›, rfl⟩
    · rintro ⟨rfl, hsame⟩
      exact ⟨hfind, by rw [beq_self_eq_true, if_pos rfl, Except.ok.inj hsame]⟩
  | refused hfind he => simp

theorem resolve_grows : j.Grows (resolve schema d j).2 :=
  fun _ _ h => (find?_resolve_iff schema d j).mpr (.inl h)

theorem distinct_resolve (h : j.registry.Distinct) :
    (resolve schema d j).2.registry.Distinct := by
  have hr := resolution schema d j
  generalize (resolve schema d j).1 = r, (resolve schema d j).2 = k at hr ⊢
  cases hr with
  | kept _ => exact h
  | made _ _ => exact Assoc.distinct_insertNew h _ _
  | refused _ _ => exact h

variable {schema d j} {m : Metadata}

theorem resolve_of_find? (h : j.registry.find? d.path = some m) :
    resolve schema d j = (.ok m, j) := by
  simp [resolve, h]

theorem find?_resolve {k : Journal} (h : resolve schema d j = (.ok m, k)) :
    k.registry.find? d.path = some m := by
  have hfound := (find?_resolve_iff schema d j).mpr (.inr ⟨rfl, congrArg Prod.fst h⟩)
  rwa [h] at hfound

/-- A type resolves to what its descriptor says if nothing else is kept for its path. -/
theorem resolve_of_kept (h : ∀ m, j.registry.find? d.path = some m →
    Metadata.ofDescriptor schema d = .ok m) :
    (resolve schema d j).1 = Metadata.ofDescriptor schema d := by
  have hr := resolution schema d j
  generalize (resolve schema d j).1 = r, (resolve schema d j).2 = k at hr ⊢
  cases hr with
  | kept hfind => exact (h _ hfind).symm
  | made _ hm => exact hm.symm
  | refused _ he => exact he.symm

end Journal

end EntityMapper
