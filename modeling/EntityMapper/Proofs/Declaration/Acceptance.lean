import EntityMapper.Declaration.Attribute
import EntityMapper.Declaration.Check
import EntityMapper.Proofs.Entity.Validity
/-! Acceptance: a declaration without problems keeps every rule for descriptors that does not depend
on the fields of another type. -/

namespace EntityMapper

namespace DeclaredField

/-- What is known of a field without problems. -/
structure Checked (f : DeclaredField) : Prop where
  integral : f.role = .column → f.isVersion = true → f.isIntegral = true
  unkeyed : f.role ≠ .column → f.isId = false ∧ f.isVersion = false
  joined : f.joinColumn.isSome = f.role.isOwning
  targeted : f.role.isRelation = true → f.target?.isSome

/-- Every type that the field refers to is in the schema. -/
def Located (schema : Schema) (locate : String → Option Nat) (f : DeclaredField) : Prop :=
  ∀ t ∈ f.target?, ((locate (Lexeme.joined t)).bind fun i => schema[i]?).isSome

@[simp] theorem problemIf_eq_nil_iff {b : Bool} {p : DeclarationProblem} :
    problemIf b p = [] ↔ b = false := by
  cases b <;> simp [problemIf]

variable {schema : Schema} {locate : String → Option Nat} {f : DeclaredField}

theorem checked_of_problems (h : f.problems = []) : f.Checked := by
  simp only [problems, List.append_eq_nil_iff, problemIf_eq_nil_iff] at h
  obtain ⟨⟨⟨⟨⟨⟨⟨hversion, -⟩, hkey⟩, -⟩, hstray⟩, hjoin⟩, -⟩, htarget⟩ := h
  refine ⟨fun hr hv => ?_, fun hr => ?_, ?_, fun hr => ?_⟩
  · simpa [hr, hv] using hversion
  · simpa [hr] using hkey
  · cases ho : f.role.isOwning
    · simpa [ho] using hstray
    · simpa [ho] using hjoin
  · simpa [hr] using htarget

theorem isRelation_eq : f.role.isRelation = f.relation?.isSome := by
  unfold relation?
  cases f.role <;> rfl

theorem isOwning_eq : f.role.isOwning = f.relation?.any (·.isOwning) := by
  unfold relation?
  cases f.role <;> rfl

theorem role_ne_column (h : f.relation?.isSome) : f.role ≠ .column := by
  intro hr
  rw [relation?, hr] at h
  cases h

/-- A checked field has the relation of its role, as its type has a target. -/
theorem relation_descriptor (h : f.Checked) : (f.descriptor locate).relation = f.relation? := by
  change (if f.target?.isSome then f.relation? else none) = f.relation?
  cases hr : f.relation? with
  | none => exact ite_self none
  | some kind => exact if_pos (h.targeted (by rw [isRelation_eq, hr]; rfl))

/-- The descriptor of a checked field keeps the rules for a field. -/
theorem proper_descriptor (h : f.Checked) (hl : f.Located schema locate) :
    (f.descriptor locate).Proper schema := by
  have hrelation : (f.descriptor locate).relation = f.relation? := relation_descriptor h
  have hjoined : f.joinColumn.isSome = f.relation?.any (·.isOwning) := by
    rw [h.joined, isOwning_eq]
  refine ⟨fun hr => ?_, fun hr => ?_, fun hr => ?_, fun kind hr ho => ?_, fun kind hr ho => ?_⟩
  all_goals rw [hrelation] at hr
  · rw [hr] at hjoined
    exact Option.isNone_iff_eq_none.mp (Option.isSome_eq_false_iff.mp hjoined)
  · exact h.unkeyed (role_ne_column hr)
  · obtain ⟨t, ht⟩ := Option.isSome_iff_exists.mp (h.targeted (isRelation_eq.trans hr))
    have htarget := hl t ht
    simpa [FieldDescriptor.target?, descriptor, ht] using htarget
  · rw [hr] at hjoined
    exact hjoined.trans ho
  · rw [hr] at hjoined
    exact Option.isNone_iff_eq_none.mp (Option.isSome_eq_false_iff.mp (hjoined.trans ho))

/-- The collections among the descriptors are those of the fields declared as such. -/
theorem role_of_descriptor {kind : RelationKind} (h : f.Checked)
    (hr : (f.descriptor locate).relation = some kind) (ho : kind.isOwning = false) :
    f.role = .oneToMany := by
  rw [relation_descriptor h] at hr
  have howning : f.role.isOwning = false := by
    rw [isOwning_eq, hr]
    exact ho
  cases hrole : f.role with
  | oneToMany => rfl
  | manyToOne => simp [hrole, DeclaredRole.isOwning] at howning
  | oneToOne => simp [hrole, DeclaredRole.isOwning] at howning
  | column => simp [relation?, hrole] at hr
  | transient => simp [relation?, hrole] at hr

end DeclaredField

namespace DeclaredEntity

variable {e : DeclaredEntity} {path : String} {schema : Schema} {locate : String → Option Nat}

/-- What is known of an entity without problems. -/
structure Checked (e : DeclaredEntity) : Prop where
  identifier : (e.fields.filter (·.isId)).length = 1
  version : (e.fields.filter (·.isVersion)).length ≤ 1
  fields : ∀ f ∈ e.fields, f.Checked

theorem checked_of_problems (h : e.problems = []) : e.Checked := by
  simp only [problems, List.append_eq_nil_iff, List.flatMap_eq_nil_iff] at h
  obtain ⟨⟨⟨-, hid⟩, hversion⟩, hfields⟩ := h
  refine ⟨?_, ?_, fun f hf => DeclaredField.checked_of_problems (hfields f hf)⟩
  · unfold identifierProblems at hid
    split at hid
    · cases hid
    · rename_i id rest hids
      rw [hids, List.map_eq_nil_iff.mp hid]
      rfl
  · exact List.drop_eq_nil_iff.mp (List.map_eq_nil_iff.mp hversion)

/-- A mark that only columns have selects the same fields in the descriptor. -/
theorem filter_descriptor {declared : DeclaredField → Bool} {described : FieldDescriptor → Bool}
    (hsame : ∀ f, described (DeclaredField.descriptor locate f) = declared f)
    (hcolumn : ∀ f ∈ e.fields, declared f = true → f.role = .column) :
    (e.descriptor path locate).fields.filter described =
      (e.fields.filter declared).map (DeclaredField.descriptor locate) := by
  have hcomp : described ∘ DeclaredField.descriptor locate = declared := funext hsame
  rw [descriptor, List.filter_map, hcomp, List.filter_filter]
  congr 1
  refine List.filter_congr fun f hf => ?_
  cases hd : declared f
  · rfl
  · rw [hcolumn f hf hd]
    rfl

/-- The descriptor of a checked entity keeps the rules for the type as a whole. -/
theorem keyed_descriptor (h : e.Checked) : (e.descriptor path locate).Keyed := by
  have hcolumn f (hf : f ∈ e.fields) (hkey : f.isId = true ∨ f.isVersion = true) :
      f.role = .column := by
    by_contra hr
    obtain ⟨hid, hversion⟩ := (h.fields f hf).unkeyed hr
    simp [hid, hversion] at hkey
  refine ⟨rfl, ?_, ?_, fun g hg hmark => ?_⟩
  · rw [filter_descriptor (fun _ => rfl) fun f hf hid => hcolumn f hf (.inl hid), List.length_map]
    exact h.identifier
  · rw [filter_descriptor (fun _ => rfl) fun f hf hv => hcolumn f hf (.inr hv), List.length_map]
    exact h.version
  · obtain ⟨f, hf, rfl⟩ := List.mem_map.mp hg
    have hf := (List.mem_filter.mp hf).1
    have hr := hcolumn f hf (.inr hmark)
    have hintegral := (h.fields f hf).integral hr hmark
    simp [DeclaredField.descriptor, hr, hintegral]

/-- Every type that a field refers to is in the schema. -/
def Located (schema : Schema) (locate : String → Option Nat) (e : DeclaredEntity) : Prop :=
  ∀ f ∈ e.fields, f.Located schema locate

end DeclaredEntity

namespace TypeDefinition

variable {d : TypeDefinition}

theorem name_of_declare {e : DeclaredEntity} (h : d.declare = .ok e) : e.name = d.name := by
  unfold declare at h
  cases hfields : d.declareFields with
  | error fault => simp [hfields, bind, Except.bind] at h
  | ok fields =>
    cases htable : d.attributes.foldlM (fun table group => group.foldlM applyTable table) none with
    | error fault => simp [hfields, htable, bind, Except.bind] at h
    | ok table =>
      simp only [hfields, htable, bind, Except.bind, pure, Except.pure, Except.ok.injEq] at h
      rw [← h]

/-- What a definition without problems declares can only be rejected because no field of another
type owns a collection: it is not there, it does not refer back, or there are several. -/
theorem rejected_only_for_owners {e : DeclaredEntity} (hd : d.declare = .ok e)
    (he : e.problems = []) {schema : Schema} {locate : String → Option Nat}
    (hl : e.Located schema locate) (path : String) {error : Error}
    (h : Metadata.ofDescriptor schema (e.descriptor path locate) = .error error) :
    ∃ f ∈ e.fields, f.role = .oneToMany ∧ ∃ target fault,
      (f.descriptor locate).target? schema = some target ∧
      (f.descriptor locate).Unowned schema (e.descriptor path locate) target fault ∧
      error = .mapping d.name fault.message := by
  have hchecked := DeclaredEntity.checked_of_problems he
  have hdeclared g (hg : g ∈ (e.descriptor path locate).fields) :
      ∃ f ∈ e.fields, f.descriptor locate = g := by
    obtain ⟨f, hf, hfg⟩ := List.mem_map.mp hg
    exact ⟨f, (List.mem_filter.mp hf).1, hfg⟩
  have hproper g (hg : g ∈ (e.descriptor path locate).fields) : g.Proper schema := by
    obtain ⟨f, hf, rfl⟩ := hdeclared g hg
    exact DeclaredField.proper_descriptor (hchecked.fields f hf) (hl f hf)
  obtain ⟨g, hg, kind, target, fault, hr, ho, ht, hunowned, herror⟩ :=
    Metadata.unowned_of_error (DeclaredEntity.keyed_descriptor hchecked) hproper h
  obtain ⟨f, hf, rfl⟩ := hdeclared g hg
  refine ⟨f, hf, DeclaredField.role_of_descriptor (hchecked.fields f hf) hr ho, target, fault, ht,
    hunowned, ?_⟩
  rw [herror, ← name_of_declare hd]
  rfl

end TypeDefinition

namespace SampleWheel

/-- A hub has all spokes, but a spoke refers to two hubs. -/
def hub : TypeDefinition where
  name := "Hub"
  fields := [
    { name := "id", type := Lexeme.ofText "i64".toList, attributes := [[{ name := "id" }]] },
    { name := "spokes", type := Lexeme.ofText "LazyList<Spoke>".toList
      attributes := [[{ name := "one_to_many" }]] }]

def schema : Schema := [
  { path := "wheel::Hub", name := "Hub", fields := [
    { name := "id", isId := true, integral := true }] },
  { path := "wheel::Spoke", name := "Spoke", fields := [
    { name := "id", isId := true, integral := true },
    { name := "inner", relation := some .manyToOne, joinColumn := some "inner_id",
      target := some 0 },
    { name := "outer", relation := some .manyToOne, joinColumn := some "outer_id",
      target := some 0 }] }]

def locate (name : String) : Option Nat :=
  ["Hub", "Spoke"].idxOf? name

/-- The definition of a hub has no problems, but it has no mapping, as a spoke refers to it twice. -/
theorem rejected_only_for_owners_hub : ∃ e error, hub.declare = .ok e ∧ e.problems = [] ∧
    e.Located schema locate ∧
    Metadata.ofDescriptor schema (e.descriptor "wheel::Hub" locate) = .error error ∧
    ∃ f ∈ e.fields, f.role = .oneToMany ∧ ∃ target fault,
      (f.descriptor locate).target? schema = some target ∧
      (f.descriptor locate).Unowned schema (e.descriptor "wheel::Hub" locate) target fault ∧
      error = .mapping hub.name fault.message := by
  let e : DeclaredEntity := ⟨"Hub", none, [
    { name := "id", type := Lexeme.ofText "i64".toList, isId := true },
    { name := "spokes", type := Lexeme.ofText "LazyList<Spoke>".toList, role := .oneToMany }],
    false⟩
  have hd : hub.declare = .ok e := by decide +kernel
  have he : e.problems = [] := by decide +kernel
  have hl : e.Located schema locate := by
    unfold DeclaredEntity.Located DeclaredField.Located
    decide +kernel
  have hrejected :
      (Metadata.ofDescriptor schema (e.descriptor "wheel::Hub" locate)).isOk = false := by
    decide +kernel
  cases h : Metadata.ofDescriptor schema (e.descriptor "wheel::Hub" locate) with
  | ok m =>
    rw [h] at hrejected
    cases hrejected
  | error error =>
    exact ⟨e, error, hd, he, hl, h, TypeDefinition.rejected_only_for_owners hd he hl _ h⟩

end SampleWheel

end EntityMapper
