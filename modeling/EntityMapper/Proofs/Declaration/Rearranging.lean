import EntityMapper.Declaration.Attribute
import EntityMapper.Declaration.Check
import EntityMapper.Proofs.Computation
import EntityMapper.Proofs.Declaration.Acceptance
import Mathlib.Data.List.Induction
/-! Rearranged attributes: neither the groups nor the order of the items of a field say anything of
the field, apart from which one of several different roles comes last. -/

namespace EntityMapper

namespace AttributeItem

/-- The names that take no value. -/
def bareNames : List String :=
  ["id", "version", "transient", "many_to_one", "one_to_one", "one_to_many"]

/-- The names that take a text. -/
def textNames : List String :=
  ["column", "join_column", "mapped_by"]

/-- The item has a known name, and a text exactly if the name takes one. -/
def WellFormed : AttributeItem → Prop
  | ⟨name, .absent⟩ => name ∈ bareNames
  | ⟨name, .text _⟩ => name ∈ textNames
  | ⟨_, .other⟩ => False

instance : DecidablePred WellFormed
  | ⟨name, .absent⟩ => inferInstanceAs (Decidable (name ∈ bareNames))
  | ⟨name, .text _⟩ => inferInstanceAs (Decidable (name ∈ textNames))
  | ⟨_, .other⟩ => inferInstanceAs (Decidable False)

def role? (i : AttributeItem) : Option DeclaredRole :=
  match i.name with
  | "transient" => some .transient
  | "many_to_one" => some .manyToOne
  | "one_to_one" => some .oneToOne
  | "one_to_many" => some .oneToMany
  | _ => none

/-- The text that the item gives for a name. -/
def textFor? (name : String) (i : AttributeItem) : Option String :=
  if i.name = name then
    match i.value with
    | .text s => some s
    | _ => none
  else none

theorem ne_column_of_role {i : AttributeItem} {r : DeclaredRole} (h : i.role? = some r) :
    r ≠ .column := by
  unfold role? at h
  split at h <;> cases h <;> decide

/-- The items for each name that takes a text give at most one. -/
def Distinct (items : List AttributeItem) : Prop :=
  ∀ name ∈ textNames, (items.map (·.name)).count name ≤ 1

instance (items : List AttributeItem) : Decidable (Distinct items) :=
  inferInstanceAs (Decidable (∀ name ∈ textNames, (items.map (·.name)).count name ≤ 1))

def roles (items : List AttributeItem) : List DeclaredRole :=
  items.filterMap role?

@[simp] theorem roles_concat (items : List AttributeItem) (i : AttributeItem) :
    roles (items ++ [i]) = roles items ++ i.role?.toList := by
  cases hi : i.role? <;> simp [roles, hi]

/-- Two different roles are among the items. -/
def DifferInRole (items : List AttributeItem) : Prop :=
  ∃ r ∈ roles items, ∃ s ∈ roles items, r ≠ s

instance (items : List AttributeItem) : Decidable (DifferInRole items) :=
  inferInstanceAs (Decidable (∃ r ∈ roles items, ∃ s ∈ roles items, r ≠ s))

/-- A name that gives one text at most gives the same one in any order. -/
theorem filterMap_textFor_of_perm {items items' : List AttributeItem} {name : String}
    (hname : name ∈ textNames) (hd : Distinct items) (h : items.Perm items') :
    items.filterMap (textFor? name) = items'.filterMap (textFor? name) := by
  have hone : (items.filterMap (textFor? name)).length ≤ 1 := by
    refine Nat.le_trans ?_ (hd name hname)
    rw [List.length_filterMap_eq_countP, List.count, List.countP_map]
    refine List.countP_mono_left fun i _ hi => ?_
    by_contra hne
    have hne : i.name ≠ name := by simpa using hne
    simp [textFor?, hne] at hi
  have hperm := h.filterMap (textFor? name)
  rcases hl : items.filterMap (textFor? name) with _ | ⟨s, _ | ⟨t, rest⟩⟩
  · exact (hl ▸ hperm).nil_eq
  · exact List.singleton_perm.mp (hl ▸ hperm)
  · rw [hl] at hone
    simp at hone

end AttributeItem

namespace DeclaredField

open AttributeItem

/-- The field with what a well-formed item says of it. -/
def marked (f : DeclaredField) (i : AttributeItem) : DeclaredField :=
  { f with
    role := i.role?.getD f.role
    conflict := f.conflict || i.role?.any fun r => f.role != .column && f.role != r
    isId := f.isId || i.name == "id"
    isVersion := f.isVersion || i.name == "version"
    column := (i.textFor? "column").or f.column
    joinColumn := (i.textFor? "join_column").or f.joinColumn
    mappedBy := (i.textFor? "mapped_by").or f.mappedBy }

variable {f : DeclaredField} {i : AttributeItem} {items items' : List AttributeItem}

theorem apply_eq_marked (h : i.WellFormed) : f.apply i = .ok (f.marked i) := by
  obtain ⟨name, value⟩ := i
  cases value with
  | absent =>
    simp only [WellFormed, bareNames, List.mem_cons, List.not_mem_nil, or_false] at h
    obtain rfl | rfl | rfl | rfl | rfl | rfl := h <;>
      simp [apply, bare, marked, setRole, role?, textFor?]
  | text s =>
    simp only [WellFormed, textNames, List.mem_cons, List.not_mem_nil, or_false] at h
    obtain rfl | rfl | rfl := h <;>
      simp [apply, requireText, marked, role?, textFor?, Except.map]
  | other => cases h

theorem foldlM_apply (h : ∀ i ∈ items, i.WellFormed) :
    items.foldlM apply f = .ok (items.foldl marked f) := by
  induction items generalizing f with
  | nil => rfl
  | cons i items ih =>
    obtain ⟨hi, hitems⟩ := List.forall_mem_cons.mp h
    rw [List.foldlM_cons, apply_eq_marked hi]
    exact ih hitems

section Projections

/-- A mark is there if it was there before or an item sets it. -/
theorem flag_foldl_marked {get : DeclaredField → Bool} {p : AttributeItem → Bool}
    (hget : ∀ f i, get (f.marked i) = (get f || p i)) :
    get (items.foldl marked f) = (get f || items.any p) := by
  induction items generalizing f with
  | nil => simp
  | cons i items ih => rw [List.foldl_cons, ih, hget, List.any_cons, Bool.or_assoc]

/-- The last text that is given stays. -/
theorem text_foldl_marked {get : DeclaredField → Option String} {name : String}
    (hget : ∀ f (i : AttributeItem), get (marked f i) = (i.textFor? name).or (get f)) :
    get (items.foldl marked f) = (items.filterMap (textFor? name)).getLast?.or (get f) := by
  induction items generalizing f with
  | nil => rfl
  | cons i items ih =>
    rw [List.foldl_cons, ih, hget]
    cases hi : i.textFor? name with
    | none => rw [List.filterMap_cons_none hi, Option.none_or]
    | some s =>
      rw [List.filterMap_cons_some hi, List.getLast?_cons]
      cases (items.filterMap (textFor? name)).getLast? <;> rfl

theorem fixed_foldl_marked {α : Type} {get : DeclaredField → α}
    (hget : ∀ f i, get (f.marked i) = get f) : get (items.foldl marked f) = get f := by
  induction items generalizing f with
  | nil => rfl
  | cons i items ih => rw [List.foldl_cons, ih, hget]

theorem role_foldl_marked :
    (items.foldl marked f).role = (roles items).getLast?.getD f.role := by
  induction items generalizing f with
  | nil => rfl
  | cons i items ih =>
    rw [List.foldl_cons, ih, roles, roles]
    cases hi : i.role? with
    | none => simp [List.filterMap_cons_none hi, marked, hi]
    | some r => simp [List.filterMap_cons_some hi, marked, hi, List.getLast?_cons]

end Projections

/-- A further role differs from one of those before it if it differs from the last one, or if they
differ among themselves. -/
theorem differInRole_concat {r s : DeclaredRole} (hi : i.role? = some r)
    (hs : (roles items).getLast? = some s) :
    DifferInRole (items ++ [i]) ↔ DifferInRole items ∨ s ≠ r := by
  have hmem := List.mem_of_getLast? hs
  simp only [DifferInRole, roles_concat, hi, Option.toList_some, List.mem_append,
    List.mem_singleton]
  constructor
  · rintro ⟨a, ha, b, hb, hab⟩
    by_contra hsame
    simp only [not_or, not_exists, not_and, not_not] at hsame
    obtain ⟨hsame, rfl⟩ := hsame
    have heq c (hc : c ∈ roles items ∨ c = s) : c = s :=
      hc.elim (fun hc => hsame c hc s hmem) id
    exact hab ((heq a ha).trans (heq b hb).symm)
  · rintro (⟨a, ha, b, hb, hab⟩ | hne)
    · exact ⟨a, .inl ha, b, .inl hb, hab⟩
    · exact ⟨s, .inl hmem, r, .inr rfl, hne⟩

/-- Comparing each role with the last one before it finds any two that differ. -/
theorem conflict_foldl_marked (hr : f.role = .column) (hc : f.conflict = false) :
    (items.foldl marked f).conflict = true ↔ DifferInRole items := by
  induction items using List.reverseRecOn with
  | nil => simp [hc, DifferInRole, roles]
  | append_singleton items i ih =>
    rw [List.foldl_concat]
    have hrole : (items.foldl marked f).role = (roles items).getLast?.getD f.role :=
      role_foldl_marked
    cases hi : i.role? with
    | none => simp [marked, hi, ih, DifferInRole]
    | some r =>
      cases hs : (roles items).getLast? with
      | none =>
        have hnone : roles items = [] := List.getLast?_eq_none_iff.mp hs
        rw [hs, Option.getD_none, hr] at hrole
        simp [marked, hi, ih, hrole, DifferInRole, hnone]
      | some s =>
        obtain ⟨j, -, hj⟩ := List.mem_filterMap.mp (List.mem_of_getLast? hs)
        rw [hs, Option.getD_some] at hrole
        rw [differInRole_concat hi hs, ← ih]
        simp [marked, hi, hrole, ne_column_of_role hj]

/-- Two fields with the same marks and names, and with one role unless it is in conflict. -/
structure Alike (f g : DeclaredField) : Prop where
  name : f.name = g.name
  type : f.type = g.type
  isId : f.isId = g.isId
  isVersion : f.isVersion = g.isVersion
  column : f.column = g.column
  joinColumn : f.joinColumn = g.joinColumn
  mappedBy : f.mappedBy = g.mappedBy
  conflict : f.conflict = g.conflict
  role : f.conflict = false → f.role = g.role

theorem Alike.refl (f : DeclaredField) : f.Alike f :=
  ⟨rfl, rfl, rfl, rfl, rfl, rfl, rfl, rfl, fun _ => rfl⟩

/-- Items that repeat no text say the same in any order. -/
theorem alike_foldl_marked (hr : f.role = .column) (hc : f.conflict = false)
    (hd : Distinct items) (h : items.Perm items') :
    (items.foldl marked f).Alike (items'.foldl marked f) := by
  have hroles : (roles items).Perm (roles items') := h.filterMap role?
  have hconflict : (items.foldl marked f).conflict = (items'.foldl marked f).conflict := by
    rw [Bool.eq_iff_iff, conflict_foldl_marked hr hc, conflict_foldl_marked hr hc]
    simp only [DifferInRole, hroles.mem_iff]
  have hflag {get : DeclaredField → Bool} (p : AttributeItem → Bool)
      (hget : ∀ f i, get (f.marked i) = (get f || p i)) :
      get (items.foldl marked f) = get (items'.foldl marked f) := by
    rw [flag_foldl_marked hget, flag_foldl_marked hget, h.any_eq]
  have htext {get : DeclaredField → Option String} (name : String) (hname : name ∈ textNames)
      (hget : ∀ f (i : AttributeItem), get (marked f i) = (i.textFor? name).or (get f)) :
      get (items.foldl marked f) = get (items'.foldl marked f) := by
    rw [text_foldl_marked hget, text_foldl_marked hget, filterMap_textFor_of_perm hname hd h]
  have hfixed {α : Type} {get : DeclaredField → α} (hget : ∀ f i, get (f.marked i) = get f) :
      get (items.foldl marked f) = get (items'.foldl marked f) := by
    rw [fixed_foldl_marked hget, fixed_foldl_marked hget]
  refine ⟨hfixed fun _ _ => rfl, hfixed fun _ _ => rfl, hflag (·.name == "id") fun _ _ => rfl,
    hflag (·.name == "version") fun _ _ => rfl, htext "column" (by decide) fun _ _ => rfl,
    htext "join_column" (by decide) fun _ _ => rfl, htext "mapped_by" (by decide) fun _ _ => rfl,
    hconflict, fun hsame => ?_⟩
  have hsame : ¬DifferInRole items := by
    rw [← conflict_foldl_marked hr hc, hsame]
    exact Bool.false_ne_true
  rw [role_foldl_marked, role_foldl_marked]
  cases hlast : (roles items).getLast? with
  | none =>
    rw [List.getLast?_eq_none_iff.mp hlast] at hroles
    rw [← hroles.nil_eq]
    rfl
  | some r =>
    cases hlast' : (roles items').getLast? with
    | none =>
      rw [List.getLast?_eq_none_iff.mp hlast'] at hroles
      rw [hroles.eq_nil] at hlast
      cases hlast
    | some s =>
      by_contra hne
      exact hsame ⟨r, List.mem_of_getLast? hlast, s,
        hroles.mem_iff.mpr (List.mem_of_getLast? hlast'), hne⟩

/-- Fields that are alike are both without problems, or neither is. -/
theorem Alike.problems_iff {g : DeclaredField} (h : f.Alike g) :
    f.problems = [] ↔ g.problems = [] := by
  cases hc : f.conflict with
  | true =>
    have hc' : g.conflict = true := h.conflict ▸ hc
    simp [problems, hc, hc']
  | false =>
    have hfg : f = g := by
      obtain ⟨⟩ := f
      obtain ⟨⟩ := g
      obtain ⟨h₁, h₂, h₃, h₄, h₅, h₆, h₇, h₈, h₉⟩ := h
      simp_all
    rw [hfg]

end DeclaredField

namespace FieldDefinition

def items (d : FieldDefinition) : List AttributeItem :=
  d.attributes.flatten

/-- The same items in the same order, whatever the groups. -/
structure Regrouped (d d' : FieldDefinition) : Prop where
  name : d.name = d'.name
  type : d.type = d'.type
  items : d.items = d'.items

/-- The same items in any order, whatever the groups. -/
structure Reordered (d d' : FieldDefinition) : Prop where
  name : d.name = d'.name
  type : d.type = d'.type
  items : d.items.Perm d'.items

/-- All items are well-formed, and no name that takes a text is repeated. -/
structure Orderly (d : FieldDefinition) : Prop where
  wellFormed : ∀ i ∈ d.items, i.WellFormed
  distinct : AttributeItem.Distinct d.items

/-- The same items, in another order only if they are orderly. -/
def Rearranged (d d' : FieldDefinition) : Prop :=
  d.Regrouped d' ∨ (d.Orderly ∧ d.Reordered d')

end FieldDefinition

/-- A pass over groups is a pass over what they hold. -/
theorem foldlM_foldlM {ε α β : Type} {step : β → α → Except ε β} (groups : List (List α)) (b : β) :
    groups.foldlM (fun b group => group.foldlM step b) b = groups.flatten.foldlM step b := by
  induction groups generalizing b with
  | nil => rfl
  | cons group groups ih =>
    rw [List.foldlM_cons, List.flatten_cons, List.foldlM_append]
    exact bind_congr ih

namespace FieldDefinition

variable {d d' : FieldDefinition}

theorem declare_eq : d.declare =
    d.items.foldlM DeclaredField.apply { name := d.name, type := d.type } :=
  foldlM_foldlM d.attributes _

theorem Regrouped.declare_eq (h : d.Regrouped d') : d.declare = d'.declare := by
  rw [FieldDefinition.declare_eq, FieldDefinition.declare_eq, h.items, h.name, h.type]

theorem Orderly.declare_eq (h : d.Orderly) : d.declare =
    .ok (d.items.foldl DeclaredField.marked { name := d.name, type := d.type }) := by
  rw [FieldDefinition.declare_eq, DeclaredField.foldlM_apply h.wellFormed]

/-- The order stays orderly. -/
theorem Orderly.reordered (h : d.Orderly) (hd : d.Reordered d') : d'.Orderly := by
  refine ⟨fun i hi => h.wellFormed i (hd.items.mem_iff.mpr hi), fun name hname => ?_⟩
  rw [← (hd.items.map (·.name)).count_eq]
  exact h.distinct name hname

/-- Orderly items say the same in any order, and two different roles are noticed. -/
theorem Orderly.declares_alike (h : d.Orderly) (hd : d.Reordered d') :
    ∃ f g, d.declare = .ok f ∧ d'.declare = .ok g ∧ f.Alike g ∧
      (f.conflict = true ↔ AttributeItem.DifferInRole d.items) := by
  refine ⟨_, _, h.declare_eq, (h.reordered hd).declare_eq, ?_,
    DeclaredField.conflict_foldl_marked rfl rfl⟩
  rw [← hd.name, ← hd.type]
  exact DeclaredField.alike_foldl_marked rfl rfl h.distinct hd.items

theorem Rearranged.declares_alike (h : d.Rearranged d') :
    SameErrors DeclaredField.Alike d.declare d'.declare := by
  rcases h with h | ⟨ho, hd⟩
  · exact .of_eq .refl h.declare_eq
  · obtain ⟨f, g, hf, hg, hfg, -⟩ := ho.declares_alike hd
    rw [hf, hg]
    exact .ok hfg

end FieldDefinition

namespace DeclaredEntity

/-- The same entity with fields that are alike. -/
structure Alike (e e' : DeclaredEntity) : Prop where
  name : e.name = e'.name
  table : e.table = e'.table
  generic : e.generic = e'.generic
  fields : List.Forall₂ DeclaredField.Alike e.fields e'.fields

variable {e e' : DeclaredEntity}

theorem identifierProblems_eq_nil_iff :
    e.identifierProblems = [] ↔ (e.fields.map (·.isId)).count true = 1 := by
  rw [List.count, List.countP_map, List.countP_eq_length_filter]
  unfold identifierProblems
  simp only [Function.comp_def, beq_true]
  cases e.fields.filter (·.isId) <;> simp

theorem versionProblems_eq_nil_iff :
    e.versionProblems = [] ↔ (e.fields.map (·.isVersion)).count true ≤ 1 := by
  rw [List.count, List.countP_map, List.countP_eq_length_filter]
  simp [versionProblems, Function.comp_def, Nat.sub_eq_zero_iff_le]

/-- Entities that are alike are both without problems, or neither is. -/
theorem Alike.problems_iff (h : e.Alike e') : e.problems = [] ↔ e'.problems = [] := by
  have hmap {get : DeclaredField → Bool} (hget : ∀ f g, f.Alike g → get f = get g) :
      e.fields.map get = e'.fields.map get := by
    rw [← List.forall₂_eq_eq_eq, List.forall₂_map_left_iff, List.forall₂_map_right_iff]
    exact h.fields.imp hget
  have hid : e.fields.map (·.isId) = e'.fields.map (·.isId) := hmap fun _ _ hf => hf.isId
  have hversion : e.fields.map (·.isVersion) = e'.fields.map (·.isVersion) :=
    hmap fun _ _ hf => hf.isVersion
  have hfields : (∀ f ∈ e.fields, f.problems = []) ↔ ∀ g ∈ e'.fields, g.problems = [] := by
    constructor
    · intro hall g hg
      obtain ⟨f, hf, hfg⟩ := exists_of_forall₂ h.fields.flip g hg
      exact DeclaredField.Alike.problems_iff hfg |>.mp (hall f hf)
    · intro hall f hf
      obtain ⟨g, hg, hfg⟩ := exists_of_forall₂ h.fields f hf
      exact hfg.problems_iff.mpr (hall g hg)
  simp only [problems, List.append_eq_nil_iff, List.flatMap_eq_nil_iff,
    identifierProblems_eq_nil_iff, versionProblems_eq_nil_iff, hid, hversion, hfields, h.generic]

end DeclaredEntity

namespace TypeDefinition

/-- Definitions of one type whose fields correspond; the attributes of the types are the same items
in the same order, whatever the groups. -/
structure Corresponds (R : FieldDefinition → FieldDefinition → Prop) (d d' : TypeDefinition) :
    Prop where
  name : d.name = d'.name
  shape : d.shape = d'.shape
  generic : d.generic = d'.generic
  attributes : d.attributes.flatten = d'.attributes.flatten
  fields : List.Forall₂ R d.fields d'.fields

/-- What a definition comes to: a fault of an attribute or of the shape, or else whether the entity
that it declares is accepted. -/
def verdict (d : TypeDefinition) : Except DeclarationFault Bool :=
  d.declare.map (·.problems.isEmpty)

variable {d d' : TypeDefinition} {R : FieldDefinition → FieldDefinition → Prop}
  {S : DeclaredField → DeclaredField → Prop}

/-- Fields that declare related ones make entities that differ in nothing else. -/
theorem Corresponds.sameErrors_declare (h : d.Corresponds R d')
    (hR : ∀ f g, R f g → SameErrors S f.declare g.declare) :
    SameErrors (fun e e' => e.name = e'.name ∧ e.table = e'.table ∧ e.generic = e'.generic ∧
      List.Forall₂ S e.fields e'.fields) d.declare d'.declare := by
  have hfields : SameErrors (List.Forall₂ S) d.declareFields d'.declareFields := by
    rw [declareFields, declareFields, ← h.shape]
    cases d.shape with
    | named => exact .mapM h.fields hR
    | enumeration => exact .error _
    | union => exact .error _
    | positional => exact .error _
    | unit => exact .error _
  have htable : d.attributes.foldlM (fun table group => group.foldlM applyTable table) none =
      d'.attributes.foldlM (fun table group => group.foldlM applyTable table) none := by
    rw [foldlM_foldlM, foldlM_foldlM, h.attributes]
  rw [declare, declare, htable]
  refine hfields.bind fun fields fields' hf => ?_
  cases d'.attributes.foldlM (fun table group => group.foldlM applyTable table) none with
  | error fault => exact .error fault
  | ok table => exact .ok ⟨h.name, rfl, h.generic, hf⟩

theorem Corresponds.declare_eq (h : d.Corresponds FieldDefinition.Regrouped d') :
    d.declare = d'.declare := by
  have hsame f g (hfg : FieldDefinition.Regrouped f g) : SameErrors Eq f.declare g.declare :=
    .of_eq (fun _ => rfl) hfg.declare_eq
  have hdeclare := h.sameErrors_declare hsame
  refine SameErrors.eq (hdeclare.strengthen fun e e' _ _ => ?_)
  rintro ⟨hname, htable, hgeneric, hfields⟩
  rw [List.forall₂_eq_eq_eq] at hfields
  obtain ⟨⟩ := e
  obtain ⟨⟩ := e'
  congr

theorem Corresponds.verdict_eq (h : d.Corresponds FieldDefinition.Rearranged d') :
    d.verdict = d'.verdict := by
  have hdeclare := h.sameErrors_declare fun _ _ hfg => hfg.declares_alike
  refine SameErrors.eq (hdeclare.map fun e e' he => ?_)
  obtain ⟨hname, htable, hgeneric, hfields⟩ := he
  have halike : e.Alike e' := ⟨hname, htable, hgeneric, hfields⟩
  rw [Bool.eq_iff_iff, List.isEmpty_iff, List.isEmpty_iff, halike.problems_iff]

/-- Neither the groups nor the order of attribute items matter. Other groups declare the same.
Orderly items of a field declare, in any order, the same marks and names, and a conflict exactly if
two different roles are among them; without a conflict it is the same role. The verdict on a
definition is the same for every rearrangement of its fields. -/
theorem attribute_layout_irrelevant :
    (∀ d d' : TypeDefinition, d.Corresponds FieldDefinition.Regrouped d' →
      d.declare = d'.declare) ∧
    (∀ f f' : FieldDefinition, f.Orderly → f.Reordered f' →
      ∃ a b, f.declare = .ok a ∧ f'.declare = .ok b ∧ a.Alike b ∧
        (a.conflict = true ↔ AttributeItem.DifferInRole f.items)) ∧
    ∀ d d' : TypeDefinition, d.Corresponds FieldDefinition.Rearranged d' →
      d.verdict = d'.verdict :=
  ⟨fun _ _ h => h.declare_eq, fun _ _ ho h => ho.declares_alike h, fun _ _ h => h.verdict_eq⟩

end TypeDefinition

namespace SampleLetter

def identifier (attributes : List AttributeGroup) : FieldDefinition where
  name := "id"
  type := Lexeme.ofText "i64".toList
  attributes := attributes

def sender (attributes : List AttributeGroup) : FieldDefinition where
  name := "sender"
  type := Lexeme.ofText "Option<Person>".toList
  attributes := attributes

def letter (fields : List FieldDefinition) : TypeDefinition where
  name := "Letter"
  fields := fields

def numbered : FieldDefinition :=
  identifier [[{ name := "id" }, { name := "column", value := .text "no" }]]

def split : FieldDefinition :=
  identifier [[{ name := "id" }], [], [{ name := "column", value := .text "no" }]]

/-- A sender with two roles, which is a conflict in every order. -/
def torn : FieldDefinition :=
  sender [[{ name := "many_to_one" }, { name := "join_column", value := .text "sender_id" },
    { name := "one_to_one" }]]

def turned : FieldDefinition :=
  sender [[{ name := "one_to_one" }],
    [{ name := "join_column", value := .text "sender_id" }, { name := "many_to_one" }]]

/-- The groups of the identifier make no difference, and the two roles of the sender are noticed. -/
theorem attribute_layout_irrelevant_letter :
    (letter [numbered]).declare = (letter [split]).declare ∧
    (∃ a b, torn.declare = .ok a ∧ turned.declare = .ok b ∧ a.Alike b ∧ a.conflict = true) ∧
    (letter [numbered, torn]).verdict = (letter [split, turned]).verdict ∧
    (letter [numbered, torn]).verdict = .ok false := by
  obtain ⟨hgroups, horder, hverdict⟩ := TypeDefinition.attribute_layout_irrelevant
  have horderly : torn.Orderly := ⟨by decide +kernel, by decide +kernel⟩
  have hturned : torn.Reordered turned := ⟨rfl, rfl, by decide +kernel⟩
  refine ⟨hgroups _ _ ⟨rfl, rfl, rfl, rfl, .cons ⟨rfl, rfl, rfl⟩ .nil⟩, ?_, ?_, by decide +kernel⟩
  · obtain ⟨a, b, ha, hb, halike, hconflict⟩ := horder torn turned horderly hturned
    exact ⟨a, b, ha, hb, halike, hconflict.mpr (by decide +kernel)⟩
  · exact hverdict _ _ ⟨rfl, rfl, rfl, rfl,
      .cons (.inl ⟨rfl, rfl, rfl⟩) (.cons (.inr ⟨horderly, hturned⟩) .nil)⟩

end SampleLetter

end EntityMapper
