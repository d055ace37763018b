import EntityMapper.Proofs.Query.Growth
import Mathlib.Data.List.Infix
/-! Stages of a translation, and the tokens that it leaves in a row. -/

namespace EntityMapper

namespace QueryPlan

/-- Resolved tokens with the table in the place of the entity name. -/
def stated (p : QueryPlan) (table : Token) (resolved : List Token) : List Token :=
  resolved.set p.entitySlot table

/-- The position of the token that joins are put in front of. -/
def joinPlace (p : QueryPlan) (table : Token) (resolved : List Token) : Nat :=
  p.entitySlot + 1 + joinOffset ((p.stated table resolved).drop (p.entitySlot + 1))

/-- The tokens of the statement that resolved tokens make. -/
def assemble (p : QueryPlan) (table : Token) (joins resolved : List Token) : List Token :=
  if p.kind = .select then
    widen p.entitySlot (insertJoins p.entitySlot joins (p.stated table resolved))
  else p.stated table resolved

/-- The clauses that join tables to the root: a SELECT has one for each owning reference. -/
def joins (p : QueryPlan) (s : QueryScope) : Resolving (List Token) :=
  if p.kind = .select then joinClauses s.schema p.rootAlias 0 s.root.references else pure []

variable {p : QueryPlan} {s : QueryScope}

theorem statementTokens_eq :
    p.statementTokens s = (do
      let resolved ← p.resolveFrom s 0 p.tokens
      let joins ← p.joins s
      return p.assemble s.root.table.toList joins resolved) := by
  unfold statementTokens joins assemble
  by_cases hkind : p.kind = .select
  · simp only [if_pos hkind]
    rfl
  · simp only [if_neg hkind, pure_bind]
    rfl

theorem joins_eq_nil {j k : Journal} {clauses : List Token} (hnone : s.root.references = [])
    (h : p.joins s j = (.ok clauses, k)) : clauses = [] := by
  unfold joins at h
  rw [hnone] at h
  split at h <;> cases h <;> rfl

theorem steady_joins (p : QueryPlan) (s : QueryScope) : Resolving.Steady (p.joins s) := by
  unfold joins
  split
  · exact steady_joinClauses _ _ _ _
  · exact .pure _

theorem exists_of_compile {schema : Schema} {m : Metadata} {strict : Bool} {j k : Journal}
    {c : CompiledQuery} (h : p.compile schema m strict j = (.ok c, k)) :
    ∃ resolved clauses l,
      p.resolveFrom (p.scope schema m strict) 0 p.tokens j = (.ok resolved, l) ∧
      p.joins (p.scope schema m strict) l = (.ok clauses, k) ∧
      c.tokens = p.assemble m.table.toList clauses resolved := by
  obtain ⟨_, j₁, hcheck, h⟩ := exists_of_bind h
  rw [liftM_except_apply] at hcheck
  obtain ⟨-, rfl⟩ := Prod.mk.inj hcheck
  obtain ⟨us, j₂, htokens, hc⟩ := exists_of_bind h
  cases hc
  rw [statementTokens_eq] at htokens
  obtain ⟨resolved, l, hresolved, htokens⟩ := exists_of_bind htokens
  obtain ⟨clauses, j₃, hclauses, htokens⟩ := exists_of_bind htokens
  cases htokens
  exact ⟨resolved, clauses, l, hresolved, hclauses, rfl⟩

section Rows

variable {i n : Nat} {ts : List Token}

theorem infix_drop {k : Nat} (hk : k ≤ i) : (ts.drop i).take n <:+: ts.drop k := by
  have hi : ts.drop i = (ts.drop k).drop (i - k) := by
    rw [List.drop_drop, Nat.add_sub_cancel' hk]
  rw [hi]
  exact (List.take_prefix n _).isInfix.trans (List.drop_suffix _ _).isInfix

/-- What stands in a row still does so after tokens are put in where it does not. -/
theorem infix_drop_insert {k position : Nat} (hk : k ≤ i) (hp : k ≤ position) (joins : List Token)
    (h : position ≤ i ∨ i + n ≤ position) :
    (ts.drop i).take n <:+: (ts.take position ++ joins ++ ts.drop position).drop k := by
  rcases h with hafter | hbefore
  · by_cases hlen : position ≤ ts.length
    · have hsize : k ≤ (ts.take position ++ joins).length := by
        rw [List.length_append, List.length_take]
        omega
      rw [List.drop_append_of_le_length hsize]
      exact (infix_drop hafter).trans (List.suffix_append _ _).isInfix
    · have hnone : ts.drop i = [] := List.drop_eq_nil_of_le (by omega)
      simp [hnone]
  · have hrow : (ts.drop i).take n = ((ts.take position).drop i).take n := by
      rw [List.drop_take, List.take_take, Nat.min_eq_left (by omega)]
    rw [hrow, List.append_assoc, List.drop_append]
    exact (infix_drop hk).trans (List.prefix_append _ _).isInfix

/-- The tokens of a statement have in a row what stands behind the entity name, or anywhere if the
statement is no SELECT, and is not parted by joins. -/
theorem infix_assemble {p : QueryPlan} {table : Token} {joins resolved : List Token}
    (hpos : 1 ≤ p.entitySlot) (hselect : p.kind = .select → p.entitySlot ≤ i)
    (hjoins : p.kind = .select → joins = [] ∨ p.joinPlace table resolved ≤ i ∨
      i + n ≤ p.joinPlace table resolved) :
    ((p.stated table resolved).drop i).take n <:+: p.assemble table joins resolved := by
  unfold assemble
  split
  · rename_i hkind
    have hk : p.entitySlot - 1 ≤ i := Nat.le_trans (Nat.sub_le _ 1) (hselect hkind)
    have hrow : ((p.stated table resolved).drop i).take n <:+:
        (insertJoins p.entitySlot joins (p.stated table resolved)).drop (p.entitySlot - 1) := by
      rcases hjoins hkind with rfl | hplace
      · rw [insertJoins, List.append_nil, List.take_append_drop]
        exact infix_drop hk
      · exact infix_drop_insert hk (by omega) joins hplace
    exact hrow.trans ((List.suffix_cons _ _).trans (List.suffix_append _ _)).isInfix
  · exact (infix_drop (Nat.zero_le i)).trans (by simp)

end Rows

/-- The position in the statement of the token that stands at a position among the resolved ones,
if the statement keeps it. -/
def place (p : QueryPlan) (table : Token) (joins resolved : List Token) (i : Nat) : Nat :=
  if p.kind = .select then
    (if i < p.joinPlace table resolved then i else i + joins.length) + 3 - p.entitySlot
  else i

theorem getElem?_insertJoins (slot : Nat) (clauses : List Token) {ts : List Token} {i : Nat}
    (hi : i < ts.length) :
    (insertJoins slot clauses ts)[if i < slot + 1 + joinOffset (ts.drop (slot + 1)) then i
      else i + clauses.length]? = ts[i]? := by
  unfold insertJoins
  dsimp only
  generalize slot + 1 + joinOffset (ts.drop (slot + 1)) = position
  split
  · rename_i hbefore
    rw [List.append_assoc, List.getElem?_append_left (by rw [List.length_take]; omega),
      List.getElem?_take_of_lt hbefore]
  · rename_i hafter
    have hlen : (ts.take position ++ clauses).length = position + clauses.length := by
      rw [List.length_append, List.length_take]
      omega
    rw [List.getElem?_append_right (by omega), hlen, List.getElem?_drop]
    congr 1
    omega

theorem getElem?_widen {slot : Nat} {ts : List Token} {i : Nat} (hpos : 1 ≤ slot)
    (hi : slot ≤ i + 1) (hne : ts ≠ []) : (widen slot ts)[i + 3 - slot]? = ts[i]? := by
  have hone : (ts.take 1).length = 1 := by
    rw [List.length_take]
    have := List.length_pos_iff.mpr hne
    omega
  have hsize : i + 3 - slot = (i + 1 - slot) + 1 + 1 := by omega
  rw [widen, hsize, List.getElem?_append_right (by omega), hone, Nat.add_sub_cancel,
    List.getElem?_cons_succ, List.getElem?_drop]
  congr 1
  omega

variable {table : Token} {clauses resolved : List Token}

/-- A statement keeps the tokens from the keyword before the entity name on, and all tokens if it is
no SELECT. -/
theorem getElem?_assemble (hpos : 1 ≤ p.entitySlot) {i : Nat} (hi : i < resolved.length)
    (hkept : p.kind = .select → p.entitySlot ≤ i + 1) :
    (p.assemble table clauses resolved)[p.place table clauses resolved i]? =
      (p.stated table resolved)[i]? := by
  have hlen : i < (p.stated table resolved).length := by rwa [stated, List.length_set]
  unfold assemble place
  split
  · rename_i hkind
    have hinsert := getElem?_insertJoins p.entitySlot clauses hlen
    have hne : insertJoins p.entitySlot clauses (p.stated table resolved) ≠ [] := by
      intro hnil
      rw [hnil, List.getElem?_eq_getElem hlen] at hinsert
      cases hinsert
    rw [getElem?_widen hpos _ hne]
    · exact hinsert
    · have := hkept hkind
      split <;> omega
  · rfl

/-- A SELECT keeps all its joins. -/
theorem joins_isInfix_assemble (hkind : p.kind = .select) (hslot : p.entitySlot ≤ resolved.length) :
    clauses <:+: p.assemble table clauses resolved := by
  rw [assemble, if_pos hkind, insertJoins, widen]
  refine List.IsInfix.trans ?_ ((List.suffix_cons _ _).trans (List.suffix_append _ _)).isInfix
  have hlen : p.entitySlot - 1 ≤
      ((p.stated table resolved).take (p.joinPlace table resolved)).length := by
    rw [List.length_take, stated, List.length_set, joinPlace]
    omega
  rw [List.append_assoc, ← joinPlace, List.drop_append_of_le_length hlen]
  exact ⟨_, _, List.append_assoc _ _ _⟩

end QueryPlan

namespace EntityQuery

/-- What a translation goes through. -/
structure Translation (schema : Schema) (strict : Bool) (root : EntityDescriptor) (q : EntityQuery)
    (j : Journal) (c : CompiledQuery) where
  mapping : Metadata
  plan : QueryPlan
  /-- The tokens of the plan with columns in the place of paths. -/
  resolved : List Token
  joins : List Token
  mapped : (Journal.resolve schema root j).1 = .ok mapping
  planned : QueryPlan.ofQuery q = .ok plan
  rewritten : (plan.resolveFrom (plan.scope schema mapping strict) 0 plan.tokens
    (Journal.resolve schema root j).2).1 = .ok resolved
  joins_eq_nil : mapping.references = [] → joins = []
  tokens : c.tokens = plan.assemble mapping.table.toList joins resolved

variable {schema : Schema} {strict : Bool} {root : EntityDescriptor} {q : EntityQuery}
  {j k : Journal} {c : CompiledQuery}

theorem Translation.plan_eq (t : Translation schema strict root q j c) {p : QueryPlan}
    (h : QueryPlan.ofQuery q = .ok p) : t.plan = p :=
  Except.ok.inj (t.planned.symm.trans h)

/-- How far the journal of a translation had come at each stage. -/
structure Trail (t : Translation schema strict root q j c) (k : Journal) : Prop where
  mapped : k.registry.find? root.path = some t.mapping
  rewritten : ∃ i l, t.plan.resolveFrom (t.plan.scope schema t.mapping strict) 0 t.plan.tokens i =
    (.ok t.resolved, l) ∧ l.Grows k
  joined : ∃ i l, t.plan.joins (t.plan.scope schema t.mapping strict) i = (.ok t.joins, l) ∧
    l.Grows k

theorem exists_translation (h : q.compile schema strict root j = (.ok c, k)) :
    ∃ t : Translation schema strict root q j c, Trail t k := by
  obtain ⟨m, j₁, hm, h⟩ := exists_of_bind h
  cases hp : QueryPlan.ofQuery q with
  | error f =>
    rw [hp] at h
    cases h
  | ok p =>
    rw [hp] at h
    obtain ⟨d, j₂, hc, h⟩ := exists_of_bind h
    cases h
    obtain ⟨resolved, clauses, l, hresolved, hclauses, htokens⟩ := QueryPlan.exists_of_compile hc
    have hafter : j₂.Grows (j₂.note .debug "Translated JQL") := fun _ _ h => h
    have hcompile := (p.steady_compile schema m strict j₁).final (.refl j₁)
    have hjoins := (p.steady_joins (p.scope schema m strict) l).final (.refl l)
    rw [hc] at hcompile
    rw [hclauses] at hjoins
    refine ⟨⟨m, p, resolved, clauses, by rw [hm], hp, by rw [hm, hresolved],
      fun hnone => QueryPlan.joins_eq_nil hnone hclauses, htokens⟩, ?_, ?_, ?_⟩
    · exact hafter _ _ (hcompile _ _ (Journal.find?_resolve hm))
    · exact ⟨j₁, l, hresolved, hjoins.trans hafter⟩
    · exact ⟨l, j₂, hclauses, hafter⟩

theorem nonempty_translation (h : q.compile schema strict root j = (.ok c, k)) :
    Nonempty (Translation schema strict root q j c) := by
  obtain ⟨t, -⟩ := exists_translation h
  exact ⟨t⟩

end EntityQuery

end EntityMapper
