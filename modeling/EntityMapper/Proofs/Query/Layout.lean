import EntityMapper.Proofs.Query.AliasPaths
/-! The layout of a statement: which token stands for which word of the query, and what a SELECT
leaves out and puts in. -/

namespace EntityMapper

open Text

namespace QueryPlan

/-- What stands for the word at a position: the table for the entity name, the word itself for the
keyword and the alias, and else the word with its core resolved, if it resolves to anything. -/
inductive StandsFor (p : QueryPlan) (s : QueryScope) (k : Journal) (i : Nat) (t : Token) :
    Token → Prop where
  | table (hi : i = p.entitySlot) : StandsFor p s k i t s.root.table.toList
  | fixed (hi : i ≠ p.entitySlot) (hfixed : i = 0 ∨ p.aliasSlot = some i) : StandsFor p s k i t t
  | punctuation (hfree : p.isFixed i = false) (hcore : t.parts.core = []) : StandsFor p s k i t t
  | text (hfree : p.isFixed i = false) (hcore : t.parts.core ≠ [])
      (hpath : (s.resolvePath t.parts.core t.parts.core.segments k).1 = .ok none) :
      StandsFor p s k i t t
  | column (hfree : p.isFixed i = false) (hcore : t.parts.core ≠ []) {path : Token}
      (hpath : (s.resolvePath t.parts.core t.parts.core.segments k).1 = .ok (some path)) :
      StandsFor p s k i t (t.withCore path)

/-- The tokens of a SELECT with a star for the list before the keyword, and with joins at one place
after the table. -/
inductive Selects (slot : Nat) (joins : List Token) : List Token → List Token → Prop where
  | mk (first keyword table : Token) (list before after : List Token)
      (hslot : list.length + 2 = slot) (hplace : before.length = joinOffset (before ++ after)) :
      Selects slot joins (first :: (list ++ keyword :: table :: (before ++ after)))
        (first :: ['*'] :: keyword :: table :: (before ++ joins ++ after))

section Resolved

variable {p : QueryPlan} {s : QueryScope} {k : Journal}

theorem isFixed_iff {i : Nat} :
    p.isFixed i = true ↔ (i = 0 ∨ p.aliasSlot = some i) ∨ i = p.entitySlot := by
  simp only [isFixed, Bool.or_eq_true, beq_iff_eq, or_right_comm, Eq.comm (a := some i)]

/-- Tokens are resolved in place: there are as many, and the fixed ones stay. -/
theorem getElem?_of_resolveFrom {i : Nat} {ts us : List Token} {j : Journal}
    (h : p.resolveFrom s i ts j = (.ok us, k)) :
    us.length = ts.length ∧
      ∀ n t, ts[n]? = some t → p.isFixed (i + n) = true → us[n]? = some t := by
  induction ts generalizing i j us with
  | nil =>
    cases h
    exact ⟨rfl, fun n t ht _ => ht⟩
  | cons v rest ih =>
    rw [resolveFrom_cons] at h
    obtain ⟨u, j₁, hu, h⟩ := exists_of_bind h
    obtain ⟨us', j₂, hrest, h⟩ := exists_of_bind h
    cases h
    obtain ⟨hlen, hfixed⟩ := ih hrest
    refine ⟨by simp [hlen], fun n t ht hn => ?_⟩
    cases n with
    | zero =>
      cases ht
      rw [if_pos (by simpa using hn)] at hu
      cases hu
      rfl
    | succ n => exact hfixed n t ht (by rwa [Nat.add_assoc, Nat.add_comm 1])

/-- What a resolved token is can be told from the last journal. -/
theorem standsFor_of_resolveToken {i : Nat} {t u : Token} {j l : Journal}
    (hfree : p.isFixed i = false) (h : s.resolveToken t j = (.ok u, l)) (hk : l.Grows k) :
    StandsFor p s k i t u := by
  unfold QueryScope.resolveToken at h
  split at h
  · rename_i hcore
    cases h
    exact .punctuation hfree (List.isEmpty_iff.mp hcore)
  · rename_i hcore
    rw [List.isEmpty_iff] at hcore
    obtain ⟨found, j₁, hpath, h⟩ := exists_of_bind h
    cases found with
    | none =>
      cases h
      exact .text hfree hcore ((s.stable_resolvePath _ _).again hpath hk)
    | some path =>
      cases h
      exact .column hfree hcore ((s.stable_resolvePath _ _).again hpath hk)

theorem standsFor_stated {ts us : List Token} {j l : Journal}
    (h : p.resolveFrom s 0 ts j = (.ok us, l)) (hk : l.Grows k) {i : Nat} {t u : Token}
    (ht : ts[i]? = some t) (hu : (p.stated s.root.table.toList us)[i]? = some u) :
    StandsFor p s k i t u := by
  obtain ⟨hlen, hfixed⟩ := getElem?_of_resolveFrom h
  have hi : i < us.length := by
    have := (List.getElem?_eq_some_iff.mp ht).1
    omega
  by_cases hslot : i = p.entitySlot
  · subst hslot
    rw [stated, List.getElem?_set_self hi] at hu
    cases hu
    exact .table rfl
  · rw [stated, List.getElem?_set_ne (Ne.symm hslot)] at hu
    cases hfree : p.isFixed i with
    | true =>
      rw [hfixed i t ht (by simpa using hfree)] at hu
      cases hu
      exact .fixed hslot ((isFixed_iff.mp hfree).resolve_right hslot)
    | false =>
      obtain ⟨v, l₁, l₂, hv, hresolved, hgrows⟩ :=
        exists_of_resolveFrom h ht (by simpa using hfree)
      cases hv.symm.trans hu
      exact standsFor_of_resolveToken hfree hresolved (hgrows.trans hk)

end Resolved

theorem joinOffset_le (ts : List Token) : joinOffset ts ≤ ts.length := by
  unfold joinOffset
  split
  · rename_i i hi
    exact (List.findIdx?_eq_some_iff_findIdx_eq.mp hi).1.le
  · split
    · rename_i i hi
      exact (List.findIdx?_eq_some_iff_findIdx_eq.mp hi).1.le
    · exact Nat.le_refl _

section Assembled

variable {p : QueryPlan} {table : Token} {joins resolved : List Token}

theorem stated_eq (hlt : p.entitySlot < resolved.length) :
    p.stated table resolved =
      resolved.take p.entitySlot ++ table :: resolved.drop (p.entitySlot + 1) := by
  rw [stated, List.set_eq_take_append_cons_drop, if_pos hlt]

theorem assemble_select (hkind : p.kind = .select) (hpos : 1 ≤ p.entitySlot)
    (hlt : p.entitySlot < resolved.length) :
    p.assemble table joins resolved =
      (resolved.take p.entitySlot).take 1 ++ ['*'] ::
        ((resolved.take p.entitySlot).drop (p.entitySlot - 1) ++ table ::
          ((resolved.drop (p.entitySlot + 1)).take (joinOffset (resolved.drop (p.entitySlot + 1))) ++
            joins ++
            (resolved.drop (p.entitySlot + 1)).drop
              (joinOffset (resolved.drop (p.entitySlot + 1))))) := by
  have hlen : (resolved.take p.entitySlot).length = p.entitySlot := by
    rw [List.length_take]
    omega
  rw [assemble, if_pos hkind, stated_eq hlt, insertJoins_append hlen, widen_append hlen hpos]

/-- A SELECT keeps its first token, and the tokens from the keyword before the table on. -/
theorem selects_assemble (hkind : p.kind = .select) (hslot : 2 ≤ p.entitySlot)
    (hlt : p.entitySlot < resolved.length) :
    Selects p.entitySlot joins (p.stated table resolved) (p.assemble table joins resolved) := by
  rw [assemble_select hkind (by omega) hlt, stated_eq hlt]
  generalize hafter : resolved.drop (p.entitySlot + 1) = rest
  have hlen : (resolved.take p.entitySlot).length = p.entitySlot := by
    rw [List.length_take]
    omega
  generalize resolved.take p.entitySlot = before at hlen
  -- Before the table there are at least the first token and the keyword.
  obtain ⟨first, tail, rfl⟩ := List.exists_cons_of_length_pos (by omega : 0 < before.length)
  obtain ⟨list, keyword, rfl⟩ : ∃ list keyword, tail = list ++ [keyword] := by
    refine ⟨tail.dropLast, tail.getLast ?_, (List.dropLast_append_getLast _).symm⟩
    rintro rfl
    simp at hlen
    omega
  have hsize : list.length + 2 = p.entitySlot := by
    simpa using hlen
  have hplace : (rest.take (joinOffset rest)).length =
      joinOffset (rest.take (joinOffset rest) ++ rest.drop (joinOffset rest)) := by
    rw [List.take_append_drop, List.length_take, Nat.min_eq_left (joinOffset_le rest)]
  have hkeyword : (first :: (list ++ [keyword])).drop (p.entitySlot - 1) = [keyword] := by
    rw [← hsize]
    simp
  have hselects : Selects p.entitySlot joins _ _ :=
    .mk first keyword table list _ _ hsize hplace
  rw [List.take_append_drop] at hselects
  simpa [hkeyword] using hselects

/-- The tokens with others in the place of a range, if the tokens have that range. -/
def splice? (start stop : Nat) (new ts : List Token) : Option (List Token) :=
  if start ≤ stop ∧ stop ≤ ts.length then some (ts.take start ++ new ++ ts.drop stop) else none

/-- The tokens of the statement that resolved tokens make, each range checked before it is put in
place. -/
def assemble? (p : QueryPlan) (table : Token) (joins resolved : List Token) :
    Option (List Token) := do
  let stated ← splice? p.entitySlot (p.entitySlot + 1) [table] resolved
  if p.kind = .select then
    let place := p.entitySlot + 1 + joinOffset (stated.drop (p.entitySlot + 1))
    let joined ← splice? place place joins stated
    splice? 1 (p.entitySlot - 1) [['*']] joined
  else return stated

/-- No range reaches beyond the tokens. -/
theorem assemble?_eq (hslot : p.kind = .select → 2 ≤ p.entitySlot)
    (hlt : p.entitySlot < resolved.length) :
    p.assemble? table joins resolved = some (p.assemble table joins resolved) := by
  have hstated : splice? p.entitySlot (p.entitySlot + 1) [table] resolved =
      some (p.stated table resolved) := by
    rw [splice?, if_pos ⟨Nat.le_succ _, hlt⟩, stated_eq hlt, List.append_assoc,
      List.singleton_append]
  have hlen : (p.stated table resolved).length = resolved.length := List.length_set
  unfold assemble? assemble
  simp only [hstated, Option.bind_eq_bind, Option.bind_some]
  split
  · rename_i hkind
    have hoffset := joinOffset_le ((p.stated table resolved).drop (p.entitySlot + 1))
    rw [List.length_drop, hlen] at hoffset
    have hplace : p.entitySlot + 1 + joinOffset ((p.stated table resolved).drop (p.entitySlot + 1)) ≤
        (p.stated table resolved).length := by
      omega
    have hsize : p.entitySlot - 1 ≤
        (insertJoins p.entitySlot joins (p.stated table resolved)).length := by
      simp only [insertJoins, List.length_append, List.length_take, List.length_drop]
      omega
    have htwo := hslot hkind
    have hinserted : splice? _ _ joins (p.stated table resolved) =
        some (insertJoins p.entitySlot joins (p.stated table resolved)) :=
      if_pos ⟨Nat.le_refl _, hplace⟩
    rw [hinserted, Option.bind_some, splice?, if_pos ⟨by omega, hsize⟩, widen, List.append_assoc,
      List.singleton_append]
  · rfl

/-- The tokens of the statement, with nothing put in place unchecked. -/
def checkedTokens (p : QueryPlan) (s : QueryScope) : Resolving (Option (List Token)) := do
  let resolved ← p.resolveFrom s 0 p.tokens
  let joins ← p.joins s
  return p.assemble? s.root.table.toList joins resolved

theorem checkedTokens_eq (hslot : p.kind = .select → 2 ≤ p.entitySlot)
    (hlt : p.entitySlot < p.tokens.length) (s : QueryScope) :
    p.checkedTokens s = some <$> p.statementTokens s := by
  funext j
  rw [map_apply, statementTokens_eq, checkedTokens]
  simp only [bind_apply]
  rcases hresolved : p.resolveFrom s 0 p.tokens j with ⟨e | resolved, l⟩
  · rfl
  rw [← (getElem?_of_resolveFrom hresolved).1] at hlt
  dsimp only
  rcases p.joins s l with ⟨e | joins, l'⟩
  · rfl
  · dsimp only
    rw [assemble?_eq hslot hlt]
    rfl

end Assembled

end QueryPlan

namespace EntityQuery

/-- How a statement is laid out: what stands for each word of the query, and what a SELECT makes of
the tokens that stand for all of them. -/
structure Layout (q : EntityQuery) (p : QueryPlan) (s : QueryScope) (k : Journal)
    (c : CompiledQuery) (stated joins : List Token) : Prop where
  text : c.sql = String.ofList (List.intercalate [' '] c.tokens)
  length : stated.length = q.words.length
  stands : ∀ i w u, q.words[i]? = some w → stated[i]? = some u →
    p.StandsFor s k i w.withPlaces u
  keyword : ∃ w, q.words[p.entitySlot - 1]? = some w ∧
    alike w p.kind.entityKeyword.toList = true
  kept : p.kind ≠ .select → c.tokens = stated
  selects : p.kind = .select → QueryPlan.Selects p.entitySlot joins stated c.tokens
  joins : p.kind = .select → joins.length = s.root.references.length ∧
    ∀ n r, s.root.references[n]? = some r → ∃ target,
      k.registry.find? r.target.path = some target ∧
        joins[n]? = some (QueryPlan.joinClause p.rootAlias target n r)

variable {schema : Schema} {strict : Bool} {root : EntityDescriptor} {q : EntityQuery}
  {j k : Journal} {c : CompiledQuery}

/-- What the paths of a query are resolved against. -/
def Translation.scope (t : Translation schema strict root q j c) : QueryScope :=
  t.plan.scope schema t.mapping strict

/-- What stands for the words of a query, before a SELECT leaves out and puts in tokens. -/
def Translation.stated (t : Translation schema strict root q j c) : List Token :=
  t.plan.stated t.mapping.table.toList t.resolved

section Trailed

variable {t : Translation schema strict root q j c} (ht : Trail t k)

include ht

theorem Trail.length_resolved : t.resolved.length = q.words.length := by
  obtain ⟨i, l, hresolved, -⟩ := ht.rewritten
  rw [(QueryPlan.getElem?_of_resolveFrom hresolved).1, (planned_of_ofQuery t.planned).tokens,
    List.length_map]

theorem Trail.length_stated : t.stated.length = q.words.length := by
  rw [Translation.stated, QueryPlan.stated, List.length_set, ht.length_resolved]

theorem Trail.slot_lt : t.plan.entitySlot < t.resolved.length := by
  rw [ht.length_resolved]
  exact (planned_of_ofQuery t.planned).slot_lt

theorem Trail.standsFor {i : Nat} {w u : Token} (hw : q.words[i]? = some w)
    (hu : t.stated[i]? = some u) : t.plan.StandsFor t.scope k i w.withPlaces u := by
  obtain ⟨i₀, l, hresolved, hgrows⟩ := ht.rewritten
  refine QueryPlan.standsFor_stated hresolved hgrows ?_ hu
  rw [(planned_of_ofQuery t.planned).tokens, List.getElem?_map, hw]
  rfl

end Trailed

theorem exists_layout (h : q.compile schema strict root j = (.ok c, k)) :
    ∃ m p stated joins, k.registry.find? root.path = some m ∧ QueryPlan.ofQuery q = .ok p ∧
      Layout q p (p.scope schema m strict) k c stated joins := by
  obtain ⟨t, ht⟩ := exists_translation h
  have hp := planned_of_ofQuery t.planned
  refine ⟨t.mapping, t.plan, t.stated, t.joins, ht.mapped, t.planned, rfl, ht.length_stated,
    fun _ _ _ => ht.standsFor, ?_, fun hkind => ?_, fun hkind => ?_, ht.getElem?_joins⟩
  · obtain ⟨-, n, hn, hlt', halike⟩ := QueryPlan.of_findEntitySlot (found_of_ofQuery t.planned).slot
    refine ⟨q.words[n], ?_, halike⟩
    rw [hn, Nat.add_sub_cancel, List.getElem?_eq_getElem hlt']
  · rw [t.tokens, QueryPlan.assemble, if_neg hkind]
    rfl
  · rw [t.tokens]
    exact QueryPlan.selects_assemble hkind (hp.slot_select hkind) ht.slot_lt

/-- A translation keeps every token in its place, but for the list of a SELECT and the joins that
come after its table, and no query makes it index outside its tokens. -/
theorem keeps_tokens_in_place :
    (∀ schema strict root (q : EntityQuery) j c k, q.compile schema strict root j = (.ok c, k) →
      ∃ m p stated joins, k.registry.find? root.path = some m ∧ QueryPlan.ofQuery q = .ok p ∧
        Layout q p (p.scope schema m strict) k c stated joins) ∧
      ∀ q p, QueryPlan.ofQuery q = .ok p → p.entitySlot < p.tokens.length ∧
        ∀ s, p.checkedTokens s = some <$> p.statementTokens s := by
  refine ⟨fun schema strict root q j c k h => exists_layout h, fun q p hplan => ?_⟩
  have hp := planned_of_ofQuery hplan
  have hlt : p.entitySlot < p.tokens.length := by
    rw [hp.tokens, List.length_map]
    exact hp.slot_lt
  exact ⟨hlt, QueryPlan.checkedTokens_eq hp.slot_select hlt⟩

end EntityQuery

namespace SampleLayout

open SampleAliasPaths (book reader loan)

/-- A SELECT of two fields, with a path over a reference in its condition. -/
def query : EntityQuery where
  text := "Select l.id, l.book from Loan as l where (l.reader.name = :name) order by l.id"
  params := ⟨[("name", .text "Ada")]⟩

def compiled : CompiledQuery where
  tokens := ["Select", "*", "from", "loans", "as", "l",
    "left join books join_0 on join_0.id = l.book_id",
    "left join readers join_1 on join_1.reader_no = l.reader_id", "where", "(join_1.full_name",
    "=", "?)", "order", "by", "l.id"].map String.toList
  params := [.text "Ada"]

def plan : QueryPlan where
  source := query.text
  kind := .select
  tokens := query.words.map Token.withPlaces
  entitySlot := 4
  rootAlias := some ['l']
  aliasSlot := some 6
  params := [.text "Ada"]

/-- The list of two fields becomes a star, and the two joins come before the condition. -/
theorem keeps_tokens_in_place_loans :
    query.compile [loan, book, reader] true loan {} =
        (.ok compiled, (query.compile [loan, book, reader] true loan {}).2) ∧
      (∃ m stated joins,
        EntityQuery.Layout query plan (plan.scope [loan, book, reader] m true)
          (query.compile [loan, book, reader] true loan {}).2 compiled stated joins ∧
        QueryPlan.Selects 4 joins stated compiled.tokens) ∧
      plan.entitySlot < plan.tokens.length ∧
        ∀ s, plan.checkedTokens s = some <$> plan.statementTokens s := by
  have hcompile : query.compile [loan, book, reader] true loan {} =
    (.ok compiled, (query.compile [loan, book, reader] true loan {}).2) := rfl
  have hquery : QueryPlan.ofQuery query = .ok plan := rfl
  refine ⟨hcompile, ?_, EntityQuery.keeps_tokens_in_place.2 query plan hquery⟩
  obtain ⟨m, p, stated, joins, -, hplan, hlayout⟩ :=
    EntityQuery.keeps_tokens_in_place.1 _ _ _ query _ _ _ hcompile
  obtain rfl : plan = p := Except.ok.inj (hquery.symm.trans hplan)
  exact ⟨m, stated, joins, hlayout, hlayout.selects rfl⟩

end SampleLayout

end EntityMapper
