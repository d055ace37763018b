import EntityMapper.Proofs.Query.Layout
import EntityMapper.Proofs.Query.Renaming
/-! Places of joins: a SELECT searches for the place of its joins among the tokens that are already
resolved, and takes any condition before another clause. When that is the place in front of the
first clause of the query. -/

namespace EntityMapper

open Text

/-- The place of the first element with a property, or the end if there is none. -/
theorem findIdx_eq_iff {α : Type} {p : α → Bool} {l : List α} {n : Nat} (hn : n ≤ l.length) :
    l.findIdx p = n ↔ (∀ x, l[n]? = some x → p x = true) ∧
      ∀ i x, l[i]? = some x → p x = true → n ≤ i := by
  constructor
  · rintro rfl
    refine ⟨fun x hx => List.findIdx_of_getElem?_eq_some hx, fun i x hx hp => ?_⟩
    obtain ⟨hi, rfl⟩ := List.getElem?_eq_some_iff.mp hx
    by_contra hlt
    rw [List.not_of_lt_findIdx (Nat.lt_of_not_le hlt)] at hp
    cases hp
  · rintro ⟨hfirst, hbefore⟩
    have hle : n ≤ l.findIdx p := by
      by_contra hlt
      have hi : l.findIdx p < l.length := by omega
      exact hlt (hbefore _ _ (List.getElem?_eq_getElem hi) List.findIdx_getElem)
    rcases Nat.lt_or_eq_of_le hn with hn | rfl
    · refine Nat.le_antisymm (Nat.le_of_not_lt fun hlt => ?_) hle
      have hp := hfirst _ (List.getElem?_eq_getElem hn)
      rw [List.not_of_lt_findIdx hlt] at hp
      cases hp
    · exact Nat.le_antisymm List.findIdx_le_length hle

namespace Token

/-- The keyword of a condition. -/
def isWhere (t : Token) : Bool :=
  alike t "where".toList

/-- The keyword of a clause that is no condition. -/
def isTrailing (t : Token) : Bool :=
  QueryPlan.trailingClauses.any fun k => alike t k.toList

def isClause (t : Token) : Bool :=
  t.isWhere || t.isTrailing

/-- The keywords of clauses. -/
theorem isClause_iff {t : Token} :
    t.isClause = true ↔ ∃ k ∈ "where" :: QueryPlan.trailingClauses, alike t k.toList = true := by
  rw [isClause, isWhere, isTrailing, Bool.or_eq_true, List.any_eq_true, List.exists_mem_cons_iff]

/-- A character that is no letter is in no keyword of a clause. -/
theorem not_mem_of_isClause {t : Token} (h : t.isClause = true) {c : Char}
    (hlower : c.isLower = false) (hsame : c.toLower = c)
    (hkeywords : ∀ k ∈ "where" :: QueryPlan.trailingClauses, c ∉ k.toList) : c ∉ t := by
  obtain ⟨k, hk, halike⟩ := isClause_iff.mp h
  rw [alike_comm] at halike
  exact not_mem_of_alike hlower hsame (hkeywords k hk) halike

theorem parts_of_not_mem {t : Token} (hopen : '(' ∉ t) (hclose : ')' ∉ t) (hcomma : ',' ∉ t) :
    t.parts = ⟨[], t, []⟩ := by
  have hcut {p : Char → Bool} {l : List Char} (h : ∀ c ∈ l, ¬ p c = true) :
      l.takeWhile p = [] ∧ l.dropWhile p = l := by
    cases l with
    | nil => exact ⟨rfl, rfl⟩
    | cons c l =>
      have hc := h c List.mem_cons_self
      exact ⟨List.takeWhile_cons_of_neg hc, List.dropWhile_cons_of_neg hc⟩
  obtain ⟨hbefore, hrest⟩ := hcut (p := (· == '(')) fun c hc h =>
    hopen (beq_iff_eq.mp h ▸ hc)
  obtain ⟨hafter, hcore⟩ : t.reverse.takeWhile closes = [] ∧
      t.reverse.dropWhile closes = t.reverse := by
    refine hcut fun c hc h => ?_
    rw [List.mem_reverse] at hc
    rcases Bool.or_eq_true_iff.mp h with h | h <;> rw [beq_iff_eq.mp h] at hc
    · exact hcomma hc
    · exact hclose hc
  simp only [parts, hbefore, hrest, hafter, hcore, List.reverse_reverse, List.reverse_nil]

/-- The keyword of a clause is all of its token, and has no parameters. -/
theorem cut_of_isClause {t : Token} (h : t.isClause = true) :
    t.withPlaces = t ∧ t.parts = ⟨[], t, []⟩ ∧ t.segments = [t] := by
  have hopen : '(' ∉ t := not_mem_of_isClause h (by decide) (by decide) (by decide)
  have hclose : ')' ∉ t := not_mem_of_isClause h (by decide) (by decide) (by decide)
  have hcomma : ',' ∉ t := not_mem_of_isClause h (by decide) (by decide) (by decide)
  have hdot : '.' ∉ t := not_mem_of_isClause h (by decide) (by decide) (by decide)
  have hcolon : ':' ∉ t := not_mem_of_isClause h (by decide) (by decide) (by decide)
  exact ⟨withPlaces_of_not_mem hcolon, parts_of_not_mem hopen hclose hcomma,
    segments_of_not_mem hdot⟩

end Token

namespace QueryPlan

/-- The place of the first clause, or the end if there is none. -/
def clausePlace (ts : List Token) : Nat :=
  ts.findIdx Token.isClause

/-- The first clause is a condition. -/
def BeginsWithWhere (ts : List Token) : Prop :=
  ∃ t ∈ ts[clausePlace ts]?, t.isWhere = true

instance (ts : List Token) : Decidable (BeginsWithWhere ts) :=
  inferInstanceAs (Decidable (∃ t ∈ _, _))

/-- The place of joins is that of the first condition, or else of the first other clause. -/
theorem joinOffset_eq (ts : List Token) :
    joinOffset ts =
      ts.findIdx (if ts.any Token.isWhere then Token.isWhere else Token.isTrailing) := by
  have hsome {p : Token → Bool} {i : Nat} (h : ts.findIdx? p = some i) : i = ts.findIdx p :=
    (List.findIdx?_eq_some_iff_findIdx_eq.mp h).2.symm
  unfold joinOffset
  split
  · rename_i i hi
    have hany : ts.any Token.isWhere = true := by
      rw [← List.findIdx?_isSome]
      exact Option.isSome_of_eq_some hi
    rw [if_pos hany]
    exact hsome hi
  · rename_i hnone
    have hany : ¬ ts.any Token.isWhere = true := by
      rw [← List.findIdx?_isSome]
      exact Option.not_isSome_iff_eq_none.mpr hnone
    rw [if_neg hany]
    split
    · rename_i i hi
      exact hsome hi
    · rename_i hnone
      exact (List.findIdx?_eq_none_iff_findIdx_eq.mp hnone).symm

/-- Where the clauses stayed, what stands at the place of the first clause is that clause. -/
theorem isClause_of_clausePlace {ws ts : List Token} (hlen : ts.length = ws.length)
    (hkept : ∀ (i : Nat) (w : Token), ws[i]? = some w → w.isClause = true → ts[i]? = some w)
    {u : Token} (hu : ts[clausePlace ws]? = some u) :
    u.isClause = true ∧ ws[clausePlace ws]? = some u := by
  have hlt : clausePlace ws < ws.length := by
    rw [← hlen]
    exact (List.getElem?_eq_some_iff.mp hu).1
  have hw := List.getElem?_eq_getElem hlt
  have hclause := List.findIdx_of_getElem?_eq_some hw
  obtain rfl := Option.some.inj ((hkept _ _ hw hclause).symm.trans hu)
  exact ⟨hclause, hw⟩

/-- Where the clauses stayed, joins are put in front of the first one exactly if it is a condition
before any other one, or there is no condition and no other clause is put before it. -/
theorem joinOffset_eq_clausePlace_iff {ws ts : List Token} (hlen : ts.length = ws.length)
    (hkept : ∀ (i : Nat) (w : Token), ws[i]? = some w → w.isClause = true → ts[i]? = some w) :
    joinOffset ts = clausePlace ws ↔ ∀ (i : Nat) (u : Token), ts[i]? = some u →
      (u.isWhere = true → clausePlace ws ≤ i ∧ BeginsWithWhere ws) ∧
      (u.isTrailing = true → clausePlace ws ≤ i ∨ BeginsWithWhere ws) := by
  have hle : clausePlace ws ≤ ts.length := by
    rw [hlen]
    exact List.findIdx_le_length
  have hbegins (h : BeginsWithWhere ws) : ∃ u, ts[clausePlace ws]? = some u ∧ u.isWhere = true := by
    obtain ⟨u, hu, hwhere⟩ := h
    exact ⟨u, hkept _ _ hu (by rw [Token.isClause, hwhere, Bool.true_or]), hwhere⟩
  rw [joinOffset_eq]
  cases hany : ts.any Token.isWhere with
  | true =>
    obtain ⟨v, hmem, hv⟩ := List.any_eq_true.mp hany
    obtain ⟨n, hn⟩ := List.mem_iff_getElem?.mp hmem
    rw [if_pos rfl, findIdx_eq_iff hle]
    constructor
    · rintro ⟨hplace, hbefore⟩
      have hlt : clausePlace ws < ts.length :=
        Nat.lt_of_le_of_lt (hbefore n v hn hv) (List.getElem?_eq_some_iff.mp hn).1
      have hat := List.getElem?_eq_getElem hlt
      have hwhere : BeginsWithWhere ws :=
        ⟨_, (isClause_of_clausePlace hlen hkept hat).2, hplace _ hat⟩
      exact fun i u hu => ⟨fun h => ⟨hbefore i u hu h, hwhere⟩, fun _ => .inr hwhere⟩
    · intro hall
      obtain ⟨u, hu, hwhere⟩ := hbegins ((hall n v hn).1 hv).2
      refine ⟨fun x hx => ?_, fun i x hx h => ((hall i x hx).1 h).1⟩
      obtain rfl := Option.some.inj (hu.symm.trans hx)
      exact hwhere
  | false =>
    have hnone {i : Nat} {u : Token} (hu : ts[i]? = some u) : ¬ u.isWhere = true :=
      List.any_eq_false.mp hany u (List.mem_of_getElem? hu)
    rw [if_neg Bool.false_ne_true, findIdx_eq_iff hle]
    constructor
    · rintro ⟨-, hbefore⟩ i u hu
      exact ⟨fun h => absurd h (hnone hu), fun h => .inl (hbefore i u hu h)⟩
    · refine fun hall => ⟨fun x hx => ?_, fun i x hx h => ?_⟩
      · have hclause := (isClause_of_clausePlace hlen hkept hx).1
        exact (Bool.or_eq_true_iff.mp hclause).resolve_left (hnone hx)
      · refine ((hall i x hx).2 h).resolve_right fun hwhere => ?_
        obtain ⟨u, hu, hu'⟩ := hbegins hwhere
        exact hnone hu hu'

theorem isClause_eq_false_of_isAlias {t : Token} (h : isAlias t = true) : t.isClause = false := by
  have hkeywords : ∀ k ∈ "where" :: trailingClauses, k ∈ clauseKeywords := by
    decide
  rw [isAlias, Bool.and_eq_true, Bool.not_eq_true', List.any_eq_false] at h
  refine Bool.eq_false_iff.mpr fun hclause => ?_
  obtain ⟨k, hk, halike⟩ := Token.isClause_iff.mp hclause
  exact h.2 k (hkeywords k hk) halike

theorem isClause_eq_false_of_as {t : Token} (h : alike t "as".toList = true) :
    t.isClause = false := by
  have hkeywords : ∀ k ∈ "where" :: trailingClauses, alike "as".toList k.toList = false := by
    decide
  refine Bool.eq_false_iff.mpr fun hclause => ?_
  obtain ⟨k, hk, halike⟩ := Token.isClause_iff.mp hclause
  rw [alike_comm] at h
  have has := alike_trans h halike
  rw [hkeywords k hk] at has
  cases has

/-- The tokens behind the entity name. -/
def behind (p : QueryPlan) (ts : List Token) : List Token :=
  ts.drop (p.entitySlot + 1)

/-- The first clause comes after the alias. -/
theorem lt_clausePlace_of_findAlias {ws : List Token} {slot i : Nat} {a : Token}
    (h : findAlias ws slot = (some a, some i)) :
    i < slot + 1 + clausePlace (ws.drop (slot + 1)) := by
  have hne {n : Nat} {t : Token} (ht : ws[slot + 1 + n]? = some t) (hclause : t.isClause = false) :
      clausePlace (ws.drop (slot + 1)) ≠ n := by
    rintro rfl
    rw [← List.getElem?_drop] at ht
    have hplace : t.isClause = true := List.findIdx_of_getElem?_eq_some ht
    rw [hclause] at hplace
    cases hplace
  unfold findAlias at h
  split at h
  · cases h
  · rename_i t ht
    split at h
    · rename_i has
      obtain ⟨hname, rfl⟩ : (ws[slot + 2]?).filter isAlias = some a ∧ slot + 2 = i := by
        simpa using h
      obtain ⟨hat, halias⟩ := Option.filter_eq_some_iff.mp hname
      have hzero := hne (n := 0) ht (isClause_eq_false_of_as has)
      have hone := hne (n := 1) hat (isClause_eq_false_of_isAlias halias)
      omega
    · split at h
      · rename_i halias
        cases h
        have hzero := hne (n := 0) ht (isClause_eq_false_of_isAlias halias)
        omega
      · cases h

end QueryPlan

namespace EntityQuery

variable {schema : Schema} {strict : Bool} {root : EntityDescriptor} {q : EntityQuery}
  {j k : Journal} {c : CompiledQuery}

/-- The joins are in front of what stands for the word at a place behind the entity name. -/
def Translation.JoinsAt (t : Translation schema strict root q j c) (n : Nat) : Prop :=
  c.tokens = t.stated.take 1 ++ ['*'] ::
    ((t.stated.take (t.plan.entitySlot + 1 + n)).drop (t.plan.entitySlot - 1) ++ t.joins ++
      t.stated.drop (t.plan.entitySlot + 1 + n))

/-- The place of the joins of a SELECT. -/
def Translation.joinOffset (t : Translation schema strict root q j c) : Nat :=
  QueryPlan.joinOffset (t.plan.behind t.stated)

/-- The place of the first clause of the query. -/
def Translation.clausePlace (t : Translation schema strict root q j c) : Nat :=
  QueryPlan.clausePlace (t.plan.behind q.words)

/-- The joins are in front of the first clause of the query, and all its clauses are kept. -/
structure Translation.JoinsBeforeClauses (t : Translation schema strict root q j c) : Prop where
  kept : ∀ (i : Nat) (w : Token), (t.plan.behind q.words)[i]? = some w → w.isClause = true →
    (t.plan.behind t.stated)[i]? = some w
  place : t.joinOffset = t.clausePlace

section Trailed

variable {t : Translation schema strict root q j c} (ht : Trail t k)

include ht

theorem Trail.joinsAt (hkind : t.plan.kind = .select) : t.JoinsAt t.joinOffset := by
  have hpos := (planned_of_ofQuery t.planned).slot_pos
  have hslot : t.plan.entitySlot + 1 ≤ t.stated.length := by
    rw [ht.length_stated]
    exact (planned_of_ofQuery t.planned).slot_lt
  have hplace : t.plan.entitySlot + 1 + t.joinOffset ≤ t.stated.length := by
    have hoffset := QueryPlan.joinOffset_le (t.plan.behind t.stated)
    rw [QueryPlan.behind, List.length_drop] at hoffset
    unfold Translation.joinOffset QueryPlan.behind
    omega
  have htokens : c.tokens = QueryPlan.widen t.plan.entitySlot
      (t.stated.take (t.plan.entitySlot + 1 + t.joinOffset) ++ t.joins ++
        t.stated.drop (t.plan.entitySlot + 1 + t.joinOffset)) := by
    rw [t.tokens, QueryPlan.assemble, if_pos hkind]
    rfl
  have hsize : (t.stated.take (t.plan.entitySlot + 1 + t.joinOffset)).length =
      t.plan.entitySlot + 1 + t.joinOffset := by
    rw [List.length_take, Nat.min_eq_left hplace]
  rw [Translation.JoinsAt, htokens, QueryPlan.widen, List.append_assoc,
    List.take_append_of_le_length (by omega), List.take_take, Nat.min_eq_left (by omega),
    List.drop_append_of_le_length (by omega), List.append_assoc]

/-- The keyword of a clause is kept unless it is the name of a field with another column. -/
theorem Trail.stated_iff_of_isClause {i : Nat} {w : Token} (hw : q.words[i]? = some w)
    (hi : t.plan.entitySlot < i) (hclause : w.isClause = true) :
    t.stated[i]? = some w ↔ t.plan.aliasSlot = some i ∨ t.scope.recolumns w = false := by
  obtain ⟨hwords, hparts, hsegments⟩ := Token.cut_of_isClause hclause
  have hlt : i < t.stated.length := by
    rw [ht.length_stated]
    exact (List.getElem?_eq_some_iff.mp hw).1
  have hu := List.getElem?_eq_getElem hlt
  have hstands := ht.standsFor hw hu
  rw [hwords] at hstands
  rw [hu, Option.some.injEq]
  generalize t.stated[i] = u at hstands
  have hfree (h : t.plan.isFixed i = false) : ¬ t.plan.aliasSlot = some i := fun halias => by
    rw [QueryPlan.isFixed_iff.mpr (.inl (.inr halias))] at h
    cases h
  cases hstands with
  | table h => omega
  | fixed _ hfixed => exact iff_of_true rfl (.inl (hfixed.resolve_left (by omega)))
  | punctuation _ hcore =>
    rw [hparts] at hcore
    subst hcore
    cases hclause
  | text _ _ hpath =>
    rw [hparts, hsegments] at hpath
    have hnone : t.scope.column? w = none := Except.ok.inj hpath
    exact iff_of_true rfl (.inr (by rw [QueryScope.recolumns, hnone]; rfl))
  | @column hfixed _ path hpath =>
    rw [hparts, hsegments] at hpath
    have hsome : t.scope.column? w = some path := Except.ok.inj hpath
    rw [Token.withCore, hparts, List.nil_append, List.append_nil, or_iff_right (hfree hfixed),
      QueryScope.recolumns, hsome]
    simp

end Trailed

/-- The joins of a SELECT come before the first clause of its query, and all clauses are kept,
exactly if no clause has the name of a field with another column, and the search for the place of
the joins ends at the first clause. It ends at a condition, wherever that stands among the tokens,
and at another clause only if there is no condition. -/
theorem joins_before_clauses_iff (h : q.compile schema strict root j = (.ok c, k)) :
    ∃ t : Translation schema strict root q j c, k.registry.find? root.path = some t.mapping ∧
      (t.plan.kind = .select → t.JoinsAt t.joinOffset ∧
        t.joins.length = t.mapping.references.length ∧
        ∀ n r, t.mapping.references[n]? = some r → ∃ target,
          k.registry.find? r.target.path = some target ∧
            t.joins[n]? = some (QueryPlan.joinClause t.plan.rootAlias target n r)) ∧
      (∀ a i, t.plan.rootAlias = some a → t.plan.aliasSlot = some i →
        i < t.plan.entitySlot + 1 + t.clausePlace) ∧
      (t.JoinsBeforeClauses ↔
        (∀ (i : Nat) (w : Token), (t.plan.behind q.words)[i]? = some w → w.isClause = true →
          t.plan.aliasSlot = some (t.plan.entitySlot + 1 + i) ∨ t.scope.recolumns w = false) ∧
        ∀ (i : Nat) (u : Token), (t.plan.behind t.stated)[i]? = some u →
          (u.isWhere = true → t.clausePlace ≤ i ∧
            QueryPlan.BeginsWithWhere (t.plan.behind q.words)) ∧
          (u.isTrailing = true → t.clausePlace ≤ i ∨
            QueryPlan.BeginsWithWhere (t.plan.behind q.words))) := by
  obtain ⟨t, ht⟩ := exists_translation h
  have hname := (found_of_ofQuery t.planned).name
  refine ⟨t, ht.mapped, fun hkind => ⟨ht.joinsAt hkind, ht.getElem?_joins hkind⟩,
    fun a i ha hi => ?_, ?_⟩
  · rw [ha, hi] at hname
    exact QueryPlan.lt_clausePlace_of_findAlias hname
  · have hkept (i : Nat) (w : Token) (hw : (t.plan.behind q.words)[i]? = some w)
        (hclause : w.isClause = true) : (t.plan.behind t.stated)[i]? = some w ↔
          t.plan.aliasSlot = some (t.plan.entitySlot + 1 + i) ∨ t.scope.recolumns w = false := by
      rw [QueryPlan.behind, List.getElem?_drop] at hw ⊢
      exact ht.stated_iff_of_isClause hw (by omega) hclause
    have hlen : (t.plan.behind t.stated).length = (t.plan.behind q.words).length := by
      rw [QueryPlan.behind, List.length_drop, ht.length_stated, QueryPlan.behind, List.length_drop]
    constructor
    · rintro ⟨hall, hplace⟩
      exact ⟨fun i w hw hclause => (hkept i w hw hclause).mp (hall i w hw hclause),
        (QueryPlan.joinOffset_eq_clausePlace_iff hlen hall).mp hplace⟩
    · rintro ⟨hnames, hplace⟩
      have hall (i : Nat) (w : Token) (hw : (t.plan.behind q.words)[i]? = some w)
          (hclause : w.isClause = true) : (t.plan.behind t.stated)[i]? = some w :=
        (hkept i w hw hclause).mpr (hnames i w hw hclause)
      exact ⟨hall, (QueryPlan.joinOffset_eq_clausePlace_iff hlen hall).mpr hplace⟩

end EntityQuery

namespace SampleJoinPlaces

open SelectedParameter (person)

def task : EntityDescriptor where
  path := "Task"
  name := "Task"
  table := some "tasks"
  fields := [{ name := "id", isId := true },
    { name := "owner", relation := some .manyToOne, joinColumn := some "owner_id",
      target := some 1 }]

/-- All tasks, the ones that were logged last at the end. -/
def query : EntityQuery where
  text := "select t from Task t order by (select max(at) from logs where task_id = t.id)"

/-- The table of the owner is joined to the logs. -/
def compiled : CompiledQuery where
  tokens := ["select", "*", "from", "tasks", "t", "order", "by", "(select", "max(at)", "from",
    "logs", "left join persons join_0 on join_0.id = t.owner_id", "where", "task_id", "=",
    "t.id)"].map String.toList
  params := []

def plan : QueryPlan where
  source := query.text
  kind := .select
  tokens := query.words
  entitySlot := 3
  rootAlias := some ['t']
  aliasSlot := some 4
  params := []

/-- The query has a condition behind its first clause. -/
theorem joins_before_clauses_iff_tasks :
    query.compile [task, person] true task {} =
        (.ok compiled, (query.compile [task, person] true task {}).2) ∧
      ∃ t : EntityQuery.Translation [task, person] true task query {} compiled,
        t.JoinsAt t.joinOffset ∧ t.clausePlace = 1 ∧ ¬ t.JoinsBeforeClauses := by
  have hcompile : query.compile [task, person] true task {} =
    (.ok compiled, (query.compile [task, person] true task {}).2) := rfl
  obtain ⟨t, -, hselect, -, hiff⟩ := EntityQuery.joins_before_clauses_iff hcompile
  have hplan : t.plan = plan := t.plan_eq rfl
  refine ⟨hcompile, t, (hselect (by rw [hplan]; rfl)).1, ?_, fun hjoins => ?_⟩
  · rw [EntityQuery.Translation.clausePlace, hplan]
    decide
  · have hwhere := hjoins.kept 7 "where".toList (by rw [hplan]; decide) (by decide)
    have hbegins := (((hiff.mp hjoins).2 7 _ hwhere).1 rfl).2
    rw [hplan] at hbegins
    revert hbegins
    decide

end SampleJoinPlaces

end EntityMapper
