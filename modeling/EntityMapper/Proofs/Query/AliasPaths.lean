import EntityMapper.Proofs.Query.Cutting
import EntityMapper.Proofs.Query.Places
import EntityMapper.Proofs.Query.Stages
import EntityMapper.Proofs.Query.Words
/-! Paths over the alias of a query: a strict translation puts columns for all of them, and it joins
the table of every column that is not one of the root entity. -/

namespace EntityMapper

open Text

/-- What a path over an alias becomes, by the segments behind the alias: a column of the root entity
under the alias, or a column of the table that is joined for one of its references. What holds of
that table is a parameter. -/
inductive AliasColumn (m : Metadata) (k : Journal) (a : Token)
    (Joined : Nat → ReferenceMapping → Metadata → Prop) : List Token → Token → Prop
  | column {c : ColumnMapping} {field : Token} (mapped : c ∈ m.columns)
      (fits : alike c.field.toList field = true) :
    AliasColumn m k a Joined [field] (a ++ '.' :: c.column.toList)
  | joinColumn {r : ReferenceMapping} {field : Token} (mapped : r ∈ m.references)
      (fits : alike r.field.toList field = true) :
    AliasColumn m k a Joined [field] (a ++ '.' :: r.joinColumn.toList)
  /-- The identifier of a referenced entity is in the join column. -/
  | identifier {r : ReferenceMapping} {target : Metadata} {relation field : Token}
      (mapped : r ∈ m.references) (fits : r.Fits relation)
      (known : k.registry.find? r.target.path = some target)
      (isId : alike field target.id.field.toList = true ∨
        alike field target.id.column.toList = true) :
    AliasColumn m k a Joined [relation, field] (a ++ '.' :: r.joinColumn.toList)
  | joined {n : Nat} {r : ReferenceMapping} {target : Metadata} {c : ColumnMapping}
      {relation field : Token} (mapped : m.references[n]? = some r) (fits : r.Fits relation)
      (known : k.registry.find? r.target.path = some target) (column : c ∈ target.columns)
      (named : alike c.field.toList field = true) (table : Joined n r target) :
    AliasColumn m k a Joined [relation, field]
      (QueryScope.joinAlias n ++ '.' :: c.column.toList)

namespace AliasColumn

variable {m : Metadata} {k l : Journal} {a : Token}
  {Joined Joined' : Nat → ReferenceMapping → Metadata → Prop} {segments : List Token} {path : Token}

/-- Mappings that are known stay known, and more may be said of the joined tables. -/
theorem imp (h : AliasColumn m k a Joined segments path) (hg : k.Grows l)
    (hj : ∀ n r target, m.references[n]? = some r →
      k.registry.find? r.target.path = some target → Joined n r target → Joined' n r target) :
    AliasColumn m l a Joined' segments path := by
  cases h with
  | column mapped fits => exact .column mapped fits
  | joinColumn mapped fits => exact .joinColumn mapped fits
  | identifier mapped fits known isId => exact .identifier mapped fits (hg _ _ known) isId
  | joined mapped fits known column named table =>
    exact .joined mapped fits (hg _ _ known) column named (hj _ _ _ mapped known table)

end AliasColumn

theorem Journal.meets_resolve_known (schema : Schema) (d : EntityDescriptor) :
    Meets (fun _ => True) (Journal.resolve schema d)
      (fun m k => k.registry.find? d.path = some m) (fun _ => True) := by
  intro j _
  rcases hr : Journal.resolve schema d j with ⟨e | m, k⟩
  · trivial
  · exact Journal.find?_resolve hr

namespace QueryScope

variable {s : QueryScope} {k : Journal} {a : Token}

theorem aliasColumn_of_column {Joined : Nat → ReferenceMapping → Metadata → Prop}
    {field column : Token} (h : s.column? field = some column) :
    AliasColumn s.root k a Joined [field] (a ++ '.' :: column) := by
  unfold column? at h
  split at h
  · rename_i c hc
    cases h
    obtain ⟨hmem, hfits⟩ := Metadata.of_columnAlike hc
    exact .column hmem hfits
  · obtain ⟨r, hr, rfl⟩ := Option.map_eq_some_iff.mp h
    have hfits := List.find?_some (p := fun r : ReferenceMapping => alike r.field.toList field) hr
    exact .joinColumn (List.mem_of_find?_eq_some hr) hfits

/-- What may be said of the tables that a scope lets paths lead to: the statement joins tables. -/
def Joins (s : QueryScope) : Nat → ReferenceMapping → Metadata → Prop :=
  fun _ _ _ => s.kind = .select

theorem meets_navigate_alias {relation : Token} {n : Nat} {r : ReferenceMapping}
    (hr : s.root.referenceAlike? relation = some (n, r)) (field : Token) :
    Meets (fun _ => True) (s.navigate (some a) n r field)
      (fun path k => AliasColumn s.root k a s.Joins [relation, field] path) (fun _ => True) := by
  obtain ⟨hmapped, hfits⟩ := Metadata.of_referenceAlike hr
  refine (Journal.meets_resolve_known s.schema r.target).bind fun target => ?_
  split
  · rename_i hid
    exact .pure fun k hknown =>
      .identifier (List.mem_of_getElem? hmapped) hfits hknown (Bool.or_eq_true_iff.mp hid)
  · split
    · exact .throw fun _ _ => trivial
    · rename_i c hc
      obtain ⟨hcolumn, hnamed⟩ := Metadata.of_columnAlike hc
      split
      · rename_i hkind
        exact .pure fun k hknown => .joined hmapped hfits hknown hcolumn hnamed hkind
      · exact .throw fun _ _ => trivial

/-- In a strict scope every path over the alias becomes a column, or else is refused. -/
theorem meets_resolvePath_alias (hs : s.strict = true) (ha : s.rootAlias = some a) (core : Token)
    {rest : List Token} (hrest : rest ≠ []) :
    Meets (fun _ => True) (s.resolvePath core (a :: rest))
      (fun found k => ∃ path, found = some path ∧ AliasColumn s.root k a s.Joins rest path)
      (fun _ => True) := by
  have hunknown : Meets (fun _ => True) (s.unknownPath core)
      (fun found k => ∃ path, found = some path ∧ AliasColumn s.root k a s.Joins rest path)
      (fun _ => True) := by
    rw [unknownPath, if_pos hs]
    exact .throw fun _ _ => trivial
  rcases rest with _ | ⟨field, _ | ⟨last, _ | ⟨further, rest⟩⟩⟩
  · exact absurd rfl hrest
  · rw [resolvePath, if_pos ha.symm]
    split
    · rename_i column hcolumn
      exact .pure fun _ _ => ⟨_, rfl, aliasColumn_of_column hcolumn⟩
    · exact hunknown
  · rw [resolvePath, if_pos ha.symm]
    split
    · rename_i n r hr
      exact (meets_navigate_alias hr last).bind fun path => .pure fun _ h => ⟨path, rfl, h⟩
    · exact hunknown
  · simp only [resolvePath]
    rw [if_pos (by simp [hs, ha])]
    exact .throw fun _ _ => trivial

theorem meets_resolveToken_alias (hs : s.strict = true) (ha : s.rootAlias = some a) {t : Token}
    {rest : List Token} (hrest : rest ≠ []) (hpath : t.parts.core.segments = a :: rest) :
    Meets (fun _ => True) (s.resolveToken t)
      (fun u k => ∃ path, u = t.withCore path ∧ AliasColumn s.root k a s.Joins rest path)
      (fun _ => True) := by
  unfold resolveToken
  simp only [hpath]
  split
  · rename_i hempty
    rw [List.isEmpty_iff.mp hempty, Token.segments] at hpath
    cases hpath
    exact absurd rfl hrest
  · refine (meets_resolvePath_alias hs ha _ hrest).bind fun found => ?_
    cases found with
    | none =>
      refine .pure fun _ h => ?_
      obtain ⟨path, hnone, -⟩ := h
      cases hnone
    | some column =>
      refine .pure fun _ h => ?_
      obtain ⟨path, hsome, hpath⟩ := h
      cases hsome
      exact ⟨column, rfl, hpath⟩

end QueryScope

namespace QueryPlan

variable {p : QueryPlan} {s : QueryScope}

theorem resolveFrom_cons (i : Nat) (t : Token) (rest : List Token) :
    p.resolveFrom s i (t :: rest) =
      (if p.isFixed i then pure t else s.resolveToken t) >>= fun u => do
        let us ← p.resolveFrom s (i + 1) rest
        return u :: us := by
  rw [resolveFrom]
  split <;> rfl

/-- Each token that does not always stay is resolved by itself. -/
theorem exists_of_resolveFrom {i : Nat} {ts us : List Token} {j k : Journal}
    (h : p.resolveFrom s i ts j = (.ok us, k)) {n : Nat} {t : Token} (ht : ts[n]? = some t)
    (hfree : p.isFixed (i + n) = false) :
    ∃ u l l', us[n]? = some u ∧ s.resolveToken t l = (.ok u, l') ∧ l'.Grows k := by
  induction ts generalizing i n j us with
  | nil => cases ht
  | cons v rest ih =>
    rw [resolveFrom_cons] at h
    obtain ⟨u, j₁, hu, h⟩ := exists_of_bind h
    obtain ⟨us', j₂, hrest, h⟩ := exists_of_bind h
    cases h
    cases n with
    | zero =>
      cases ht
      rw [if_neg (by simpa using hfree)] at hu
      have hgrows := (p.steady_resolveFrom s (i + 1) rest j₁).final (.refl j₁)
      rw [hrest] at hgrows
      exact ⟨u, j, j₁, rfl, hu, hgrows⟩
    | succ n => exact ih hrest ht (by rwa [Nat.add_assoc, Nat.add_comm 1])

/-- Each reference has its own clause, in order, which joins the table of its target. -/
theorem exists_of_joinClauses {schema : Schema} {rootAlias : Option Token} {ordinal : Nat}
    {rs : List ReferenceMapping} {clauses : List Token} {j k : Journal}
    (h : joinClauses schema rootAlias ordinal rs j = (.ok clauses, k)) :
    clauses.length = rs.length ∧ ∀ n r, rs[n]? = some r → ∃ target,
      k.registry.find? r.target.path = some target ∧
        clauses[n]? = some (joinClause rootAlias target (ordinal + n) r) := by
  induction rs generalizing ordinal j clauses with
  | nil =>
    cases h
    exact ⟨rfl, fun n r hr => by cases hr⟩
  | cons v rest ih =>
    obtain ⟨target, j₁, htarget, h⟩ := exists_of_bind h
    obtain ⟨others, j₂, hrest, h⟩ := exists_of_bind h
    cases h
    obtain ⟨hlen, hall⟩ := ih hrest
    refine ⟨by simp [hlen], fun n r hr => ?_⟩
    cases n with
    | zero =>
      cases hr
      have hgrows := (steady_joinClauses schema rootAlias (ordinal + 1) rest j₁).final (.refl j₁)
      rw [hrest] at hgrows
      exact ⟨target, hgrows _ _ (Journal.find?_resolve htarget), rfl⟩
    | succ n =>
      obtain ⟨found, hknown, hclause⟩ := hall n r hr
      rw [Nat.add_assoc, Nat.add_comm 1] at hclause
      exact ⟨found, hknown, hclause⟩

theorem joinClause_some (a : Token) (target : Metadata) (n : Nat) (r : ReferenceMapping) :
    joinClause (some a) target n r =
      "left join ".toList ++ target.table.toList ++ ' ' :: QueryScope.joinAlias n ++
        " on ".toList ++ QueryScope.joinAlias n ++ '.' :: target.id.column.toList ++
        " = ".toList ++ a ++ '.' :: r.joinColumn.toList := by
  unfold joinClause
  simp only [Option.map_some, Option.getD_some, List.append_assoc, List.cons_append,
    List.nil_append]

theorem isAlias_of_findAlias {ws : List Token} {slot : Nat} {a : Token}
    (h : (findAlias ws slot).1 = some a) : isAlias a = true := by
  unfold findAlias at h
  split at h
  · cases h
  · split at h
    · exact (Option.filter_eq_some_iff.mp h).2
    · split at h
      · rename_i halias
        cases h
        exact halias
      · cases h

theorem not_mem_of_ofKeyword {t : Token} {kind : QueryKind}
    (h : QueryKind.ofKeyword? t = some kind) : '.' ∉ t := by
  unfold QueryKind.ofKeyword? at h
  have hdot {keyword : Token} (hk : '.' ∉ keyword) (ht : alike t keyword = true) : '.' ∉ t :=
    not_mem_of_alike (by decide) (by decide) hk (by rwa [alike_comm])
  repeat' split at h
  all_goals
    rename_i halike
    first | exact hdot (by decide) halike | cases h

/-- Whether a translation puts columns for paths at a position, and the statement keeps what stands
there: not in what a SELECT selects, and not for the entity name and its alias. -/
def Translates (p : QueryPlan) (i : Nat) : Prop :=
  p.entitySlot ≠ i ∧ p.aliasSlot ≠ some i ∧ ¬ (p.kind = .select ∧ 0 < i ∧ i + 1 < p.entitySlot)

instance (p : QueryPlan) (i : Nat) : Decidable (p.Translates i) :=
  inferInstanceAs (Decidable (_ ∧ _))

end QueryPlan

/-- Whether a statement is a SELECT that joins the table of a reference of the root entity. -/
def CompiledQuery.JoinsTable (c : CompiledQuery) (kind : QueryKind) (a : Token) (n : Nat)
    (r : ReferenceMapping) (target : Metadata) : Prop :=
  kind = .select ∧
    "left join ".toList ++ target.table.toList ++ ' ' :: QueryScope.joinAlias n ++ " on ".toList ++
      QueryScope.joinAlias n ++ '.' :: target.id.column.toList ++ " = ".toList ++ a ++
      '.' :: r.joinColumn.toList <:+: c.sql.toList

namespace EntityQuery

variable {schema : Schema} {strict : Bool} {root : EntityDescriptor} {q : EntityQuery}
  {j k : Journal} {c : CompiledQuery}

/-- The position in the statement of a word of the query. -/
def Translation.place (t : Translation schema strict root q j c) (i : Nat) : Nat :=
  t.plan.place t.mapping.table.toList t.joins t.resolved i

/-- Neither keyword that every query has is a path. -/
theorem translates_path {p : QueryPlan} (hp : QueryPlan.ofQuery q = .ok p) {i : Nat} {w : Token}
    (hw : q.words[i]? = some w) (hdot : '.' ∈ w) : i ≠ 0 ∧ i + 1 ≠ p.entitySlot := by
  obtain ⟨⟨first, hfirst, hkind⟩, hslot, -, -⟩ := found_of_ofQuery hp
  constructor
  · rintro rfl
    rw [hfirst] at hw
    cases hw
    exact QueryPlan.not_mem_of_ofKeyword hkind hdot
  · intro heq
    obtain ⟨-, n, hn, hlt, halike⟩ := QueryPlan.of_findEntitySlot hslot
    obtain rfl : i = n := by omega
    obtain rfl := Option.some.inj ((List.getElem?_eq_getElem hlt).symm.trans hw)
    have hkeyword : '.' ∉ p.kind.entityKeyword.toList := by
      cases p.kind <;> decide
    rw [alike_comm] at halike
    exact not_mem_of_alike (by decide) (by decide) hkeyword halike hdot

/-- A SELECT has a clause for each reference, in order, which joins the table of its target. -/
theorem Trail.getElem?_joins {t : Translation schema strict root q j c} (ht : Trail t k)
    (hkind : t.plan.kind = .select) :
    t.joins.length = t.mapping.references.length ∧
      ∀ n r, t.mapping.references[n]? = some r → ∃ target,
        k.registry.find? r.target.path = some target ∧
          t.joins[n]? = some (QueryPlan.joinClause t.plan.rootAlias target n r) := by
  obtain ⟨i, l, hjoins, hgrows⟩ := ht.joined
  rw [QueryPlan.joins, if_pos hkind] at hjoins
  obtain ⟨hsize, hall⟩ := QueryPlan.exists_of_joinClauses hjoins
  refine ⟨hsize, fun n r hr => ?_⟩
  obtain ⟨target, hknown, hclause⟩ := hall n r hr
  exact ⟨target, hgrows _ _ hknown, by simpa using hclause⟩

theorem joinsTable_of_joins {t : Translation schema strict root q j c} (ht : Trail t k)
    (hkind : t.plan.kind = .select) (hslot : t.plan.entitySlot ≤ t.resolved.length) {a : Token}
    (ha : t.plan.rootAlias = some a) {n : Nat} {r : ReferenceMapping}
    (hr : t.mapping.references[n]? = some r) {target : Metadata}
    (hknown : k.registry.find? r.target.path = some target) :
    c.JoinsTable t.plan.kind a n r target := by
  obtain ⟨found, hfound, hplace⟩ := (ht.getElem?_joins hkind).2 n r hr
  obtain rfl := Option.some.inj (hfound.symm.trans hknown)
  have hclause : QueryPlan.joinClause t.plan.rootAlias found n r ∈ c.tokens := by
    rw [t.tokens]
    exact (QueryPlan.joins_isInfix_assemble hkind hslot).subset (List.mem_of_getElem? hplace)
  obtain ⟨before, after, hsplit⟩ := List.append_of_mem hclause
  have htext : List.intercalate [' '] [QueryPlan.joinClause t.plan.rootAlias found n r] <:+:
      c.sql.toList := by
    rw [CompiledQuery.sql, String.toList_ofList]
    exact intercalate_isInfix ⟨before, after, by simp [hsplit]⟩
  rw [List.intercalate_singleton, ha, QueryPlan.joinClause_some] at htext
  exact ⟨hkind, htext⟩

/-- A strict translation puts a column in the place of every path over the alias: a column of the
root entity under the alias, or a column of a table that it joins for a reference. -/
theorem alias_paths_become_columns (h : q.compile schema true root j = (.ok c, k)) :
    ∃ t : Translation schema true root q j c, k.registry.find? root.path = some t.mapping ∧
      ∀ a, t.plan.rootAlias = some a → ∀ i w rest, q.words[i]? = some w → t.plan.Translates i →
        w.parts.core.segments = a :: rest → rest ≠ [] →
        ∃ path, c.tokens[t.place i]? = some (w.withCore path) ∧
          AliasColumn t.mapping k a (c.JoinsTable t.plan.kind a) (rest.map Token.withPlaces)
            path := by
  obtain ⟨t, ht⟩ := exists_translation h
  refine ⟨t, ht.mapped, fun a ha i w rest hw htranslates hpath hrest => ?_⟩
  have hp := planned_of_ofQuery t.planned
  have hname : isAlias a = true := by
    have hfound := (found_of_ofQuery t.planned).name
    exact QueryPlan.isAlias_of_findAlias (by rw [hfound]; exact ha)
  obtain ⟨hfirst, hkeyword⟩ := translates_path t.planned hw (Token.mem_of_segments hrest hpath)
  obtain ⟨hslot, haliasSlot, hselect⟩ := htranslates
  -- The token of the plan is the word with places, and has the same punctuation and segments.
  have htoken : t.plan.tokens[i]? = some w.withPlaces := by
    rw [hp.tokens, List.getElem?_map, hw]
    rfl
  have hplaced : w.withPlaces.parts.core.segments = a :: rest.map Token.withPlaces := by
    rw [Token.parts_withPlaces, Token.segments_withPlaces, hpath, List.map_cons,
      Token.withPlaces_of_isName (Bool.and_eq_true_iff.mp hname).1]
  have hfree : t.plan.isFixed (0 + i) = false := by
    simp [QueryPlan.isFixed, hfirst, Ne.symm hslot, Ne.symm haliasSlot]
  obtain ⟨i₀, l, hrewritten, hgrows⟩ := ht.rewritten
  obtain ⟨u, l₁, l₂, hu, hresolved, hgrows'⟩ :=
    QueryPlan.exists_of_resolveFrom hrewritten htoken hfree
  obtain ⟨path, rfl, hcolumn⟩ := (QueryScope.meets_resolveToken_alias rfl ha
    (by simpa using hrest) hplaced).ok trivial hresolved
  have hlt : i < t.resolved.length := (List.getElem?_eq_some_iff.mp hu).1
  have hkept (hkind : t.plan.kind = .select) : t.plan.entitySlot ≤ i + 1 := by
    have hnot : ¬ i + 1 < t.plan.entitySlot := fun hlt' =>
      hselect ⟨hkind, Nat.pos_of_ne_zero hfirst, hlt'⟩
    omega
  refine ⟨path, ?_, ?_⟩
  · rw [t.tokens, Translation.place, QueryPlan.getElem?_assemble hp.slot_pos hlt hkept,
      QueryPlan.stated, List.getElem?_set_ne hslot, hu]
    simp [Token.withCore, Token.parts_withPlaces]
  · refine hcolumn.imp (hgrows'.trans hgrows) fun n r target hr hknown hkind => ?_
    have := hkept hkind
    exact joinsTable_of_joins ht hkind (by omega) ha hr (hgrows _ _ (hgrows' _ _ hknown))

end EntityQuery

namespace SampleAliasPaths

def book : EntityDescriptor where
  path := "Book"
  name := "Book"
  table := some "books"
  fields := [{ name := "id", isId := true }]

def reader : EntityDescriptor where
  path := "Reader"
  name := "Reader"
  table := some "readers"
  fields := [{ name := "id", column := some "reader_no", isId := true },
    { name := "name", column := some "full_name" }]

def loan : EntityDescriptor where
  path := "Loan"
  name := "Loan"
  table := some "loans"
  fields := [{ name := "id", isId := true },
    { name := "book", relation := some .manyToOne, joinColumn := some "book_id", target := some 1 },
    { name := "reader", relation := some .manyToOne, joinColumn := some "reader_id",
      target := some 2 }]

def query : EntityQuery where
  text := "select l from Loan l where (l.READER.Name = :name)"
  params := ⟨[("name", .text "Ada")]⟩

def compiled : CompiledQuery where
  tokens := ["select", "*", "from", "loans", "l",
    "left join books join_0 on join_0.id = l.book_id",
    "left join readers join_1 on join_1.reader_no = l.reader_id", "where", "(join_1.full_name",
    "=", "?)"].map String.toList
  params := [.text "Ada"]

def plan : QueryPlan where
  source := query.text
  kind := .select
  tokens := query.words.map Token.withPlaces
  entitySlot := 3
  rootAlias := some ['l']
  aliasSlot := some 4
  params := [.text "Ada"]

/-- The name of a reader is in a joined table. -/
theorem alias_paths_become_columns_reader :
    query.compile [loan, book, reader] true loan {} =
        (.ok compiled, (query.compile [loan, book, reader] true loan {}).2) ∧
      ∃ t : EntityQuery.Translation [loan, book, reader] true loan query {} compiled,
        ∃ path, compiled.tokens[t.place 6]? = some ('(' :: path) ∧
          AliasColumn t.mapping (query.compile [loan, book, reader] true loan {}).2 ['l']
            (compiled.JoinsTable .select ['l']) ["READER".toList, "Name".toList] path := by
  have hcompile : query.compile [loan, book, reader] true loan {} =
      (.ok compiled, (query.compile [loan, book, reader] true loan {}).2) := rfl
  obtain ⟨t, -, hall⟩ := EntityQuery.alias_paths_become_columns hcompile
  have hplan : t.plan = plan := t.plan_eq rfl
  rw [hplan] at hall
  obtain ⟨path, hpath, hcolumn⟩ := hall ['l'] rfl 6 "(l.READER.Name".toList
    ["READER".toList, "Name".toList] (by decide) (by decide) (by decide) (by decide)
  have hparts : Token.parts "(l.READER.Name".toList = ⟨['('], "l.READER.Name".toList, []⟩ := by
    decide
  have hplaces : ["READER".toList, "Name".toList].map Token.withPlaces =
      ["READER".toList, "Name".toList] := by
    decide
  rw [hplaces] at hcolumn
  refine ⟨hcompile, t, path, ?_, hcolumn⟩
  rw [hpath, Token.withCore, hparts]
  simp

end SampleAliasPaths

end EntityMapper
