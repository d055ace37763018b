import EntityMapper.Proofs.Entity.Validity
import EntityMapper.Proofs.Query.Punctuation
import Mathlib.Data.List.Pairwise
/-! Exact names: the fields that the names in a path name, and when a path over an alias becomes
their column. Names are compared without regard to case, and a reference answers to the name of its
target as well, so that a reference can hide one that is declared after it. -/

namespace EntityMapper

open Text

/-- Two names differ in more than the case of their letters. -/
def Unalike (a b : String) : Prop :=
  alike a.toList b.toList = false

instance : DecidableRel Unalike :=
  fun _ _ => inferInstanceAs (Decidable (_ = _))

theorem Unalike.symm {a b : String} (h : Unalike a b) : Unalike b a := by
  rwa [Unalike, alike_comm]

/-- No two names differ in the case of their letters only, and no name is there twice. -/
def NamesDiffer (names : List String) : Prop :=
  names.Pairwise Unalike

instance (names : List String) : Decidable (NamesDiffer names) :=
  inferInstanceAs (Decidable (names.Pairwise Unalike))

theorem NamesDiffer.eq_of_alike {α : Type} {name : α → String} {l : List α}
    (h : NamesDiffer (l.map name)) {x y : α} (hx : x ∈ l) (hy : y ∈ l)
    (halike : alike (name x).toList (name y).toList = true) : x = y := by
  have hsymm : Std.Symm fun x y => Unalike (name x) (name y) := ⟨fun _ _ => Unalike.symm⟩
  by_contra hne
  have hdiffer : Unalike (name x) (name y) := (List.pairwise_map.mp h).forall hx hy hne
  rw [Unalike, halike] at hdiffer
  cases hdiffer

namespace Metadata

variable {schema : Schema} {d : EntityDescriptor} {m : Metadata} {q r : ReferenceMapping}

theorem Lists.columns_differ (hl : m.Lists schema d) (hd : NamesDiffer (d.fields.map (·.name))) :
    NamesDiffer (m.columns.map (·.field)) := by
  have hnames := hl.columns.perm.map ColumnMapping.field
  rw [List.map_map] at hnames
  refine (hnames.pairwise_iff Unalike.symm).mpr ?_
  exact hd.sublist (List.filter_sublist.map FieldDescriptor.name)

theorem Lists.references_differ (hl : m.Lists schema d)
    (hd : NamesDiffer (d.fields.map (·.name))) : NamesDiffer (m.references.map (·.field)) := by
  have hnames : (d.fields.filter fun f => f.relation.any (·.isOwning)).map (·.name) =
      m.references.map (·.field) := by
    have hfields := hl.references
    generalize d.fields.filter (fun f => f.relation.any (·.isOwning)) = fs at hfields
    generalize m.references = rs at hfields
    induction hfields with
    | nil => rfl
    | cons hr _ ih => rw [List.map_cons, List.map_cons, ih, hr.1]
  rw [← hnames]
  exact hd.sublist (List.filter_sublist.map _)

/-- The first reference whose target has the name of a reference that is declared later. -/
def Shadows (m : Metadata) (q r : ReferenceMapping) : Prop :=
  ∃ before between after, m.references = before ++ q :: (between ++ r :: after) ∧
    alike q.target.name.toList r.field.toList = true ∧
    ∀ p ∈ before, alike p.target.name.toList r.field.toList = false

/-- A reference is found with its place if it is found at all. -/
theorem exists_referenceAlike {segment : Token} (h : (m.references.find? fun r =>
      alike r.field.toList segment || alike r.target.name.toList segment) = some r) :
    ∃ n, m.referenceAlike? segment = some (n, r) := by
  rw [← List.zipIdx_map_fst 0 m.references, List.find?_map] at h
  obtain ⟨⟨_, n⟩, hfound, rfl⟩ := Option.map_eq_some_iff.mp h
  exact ⟨n, Option.map_eq_some_iff.mpr ⟨_, hfound, rfl⟩⟩

/-- What is found under the exact name of a reference is that reference, or the one that shadows
it. -/
theorem exists_referenceAlike_of_mem (hdiffer : NamesDiffer (m.references.map (·.field)))
    (hr : r ∈ m.references) :
    ∃ n q, m.referenceAlike? r.field.toList = some (n, q) ∧ (q = r ∨ m.Shadows q r) := by
  obtain ⟨q, hq⟩ : ∃ q, m.references.find? (fun q =>
      alike q.field.toList r.field.toList || alike q.target.name.toList r.field.toList) = some q :=
    Option.isSome_iff_exists.mp (List.find?_isSome.mpr ⟨r, hr, by simp⟩)
  obtain ⟨n, hfound⟩ := exists_referenceAlike hq
  refine ⟨n, q, hfound, or_iff_not_imp_left.mpr fun hne => ?_⟩
  obtain ⟨hfits, before, after, hsplit, hbefore⟩ := List.find?_eq_some_iff_append.mp hq
  simp only [Bool.not_eq_eq_eq_not, Bool.not_true, Bool.or_eq_false_iff] at hbefore
  have hafter : r ∈ after := by
    rw [hsplit, List.mem_append, List.mem_cons] at hr
    rcases hr with hr | hr | hr
    · have hself := (hbefore r hr).1
      rw [alike_refl] at hself
      cases hself
    · exact absurd hr.symm hne
    · exact hr
  obtain ⟨between, after, rfl⟩ := List.append_of_mem hafter
  refine ⟨before, between, after, hsplit, ?_, fun p hp => (hbefore p hp).2⟩
  refine (Bool.or_eq_true_iff.mp hfits).resolve_left fun halike => hne ?_
  exact hdiffer.eq_of_alike (List.mem_of_find?_eq_some hq) hr halike

theorem Shadows.exists_referenceAlike (hdiffer : NamesDiffer (m.references.map (·.field)))
    (h : m.Shadows q r) : ∃ n, m.referenceAlike? r.field.toList = some (n, q) := by
  obtain ⟨before, between, after, hsplit, htarget, hbefore⟩ := h
  refine Metadata.exists_referenceAlike (List.find?_eq_some_iff_append.mpr
    ⟨by simp [htarget], before, _, hsplit, fun p hp => ?_⟩)
  rw [hsplit] at hdiffer
  have hfield : alike p.field.toList r.field.toList = false :=
    (List.pairwise_append.mp (List.pairwise_map.mp hdiffer)).2.2 p hp r (by simp)
  simp [hfield, hbefore p hp]

theorem Shadows.mem (h : m.Shadows q r) : r ∈ m.references := by
  obtain ⟨before, between, after, hsplit, -⟩ := h
  rw [hsplit]
  simp

/-- Whether a name is that of the identifier, as a field or as a column. -/
def NamesId (m : Metadata) (field : Token) : Prop :=
  alike field m.id.field.toList = true ∨ alike field m.id.column.toList = true

/-- The column that a path of exact names names: that of a plain field, or the join column of a
reference for the identifier of its target. -/
inductive ExactPath (m : Metadata) (schema : Schema) (j : Journal) : List Token → String → Prop
  | column {c : ColumnMapping} (mapped : c ∈ m.columns) :
    ExactPath m schema j [c.field.toList] c.column
  | identifier {r : ReferenceMapping} {target : Metadata} (mapped : r ∈ m.references)
      (known : (Journal.resolve schema r.target j).1 = .ok target) :
    ExactPath m schema j [r.field.toList, target.id.field.toList] r.joinColumn

end Metadata

/-- A reference has the same join column as another one, and the name of the other one's identifier
names its identifier too. -/
def ReferenceMapping.StandsInFor (schema : Schema) (j : Journal) (q r : ReferenceMapping) : Prop :=
  ∀ target, (Journal.resolve schema r.target j).1 = .ok target →
    q.joinColumn = r.joinColumn ∧ ∃ found, (Journal.resolve schema q.target j).1 = .ok found ∧
      found.NamesId target.id.field.toList

namespace QueryScope

variable {s : QueryScope} {a relation field core : Token} {j : Journal} {n : Nat}
  {r : ReferenceMapping} {target : Metadata}

theorem navigate_of_namesId (htarget : (Journal.resolve s.schema r.target j).1 = .ok target)
    (hid : target.NamesId field) :
    (s.navigate (some a) n r field j).1 = .ok (a ++ '.' :: r.joinColumn.toList) := by
  rcases hresolve : Journal.resolve s.schema r.target j with ⟨found, l⟩
  rw [hresolve] at htarget
  cases htarget
  rw [navigate, bind_apply, hresolve]
  dsimp only
  rw [if_pos (Bool.or_eq_true_iff.mpr hid)]
  rfl

/-- Outside of a SELECT only the identifier of a referenced entity has a column. -/
theorem of_navigate_outside (hkind : s.kind ≠ .select) {path : Token}
    (h : (s.navigate (some a) n r field j).1 = .ok path) :
    path = a ++ '.' :: r.joinColumn.toList ∧
      ∃ target, (Journal.resolve s.schema r.target j).1 = .ok target ∧ target.NamesId field := by
  rcases hnavigate : s.navigate (some a) n r field j with ⟨found, k⟩
  rw [hnavigate] at h
  obtain rfl : found = .ok path := h
  obtain ⟨target, l, htarget, hnavigate⟩ := exists_of_bind hnavigate
  rw [htarget]
  cases hid : alike field target.id.field.toList || alike field target.id.column.toList with
  | true =>
    rw [if_pos hid] at hnavigate
    cases hnavigate
    exact ⟨rfl, target, rfl, Bool.or_eq_true_iff.mp hid⟩
  | false =>
    rw [if_neg (by simp [hid])] at hnavigate
    cases hcolumn : target.columnAlike? field with
    | none =>
      rw [hcolumn] at hnavigate
      cases hnavigate
    | some c =>
      rw [hcolumn] at hnavigate
      dsimp only at hnavigate
      rw [if_neg hkind] at hnavigate
      cases hnavigate

variable (ha : s.rootAlias = some a)

include ha

theorem resolvePath_of_columnAlike {c : ColumnMapping}
    (hc : s.root.columnAlike? field = some c) :
    s.resolvePath core [a, field] = pure (some (a ++ '.' :: c.column.toList)) := by
  rw [resolvePath, if_pos ha.symm, column?, hc]

theorem resolvePath_of_referenceAlike (hr : s.root.referenceAlike? relation = some (n, r)) :
    s.resolvePath core [a, relation, field] = some <$> s.navigate (some a) n r field := by
  rw [resolvePath, if_pos ha.symm, hr]
  rfl

/-- A path of exact names becomes the column that it names, unless a reference shadows the one that
it names and does not stand in for it. -/
theorem resolvePath_of_exactPath {d : EntityDescriptor} (hl : s.root.Lists s.schema d)
    (hd : NamesDiffer (d.fields.map (·.name))) {rest : List Token} {column : String}
    (hexact : s.root.ExactPath s.schema j rest column)
    (hshadows : ∀ q r, s.root.Shadows q r → rest.head? = some r.field.toList →
      q.StandsInFor s.schema j r) :
    (s.resolvePath core (a :: rest) j).1 = .ok (some (a ++ '.' :: column.toList)) := by
  cases hexact with
  | @column c hc =>
    obtain ⟨found, hfound⟩ : ∃ found, s.root.columnAlike? c.field.toList = some found :=
      Option.isSome_iff_exists.mp (List.find?_isSome.mpr ⟨c, hc, alike_refl _⟩)
    obtain ⟨hmem, halike⟩ := Metadata.of_columnAlike hfound
    obtain rfl := (hl.columns_differ hd).eq_of_alike hmem hc halike
    rw [resolvePath_of_columnAlike ha hfound]
    rfl
  | @identifier r target hr htarget =>
    obtain ⟨n, q, hfound, hq⟩ := Metadata.exists_referenceAlike_of_mem (hl.references_differ hd) hr
    rw [resolvePath_of_referenceAlike ha hfound, map_apply]
    rcases hq with rfl | hq
    · rw [navigate_of_namesId htarget (.inl (alike_refl _))]
      rfl
    · obtain ⟨hjoin, found, hresolve, hid⟩ := hshadows q r hq rfl target htarget
      rw [navigate_of_namesId hresolve hid, hjoin]
      rfl

/-- Outside of a SELECT a reference that shadows another one has nothing to offer but its own join
column. -/
theorem standsInFor_of_resolvePath (hkind : s.kind ≠ .select)
    (hdiffer : NamesDiffer (s.root.references.map (·.field))) {q : ReferenceMapping}
    (hshadows : s.root.Shadows q r)
    (hpath : (s.resolvePath core [a, r.field.toList, field] j).1 =
      .ok (some (a ++ '.' :: r.joinColumn.toList))) :
    q.joinColumn = r.joinColumn ∧
      ∃ found, (Journal.resolve s.schema q.target j).1 = .ok found ∧ found.NamesId field := by
  obtain ⟨n, hfound⟩ := hshadows.exists_referenceAlike hdiffer
  rw [resolvePath_of_referenceAlike ha hfound, map_apply] at hpath
  cases hnavigate : (s.navigate (some a) n q field j).1 with
  | error e =>
    rw [hnavigate] at hpath
    cases hpath
  | ok path =>
    rw [hnavigate] at hpath
    obtain ⟨heq, hresolve⟩ := of_navigate_outside hkind hnavigate
    rw [Option.some.inj (Except.ok.inj hpath)] at heq
    have hjoin := (List.cons.inj (List.append_cancel_left heq)).2
    exact ⟨(String.toList_injective hjoin).symm, hresolve⟩

end QueryScope

/-- Every path of exact names over an alias becomes the column that it names, in statements of every
kind. -/
def Metadata.ResolvesExactNames (m : Metadata) (schema : Schema) (j : Journal) (a : Token) : Prop :=
  ∀ s : QueryScope, s.schema = schema → s.root = m → s.rootAlias = some a →
    ∀ core rest column, m.ExactPath schema j rest column →
      (s.resolvePath core (a :: rest) j).1 = .ok (some (a ++ '.' :: column.toList))

namespace EntityQuery

variable {schema : Schema} {d : EntityDescriptor} {m : Metadata} {strict : Bool} {q : EntityQuery}
  {a : Token} {j k : Journal} {c : CompiledQuery}

/-- The right column is put for a path of exact names, unless a reference shadows the one that it
names and does not stand in for it. -/
theorem Trail.getElem?_of_exactPath {t : Translation schema strict d q j c} (ht : Trail t k)
    (hl : t.mapping.Lists schema d) (hd : NamesDiffer (d.fields.map (·.name)))
    (ha : t.plan.rootAlias = some a) {i : Nat} {w : Token} {rest : List Token} {column : String}
    (hw : q.words[i]? = some w) (htranslates : t.plan.Translates i)
    (hsegments : w.withPlaces.parts.core.segments = a :: rest)
    (hexact : t.mapping.ExactPath schema k rest column)
    (hshadows : ∀ p r, t.mapping.Shadows p r → rest.head? = some r.field.toList →
      p.StandsInFor schema k r) :
    c.tokens[t.position i]? = some (w.withCore (a ++ '.' :: column.toList)) := by
  have hrest : rest ≠ [] := by
    cases hexact <;> exact List.cons_ne_nil _ _
  have hdot : '.' ∈ w :=
    Token.mem_of_mem_withPlaces (Token.mem_of_segments hrest hsegments) (by decide)
  obtain ⟨hfirst, -⟩ := translates_path t.planned hw hdot
  obtain ⟨hslot, haliasSlot, hretains⟩ := htranslates
  have hpath : (t.scope.resolvePath w.withPlaces.parts.core (a :: rest) k).1 =
      .ok (some (a ++ '.' :: column.toList)) :=
    QueryScope.resolvePath_of_exactPath ha hl hd hexact hshadows
  obtain ⟨u, hu, hstands⟩ := ht.exists_token hw hretains
  rw [hu]
  cases hstands with
  | table hi => exact absurd hi.symm hslot
  | fixed _ hfixed => exact (hfixed.elim hfirst haliasSlot).elim
  | punctuation _ hcore =>
    rw [hcore] at hsegments
    cases hsegments
    exact absurd rfl hrest
  | text _ _ htext =>
    rw [hsegments, hpath] at htext
    cases htext
  | column _ _ hcolumn =>
    rw [hsegments, hpath] at hcolumn
    cases hcolumn
    rw [Token.withCore_withPlaces]

/-- The paths of exact names over an alias become the columns that they name exactly if each
reference that shadows another one stands in for it. Whatever shadows what, a translation puts the
right column for each path of exact names whose own reference is not shadowed. -/
theorem exact_names_resolve_iff (hm : Metadata.ofDescriptor schema d = .ok m)
    (hd : NamesDiffer (d.fields.map (·.name))) (j : Journal) (a : Token) :
    (m.ResolvesExactNames schema j a ↔ ∀ p r, m.Shadows p r → p.StandsInFor schema j r) ∧
      ∀ strict (q : EntityQuery) i c k, q.compile schema strict d i = (.ok c, k) →
        k.registry.find? d.path = some m →
        ∃ t : Translation schema strict d q i c, t.mapping = m ∧
          (t.plan.rootAlias = some a → ∀ n w rest column, q.words[n]? = some w →
            t.plan.Translates n → w.withPlaces.parts.core.segments = a :: rest →
            m.ExactPath schema k rest column →
            (∀ p r, m.Shadows p r → rest.head? = some r.field.toList → p.StandsInFor schema k r) →
            c.tokens[t.position n]? = some (w.withCore (a ++ '.' :: column.toList))) := by
  have hl := Metadata.lists_of_ofDescriptor hm
  refine ⟨⟨fun h p r hshadows target htarget => ?_,
    fun h s hschema hroot ha core rest column => ?_⟩, fun strict q i c k hcompile hknown => ?_⟩
  · have hkind : QueryKind.delete ≠ .select := by decide
    exact QueryScope.standsInFor_of_resolvePath (s := ⟨schema, m, "", .delete, some a, true⟩) rfl
      hkind (hl.references_differ hd) hshadows
      (h _ rfl rfl rfl [] _ _ (.identifier hshadows.mem htarget))
  · subst hschema hroot
    intro hexact
    exact QueryScope.resolvePath_of_exactPath ha hl hd hexact fun p r hshadows _ => h p r hshadows
  · obtain ⟨t, ht⟩ := exists_translation hcompile
    obtain rfl := Option.some.inj (ht.mapped.symm.trans hknown)
    exact ⟨t, rfl, fun ha n w rest column hw htranslates hsegments hexact hshadows =>
      ht.getElem?_of_exactPath hl hd ha hw htranslates hsegments hexact hshadows⟩

end EntityQuery

namespace SampleExactNames

/-- An article refers to an editor as its owner, and to a person as its editor. -/
def article : EntityDescriptor where
  path := "Article"
  name := "Article"
  table := some "articles"
  fields := [{ name := "id", isId := true },
    { name := "owner", relation := some .manyToOne, joinColumn := some "owner_id",
      target := some 1 },
    { name := "editor", relation := some .manyToOne, joinColumn := some "editor_id",
      target := some 2 }]

def editor : EntityDescriptor where
  path := "Editor"
  name := "Editor"
  table := some "editors"
  fields := [{ name := "id", isId := true }]

def person : EntityDescriptor where
  path := "Person"
  name := "Person"
  table := some "persons"
  fields := [{ name := "id", isId := true }]

def schema : Schema :=
  [article, editor, person]

def ownerField : ReferenceMapping :=
  ⟨"owner", "owner_id", .manyToOne, editor⟩

def editorField : ReferenceMapping :=
  ⟨"editor", "editor_id", .manyToOne, person⟩

def mapping : Metadata where
  descriptor := article
  table := "articles"
  id := ⟨"id", "id"⟩
  version := none
  columns := [⟨"id", "id"⟩]
  references := [ownerField, editorField]
  collections := []
  persistent := [⟨"editor", "editor_id", true⟩, ⟨"id", "id", false⟩, ⟨"owner", "owner_id", true⟩]

def editorMapping : Metadata where
  descriptor := editor
  table := "editors"
  id := ⟨"id", "id"⟩
  version := none
  columns := [⟨"id", "id"⟩]
  references := []
  collections := []
  persistent := [⟨"id", "id", false⟩]

/-- The articles that are owned by their editor. -/
def query : EntityQuery where
  text := "delete from Article a where a.owner.id = a.editor.id"

/-- Both paths become the same column. -/
def compiled : CompiledQuery where
  tokens := ["delete", "from", "articles", "a", "where", "a.owner_id", "=", "a.owner_id"].map
    String.toList
  params := []

def plan : QueryPlan where
  source := query.text
  kind := .delete
  tokens := query.words
  entitySlot := 2
  rootAlias := some ['a']
  aliasSlot := some 3
  params := []

/-- The path of the editor becomes the column of the owner. -/
theorem exact_names_resolve_iff_article :
    Metadata.ofDescriptor schema article = .ok mapping ∧
      NamesDiffer (article.fields.map (·.name)) ∧
      query.compile schema true article {} =
        (.ok compiled, (query.compile schema true article {}).2) ∧
      (∃ t : EntityQuery.Translation schema true article query {} compiled,
        compiled.tokens[t.position 5]? = some "a.owner_id".toList) ∧
      ¬ mapping.ResolvesExactNames schema {} ['a'] := by
  have hm : Metadata.ofDescriptor schema article = .ok mapping := rfl
  have hd : NamesDiffer (article.fields.map (·.name)) := by decide
  have hcompile : query.compile schema true article {} =
    (.ok compiled, (query.compile schema true article {}).2) := rfl
  have hshadows : mapping.Shadows ownerField editorField :=
    ⟨[], [], [], rfl, by decide, by simp⟩
  obtain ⟨hiff, hwords⟩ := EntityQuery.exact_names_resolve_iff hm hd {} ['a']
  refine ⟨hm, hd, hcompile, ?_, fun hresolves => ?_⟩
  · obtain ⟨t, -, hwords⟩ := hwords true query {} compiled _ hcompile rfl
    have hplan : t.plan = plan := t.plan_eq rfl
    rw [hplan] at hwords
    have howner : ownerField ∈ mapping.references := List.mem_cons_self
    have hknown : (Journal.resolve schema ownerField.target
      (query.compile schema true article {}).2).1 = .ok editorMapping := rfl
    -- What has the name of the owner's field comes first, so that nothing shadows it.
    have hunshadowed (q r : ReferenceMapping) (h : mapping.Shadows q r)
        (howner : some "owner".toList = some r.field.toList) :
        q.StandsInFor schema (query.compile schema true article {}).2 r := by
      obtain ⟨n, hfound⟩ := h.exists_referenceAlike (by decide)
      obtain ⟨-, -, -, -, htarget, -⟩ := h
      rw [← Option.some.inj howner] at hfound htarget
      cases hfound
      exact absurd htarget (by decide)
    refine ⟨t, (hwords rfl 5 "a.owner.id".toList _ _ (by decide) (by decide) (by decide)
      (.identifier howner hknown) hunshadowed).trans ?_⟩
    decide
  · obtain ⟨hjoin, -⟩ := hiff.mp hresolves _ _ hshadows _ rfl
    revert hjoin
    decide

end SampleExactNames

end EntityMapper
