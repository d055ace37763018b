import EntityMapper.Proofs.Query.Layout
/-! Punctuation: the parentheses and commas around the words of a query, and for which queries a
translation writes them all. -/

namespace EntityMapper

open Text

namespace Token

/-- A token has the opening parentheses in front and the commas and closing parentheses behind that
another one has. -/
def SamePunctuation (w u : Token) : Prop :=
  u.parts.before = w.parts.before ∧ u.parts.after = w.parts.after

instance (w u : Token) : Decidable (w.SamePunctuation u) :=
  inferInstanceAs (Decidable (_ ∧ _))

/-- No punctuation is cut off from the token. -/
def Bare (t : Token) : Prop :=
  t.parts.before = [] ∧ t.parts.after = []

instance (t : Token) : Decidable t.Bare :=
  inferInstanceAs (Decidable (_ ∧ _))

variable {b a path : Token} (hb : ∀ c ∈ b, (c == '(') = true) (ha : ∀ c ∈ a, closes c = true)

include hb ha

theorem before_append : (b ++ path ++ a).parts.before = b ++ path.parts.before := by
  have hopen : a.takeWhile (· == '(') = [] := by
    cases a with
    | nil => rfl
    | cons c a =>
      refine List.takeWhile_cons_of_neg fun h => ?_
      have hc := ha c List.mem_cons_self
      rw [beq_iff_eq.mp h] at hc
      revert hc
      decide
  change (b ++ path ++ a).takeWhile (· == '(') = b ++ path.takeWhile (· == '(')
  rw [takeWhile_append_of_head hopen, List.takeWhile_append_of_pos hb]

omit hb ha in
theorem dropWhile_of_before (h : path.parts.before = []) : path.dropWhile (· == '(') = path := by
  conv_rhs => rw [← path.takeWhile_append_dropWhile (p := (· == '('))]
  rw [show path.takeWhile (· == '(') = [] from h, List.nil_append]

theorem after_append (h : path.parts.before = []) :
    (b ++ path ++ a).parts.after = path.parts.after ++ a := by
  have hpath : (path ++ a).parts.before = [] :=
    (before_append (b := []) (by simp) ha).trans h
  have hrest : (b ++ path ++ a).dropWhile (· == '(') = path ++ a := by
    rw [List.append_assoc, List.dropWhile_append_of_pos hb, dropWhile_of_before hpath]
  simp only [parts, hrest, dropWhile_of_before h]
  rw [List.reverse_append, List.takeWhile_append_of_pos (by simpa using ha), List.reverse_append,
    List.reverse_reverse]

omit hb ha in
/-- A word keeps its punctuation with another core exactly if the core brings none of its own. -/
theorem samePunctuation_withCore_iff {w : Token} :
    w.SamePunctuation (w.withCore path) ↔ path.Bare := by
  have hb : ∀ c ∈ w.parts.before, (c == '(') = true := fun c hc =>
    List.mem_takeWhile_imp (p := (· == '(')) hc
  have ha : ∀ c ∈ w.parts.after, closes c = true := fun c hc =>
    List.mem_takeWhile_imp (List.mem_reverse.mp hc)
  unfold SamePunctuation withCore Bare
  rw [before_append hb ha, List.append_right_eq_self]
  refine and_congr_right fun hbefore => ?_
  rw [after_append hb ha hbefore, List.append_left_eq_self]

omit hb ha in
theorem samePunctuation_withPlaces (w : Token) : w.SamePunctuation w.withPlaces := by
  rw [SamePunctuation, parts_withPlaces]
  exact ⟨rfl, rfl⟩

omit hb ha in
@[simp] theorem withCore_withPlaces (w core : Token) :
    w.withPlaces.withCore core = w.withCore core := by
  simp only [withCore, parts_withPlaces]

end Token

namespace QueryPlan

/-- Whether the statement keeps the word at a position: it leaves out what a SELECT selects. -/
def Retains (p : QueryPlan) (i : Nat) : Prop :=
  ¬ (p.kind = .select ∧ 0 < i ∧ i + 1 < p.entitySlot)

instance (p : QueryPlan) (i : Nat) : Decidable (p.Retains i) :=
  inferInstanceAs (Decidable (¬ _))

/-- The position in the statement of the word at a position that the statement keeps. -/
def position (p : QueryPlan) (table : Token) (joins resolved : List Token) (i : Nat) : Nat :=
  if i = 0 then 0 else p.place table joins resolved i

variable {p : QueryPlan} {table : Token} {joins resolved : List Token}

theorem head_assemble (hpos : 1 ≤ p.entitySlot) (hlt : p.entitySlot < resolved.length) :
    (p.assemble table joins resolved)[0]? = (p.stated table resolved)[0]? := by
  by_cases hkind : p.kind = .select
  · rw [assemble_select hkind hpos hlt, stated_eq hlt]
    obtain ⟨n, hn⟩ := Nat.exists_eq_add_of_le' hpos
    obtain ⟨first, rest, rfl⟩ := List.exists_cons_of_length_pos (Nat.zero_lt_of_lt hlt)
    simp [hn]
  · rw [assemble, if_neg hkind]

theorem getElem?_position (hpos : 1 ≤ p.entitySlot) (hlt : p.entitySlot < resolved.length) {i : Nat}
    (hi : i < resolved.length) (hretains : p.Retains i) :
    (p.assemble table joins resolved)[p.position table joins resolved i]? =
      (p.stated table resolved)[i]? := by
  unfold position
  split
  · subst i
    exact head_assemble hpos hlt
  · refine getElem?_assemble hpos hi fun hkind => ?_
    unfold Retains at hretains
    have := not_and.mp hretains hkind
    omega

/-- A name is put for the path that the token at a position is. -/
def Puts (p : QueryPlan) (s : QueryScope) (k : Journal) (i : Nat) (t path : Token) : Prop :=
  p.isFixed i = false ∧ t.parts.core ≠ [] ∧
    (s.resolvePath t.parts.core t.parts.core.segments k).1 = .ok (some path)

variable {s : QueryScope} {k : Journal} {i : Nat} {w u path : Token}

theorem Puts.free (h : p.Puts s k i w path) :
    ¬ ((i = 0 ∨ p.aliasSlot = some i) ∨ i = p.entitySlot) := by
  rw [← isFixed_iff, h.1]
  decide

theorem StandsFor.table_of_slot (h : p.StandsFor s k i w u) (hi : i = p.entitySlot) :
    u = s.root.table.toList := by
  have hfixed : p.isFixed i = true := isFixed_iff.mpr (.inr hi)
  cases h with
  | table => rfl
  | fixed hne => exact absurd hi hne
  | punctuation hfree | text hfree | column hfree =>
    rw [hfixed] at hfree
    cases hfree

/-- Whatever stands for a word that is not the entity name has its punctuation around it. -/
theorem StandsFor.exists_core (h : p.StandsFor s k i w.withPlaces u) (hi : i ≠ p.entitySlot) :
    ∃ core, u = w.withCore core := by
  have hsame : w.withPlaces = w.withCore w.withPlaces.parts.core := by
    rw [← Token.withCore_withPlaces, Token.withCore_core]
  cases h with
  | table heq => exact absurd heq hi
  | fixed | punctuation | text => exact ⟨_, hsame⟩
  | @column _ _ path => exact ⟨path, w.withCore_withPlaces path⟩

theorem StandsFor.samePunctuation_iff (h : p.StandsFor s k i w.withPlaces u)
    (hi : i ≠ p.entitySlot) :
    w.SamePunctuation u ↔ ∀ path, p.Puts s k i w.withPlaces path → path.Bare := by
  cases h with
  | table heq => exact absurd heq hi
  | fixed _ hfixed =>
    exact iff_of_true w.samePunctuation_withPlaces fun path hputs =>
      absurd (.inl hfixed) hputs.free
  | punctuation _ hcore =>
    exact iff_of_true w.samePunctuation_withPlaces fun path hputs => absurd hcore hputs.2.1
  | text _ _ hpath =>
    refine iff_of_true w.samePunctuation_withPlaces fun path hputs => ?_
    cases hpath.symm.trans hputs.2.2
  | column hfree hcore hpath =>
    rw [Token.withCore_withPlaces, Token.samePunctuation_withCore_iff]
    refine ⟨fun hbare path' hputs => ?_, fun hall => hall _ ⟨hfree, hcore, hpath⟩⟩
    cases hpath.symm.trans hputs.2.2
    exact hbare

end QueryPlan

namespace EntityQuery

variable {schema : Schema} {strict : Bool} {root : EntityDescriptor} {q : EntityQuery}
  {j k : Journal} {c : CompiledQuery}

/-- The position in the statement of a word that it retains. -/
def Translation.position (t : Translation schema strict root q j c) (i : Nat) : Nat :=
  t.plan.position t.mapping.table.toList t.joins t.resolved i

/-- Every word that a statement retains has a token of the statement that stands for it. -/
theorem Trail.exists_token {t : Translation schema strict root q j c} (ht : Trail t k) {i : Nat}
    {w : Token} (hw : q.words[i]? = some w) (hretains : t.plan.Retains i) :
    ∃ u, c.tokens[t.position i]? = some u ∧ t.plan.StandsFor t.scope k i w.withPlaces u := by
  have hi : i < t.resolved.length := by
    rw [ht.length_resolved]
    exact (List.getElem?_eq_some_iff.mp hw).1
  have hlen : i < t.stated.length := by
    rwa [ht.length_stated, ← ht.length_resolved]
  have hstated := List.getElem?_eq_getElem hlen
  refine ⟨_, ?_, ht.standsFor hw hstated⟩
  rw [t.tokens, Translation.position, QueryPlan.getElem?_position
    (planned_of_ofQuery t.planned).slot_pos ht.slot_lt hi hretains]
  exact hstated

/-- Every word that a statement retains has the punctuation in it that it has in the query. -/
def KeepsPunctuation (t : Translation schema strict root q j c) : Prop :=
  ∀ i w u, q.words[i]? = some w → t.plan.Retains i → c.tokens[t.position i]? = some u →
    w.SamePunctuation u

/-- The punctuation of a word is put back around whatever stands for the word, unless the word is
the entity name: the table is written without it. So a statement has the punctuation of its query
exactly if the entity name has the punctuation of the table, and no name that is put for a path
brings punctuation of its own. -/
theorem keeps_punctuation_iff (h : q.compile schema strict root j = (.ok c, k)) :
    ∃ t : Translation schema strict root q j c, k.registry.find? root.path = some t.mapping ∧
      (∀ i w, q.words[i]? = some w → t.plan.Retains i → i ≠ t.plan.entitySlot →
        ∃ core, c.tokens[t.position i]? = some (w.withCore core)) ∧
      c.tokens[t.position t.plan.entitySlot]? = some t.mapping.table.toList ∧
      (KeepsPunctuation t ↔
        (∀ w, q.words[t.plan.entitySlot]? = some w →
          w.SamePunctuation t.mapping.table.toList) ∧
        ∀ i w path, q.words[i]? = some w → t.plan.Retains i →
          t.plan.Puts t.scope k i w.withPlaces path → path.Bare) := by
  obtain ⟨t, ht⟩ := exists_translation h
  have hp := planned_of_ofQuery t.planned
  have hslot : t.plan.Retains t.plan.entitySlot := fun hleft => by omega
  have htable : c.tokens[t.position t.plan.entitySlot]? = some t.mapping.table.toList := by
    obtain ⟨u, hu, hstands⟩ := ht.exists_token (List.getElem?_eq_getElem hp.slot_lt) hslot
    rw [hu, hstands.table_of_slot rfl]
    rfl
  refine ⟨t, ht.mapped, fun i w hw hretains hi => ?_, htable, fun hkeeps => ⟨?_, ?_⟩, ?_⟩
  · obtain ⟨u, hu, hstands⟩ := ht.exists_token hw hretains
    obtain ⟨core, rfl⟩ := hstands.exists_core hi
    exact ⟨core, hu⟩
  · exact fun w hw => hkeeps _ w _ hw hslot htable
  · intro i w path hw hretains hputs
    obtain ⟨u, hu, hstands⟩ := ht.exists_token hw hretains
    have hi : i ≠ t.plan.entitySlot := fun heq => hputs.free (.inr heq)
    exact (hstands.samePunctuation_iff hi).mp (hkeeps i w u hw hretains hu) path hputs
  · rintro ⟨hname, hbare⟩ i w u hw hretains hu
    by_cases hi : i = t.plan.entitySlot
    · subst hi
      cases htable.symm.trans hu
      exact hname w hw
    · obtain ⟨v, hv, hstands⟩ := ht.exists_token hw hretains
      cases hv.symm.trans hu
      exact (hstands.samePunctuation_iff hi).mpr fun path hputs => hbare i w path hw hretains hputs

end EntityQuery

namespace SamplePunctuation

open SelectedParameter (person)

/-- A query over two tables, with a condition in parentheses. -/
def query : EntityQuery where
  text := "select * from Person, pets where (id = 1)"

/-- The second table is an alias of the first one. -/
def compiled : CompiledQuery where
  tokens := ["select", "*", "from", "persons", "pets", "where", "(id", "=", "1)"].map String.toList
  params := []

def plan : QueryPlan where
  source := query.text
  kind := .select
  tokens := query.words
  entitySlot := 3
  rootAlias := some "pets".toList
  aliasSlot := some 4
  params := []

/-- The parentheses are written, and the comma behind the entity name is not. -/
theorem keeps_punctuation_iff_pets :
    query.compile [person] true person {} =
        (.ok compiled, (query.compile [person] true person {}).2) ∧
      ∃ t : EntityQuery.Translation [person] true person query {} compiled,
        (∃ core, compiled.tokens[t.position 6]? = some ('(' :: core)) ∧
          ¬ EntityQuery.KeepsPunctuation t := by
  have hcompile : query.compile [person] true person {} =
    (.ok compiled, (query.compile [person] true person {}).2) := rfl
  obtain ⟨t, -, hwrites, -, hiff⟩ := EntityQuery.keeps_punctuation_iff hcompile
  have hplan : t.plan = plan := t.plan_eq rfl
  have hmapped : (Journal.resolve [person] person {}).1.map (·.table) = .ok "persons" := rfl
  rw [t.mapped] at hmapped
  have hpersons : t.mapping.table = "persons" := Except.ok.inj hmapped
  rw [hplan] at hwrites hiff
  refine ⟨hcompile, t, ?_, fun hkeeps => ?_⟩
  · obtain ⟨core, hcore⟩ := hwrites 6 "(id".toList (by decide) (by decide) (by decide)
    have hparts : Token.parts "(id".toList = ⟨['('], "id".toList, []⟩ := by decide
    refine ⟨core, ?_⟩
    rw [hcore, Token.withCore, hparts, List.append_nil]
    rfl
  · have hname := (hiff.mp hkeeps).1 "Person,".toList (by decide)
    rw [hpersons] at hname
    revert hname
    decide

end SamplePunctuation

end EntityMapper
