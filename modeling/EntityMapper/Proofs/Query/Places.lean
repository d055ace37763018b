import EntityMapper.Proofs.Query.Marks
import EntityMapper.Proofs.Query.Rendering
import EntityMapper.Query.Compiled
/-! Places of a compiled query: every question mark of a statement stands for a parameter of a word
that the statement keeps. -/

namespace EntityMapper

open Text

namespace QueryPlan

variable {p : QueryPlan}

/-- What a resolved token can be: the token itself, or another one if neither has a question
mark. -/
def Keeps (t u : Token) : Prop :=
  u = t ∨ Unmarked t ∧ Unmarked u

variable {s : QueryScope} (hs : s.Unmarked)

include hs

theorem meets_resolveFrom (i : Nat) (ts : List Token) :
    Meets Journal.Unmarked (p.resolveFrom s i ts)
      (fun us j => List.Forall₂ Keeps ts us ∧ j.Unmarked) Journal.Unmarked := by
  induction ts generalizing i with
  | nil => exact .pure fun j hj => ⟨.nil, hj⟩
  | cons t rest ih =>
    unfold resolveFrom
    have hrest : ∀ u, Meets (fun j => Keeps t u ∧ j.Unmarked)
        (do let us ← p.resolveFrom s (i + 1) rest; return u :: us)
        (fun us j => List.Forall₂ Keeps (t :: rest) us ∧ j.Unmarked) Journal.Unmarked :=
      fun u => .assuming fun hu => (ih (i + 1)).bind fun us =>
        .pure fun j ⟨hus, hj⟩ => ⟨.cons hu hus, hj⟩
    dsimp only
    split
    · exact Meets.bind (.pure fun j hj => ⟨.inl rfl, hj⟩) hrest
    · exact (QueryScope.meets_resolveToken hs t).bind hrest

omit hs in
theorem unmarked_joinClause {rootAlias : Option Token} (ha : ∀ a ∈ rootAlias, Unmarked a)
    {target : Metadata} (ht : target.Unmarked) (ordinal : Nat) {r : ReferenceMapping}
    (hr : r.Unmarked) : Unmarked (joinClause rootAlias target ordinal r) := by
  have hname := QueryScope.unmarked_joinAlias ordinal
  have hprefix : Unmarked ((rootAlias.map (· ++ ['.'])).getD []) := by
    cases rootAlias with
    | none => exact unmarked_nil
    | some a => simpa using ha a rfl
  have hjoin : Unmarked "left join ".toList := by decide
  have hon : Unmarked " on ".toList := by decide
  have heq : Unmarked " = ".toList := by decide
  unfold joinClause
  simp only [unmarked_append, unmarked_cons]
  exact ⟨⟨⟨⟨⟨⟨⟨⟨hjoin, ht.table⟩, by decide, hname⟩, hon⟩, hname⟩, by decide, ht.id.2⟩, heq⟩,
    hprefix⟩, hr.2.1⟩

omit hs in
theorem meets_joinClauses {schema : Schema} (hschema : ∀ e ∈ schema, e.Unmarked)
    {rootAlias : Option Token} (ha : ∀ a ∈ rootAlias, Unmarked a) (ordinal : Nat)
    {rs : List ReferenceMapping} (hrs : ∀ r ∈ rs, r.Unmarked) :
    Meets Journal.Unmarked (joinClauses schema rootAlias ordinal rs)
      (fun cs j => (∀ c ∈ cs, Unmarked c) ∧ j.Unmarked) Journal.Unmarked := by
  induction rs generalizing ordinal with
  | nil => exact .pure fun j hj => ⟨by simp, hj⟩
  | cons r rest ih =>
    have hr := hrs r List.mem_cons_self
    have hrest := ih (ordinal + 1) fun q hq => hrs q (List.mem_cons_of_mem r hq)
    refine (Journal.meets_resolve hschema hr.2.2).bind fun target => .assuming fun ht => ?_
    refine hrest.bind fun cs => .pure fun j ⟨hcs, hj⟩ => ⟨fun c hc => ?_, hj⟩
    rcases List.mem_cons.mp hc with rfl | hc
    · exact unmarked_joinClause ha ht ordinal hr
    · exact hcs c hc

/-- What becomes of a word that is resolved: it stays, or it holds no place and becomes a text
without marks. -/
def Renders (w : Token) (part : List Piece) : Prop :=
  part = Piece.ofToken w ∨ Piece.names [w] = [] ∧ ∃ t, Unmarked t ∧ part = Piece.ofText t

omit hs in
/-- Words that were placed and then resolved are rendered one by one. -/
theorem exists_parts {ws us : List Token}
    (h : List.Forall₂ Keeps (ws.map fun w => (Piece.ofToken w).map Piece.placed) us) :
    ∃ parts : List (List Piece), us = parts.map (·.map Piece.placed) ∧
      List.Forall₂ Renders ws parts := by
  induction ws generalizing us with
  | nil =>
    cases h
    exact ⟨[], rfl, .nil⟩
  | cons w ws ih =>
    obtain ⟨u, rest, hu, hrest, rfl⟩ := List.forall₂_cons_left_iff.mp h
    obtain ⟨parts, rfl, hparts⟩ := ih hrest
    rcases hu with rfl | ⟨hw, hu⟩
    · exact ⟨Piece.ofToken w :: parts, rfl, .cons (.inl rfl) hparts⟩
    · refine ⟨Piece.ofText u :: parts, by simp, .cons (.inr ⟨?_, u, hu, rfl⟩) hparts⟩
      simpa using Piece.names_eq_nil_of_unmarked hw

omit hs in
theorem rendered_of_forall₂ {ws : List Token} {parts : List (List Piece)}
    (h : List.Forall₂ Renders ws parts) : Rendered ws parts := by
  induction h with
  | nil => exact .nil
  | cons hw _ ih =>
    obtain rfl | ⟨hn, t, ht, rfl⟩ := hw
    · exact .kept _ ih
    · exact .resolved _ t hn ht ih

omit hs in
theorem insertJoins_append {slot : Nat} {before : List Token} (hlen : before.length = slot)
    (table : Token) (after clauses : List Token) :
    insertJoins slot clauses (before ++ table :: after) = before ++ table ::
      (after.take (joinOffset after) ++ clauses ++ after.drop (joinOffset after)) := by
  subst hlen
  have hafter : (before ++ table :: after).drop (before.length + 1) = after := by
    rw [← List.drop_drop, List.drop_left]
    rfl
  have htake (n : Nat) : (before ++ table :: after).take (before.length + 1 + n) =
      before ++ table :: after.take n := by
    rw [List.take_append, List.take_of_length_le (by omega), Nat.add_assoc, Nat.add_sub_cancel_left,
      Nat.add_comm, List.take_succ_cons]
  have hdrop (n : Nat) : (before ++ table :: after).drop (before.length + 1 + n) =
      after.drop n := by
    rw [← List.drop_drop, hafter]
  simp only [insertJoins, hafter, htake, hdrop, List.append_assoc, List.cons_append]

omit hs in
theorem widen_append {slot : Nat} {before : List Token} (hlen : before.length = slot)
    (hslot : 1 ≤ slot) (after : List Token) :
    widen slot (before ++ after) =
      before.take 1 ++ ['*'] :: (before.drop (slot - 1) ++ after) := by
  subst hlen
  unfold widen
  rw [List.take_append_of_le_length hslot, List.drop_append_of_le_length (Nat.sub_le _ 1)]

omit hs in
/-- The table stands in the place of the entity. -/
theorem rendered_set {ws : List Token} {parts : List (List Piece)}
    (h : List.Forall₂ Renders ws parts) {table : Token} (htable : Unmarked table) (slot : Nat) :
    Rendered (ws.take slot ++ ws.drop (slot + 1))
      (parts.take slot ++ Piece.ofText table :: parts.drop (slot + 1)) :=
  (rendered_of_forall₂ (List.forall₂_take slot h)).append
    (.made _ htable (rendered_of_forall₂ (List.forall₂_drop (slot + 1) h)))

omit hs in
/-- All columns stand in the place of what was selected, the table in that of the entity, and
clauses come somewhere behind it. -/
theorem rendered_select {ws : List Token} {parts : List (List Piece)}
    (h : List.Forall₂ Renders ws parts) {table : Token} (htable : Unmarked table)
    {clauses : List Token} (hclauses : ∀ c ∈ clauses, Unmarked c) {slot : Nat} (hpos : 1 ≤ slot)
    (offset : Nat) :
    Rendered (ws.take 1 ++ (ws.take slot).drop (slot - 1) ++ ws.drop (slot + 1))
      ((parts.take slot).take 1 ++ Piece.ofText ['*'] ::
        ((parts.take slot).drop (slot - 1) ++ Piece.ofText table ::
          ((parts.drop (slot + 1)).take offset ++ (clauses.map Piece.ofText ++
            (parts.drop (slot + 1)).drop offset)))) := by
  have hbefore := List.forall₂_take slot h
  have hafter := List.forall₂_drop (slot + 1) h
  have hone := rendered_of_forall₂ (List.forall₂_take 1 hbefore)
  have hkeyword := rendered_of_forall₂ (List.forall₂_drop (slot - 1) hbefore)
  have hrest := (rendered_of_forall₂ (List.forall₂_take offset hafter)).append
    ((Rendered.ofTexts hclauses).append (rendered_of_forall₂ (List.forall₂_drop offset hafter)))
  rw [List.nil_append, List.take_append_drop] at hrest
  rw [List.take_take, Nat.min_eq_left hpos] at hone
  rw [List.append_assoc]
  exact hone.append (.made _ (by decide) (hkeyword.append (.made _ htable hrest)))

/-- The tokens of a statement are made of the words that stand and of texts without marks. -/
theorem meets_statementTokens {ws : List Token} (hlen : p.entitySlot < ws.length)
    (hpos : 1 ≤ p.entitySlot) (ha : ∀ a ∈ p.rootAlias, Unmarked a)
    (htokens : p.tokens = ws.map fun w => (Piece.ofToken w).map Piece.placed) :
    Meets Journal.Unmarked (p.statementTokens s)
      (fun us j => (∃ parts : List (List Piece), us = parts.map (·.map Piece.placed) ∧
        Rendered (p.standing ws) parts) ∧ j.Unmarked) Journal.Unmarked := by
  unfold statementTokens
  refine (meets_resolveFrom hs 0 p.tokens).bind fun resolved => .assuming fun hkeeps => ?_
  rw [htokens] at hkeeps
  obtain ⟨parts, rfl, hparts⟩ := exists_parts hkeeps
  have hsize : parts.length = ws.length := hparts.length_eq.symm
  have hset : (parts.map (·.map Piece.placed)).set p.entitySlot s.root.table.toList =
      (parts.take p.entitySlot).map (·.map Piece.placed) ++ s.root.table.toList ::
        (parts.drop (p.entitySlot + 1)).map (·.map Piece.placed) := by
    rw [List.set_eq_take_append_cons_drop, if_pos (by simpa [hsize] using hlen), List.map_take,
      List.map_drop]
  dsimp only
  rw [hset]
  split
  · rename_i hkind
    refine (meets_joinClauses hs.schema ha 0 hs.root.references).bind fun clauses =>
      .pure fun j ⟨hclauses, hj⟩ => ⟨?_, hj⟩
    have hfirst : ((parts.take p.entitySlot).map (·.map Piece.placed)).length = p.entitySlot := by
      simp only [List.length_map, List.length_take]
      omega
    rw [insertJoins_append hfirst, widen_append hfirst hpos]
    generalize joinOffset ((parts.drop (p.entitySlot + 1)).map (·.map Piece.placed)) = offset
    refine ⟨(parts.take p.entitySlot).take 1 ++ Piece.ofText ['*'] ::
      ((parts.take p.entitySlot).drop (p.entitySlot - 1) ++ Piece.ofText s.root.table.toList ::
        ((parts.drop (p.entitySlot + 1)).take offset ++ (clauses.map Piece.ofText ++
          (parts.drop (p.entitySlot + 1)).drop offset))), ?_, ?_⟩
    · simp [List.map_take, List.map_drop, Function.comp_def]
    · rw [standing, if_pos hkind]
      exact rendered_select hparts hs.root.table hclauses hpos offset
  · rename_i hkind
    refine .pure fun j hj => ⟨⟨parts.take p.entitySlot ++ Piece.ofText s.root.table.toList ::
      parts.drop (p.entitySlot + 1), by simp, ?_⟩, hj⟩
    rw [standing, if_neg hkind]
    exact rendered_set hparts hs.root.table p.entitySlot

end QueryPlan

namespace QueryPlan

theorem of_findEntitySlot {kind : QueryKind} {ws : List Token} {slot : Nat}
    (h : findEntitySlot kind ws = some slot) :
    slot < ws.length ∧ ∃ i, slot = i + 1 ∧
      ∃ hi : i < ws.length, alike ws[i] kind.entityKeyword.toList = true := by
  unfold findEntitySlot at h
  split at h
  · rename_i i hfind
    split at h
    · rename_i hlt
      cases h
      obtain ⟨hi, hp, -⟩ := List.findIdx?_eq_some_iff_getElem.mp hfind
      exact ⟨hlt, i, rfl, hi, hp⟩
    · cases h
  · cases h

theorem alike_of_ofKeyword {t : Token} (h : QueryKind.ofKeyword? t = some .select) :
    alike t "select".toList = true := by
  unfold QueryKind.ofKeyword? at h
  repeat' split at h
  all_goals first | assumption | cases h

theorem mem_of_findAlias {ws : List Token} {slot : Nat} {a : Token}
    (h : (findAlias ws slot).1 = some a) : a ∈ ws := by
  unfold findAlias at h
  split at h
  · cases h
  · rename_i t ht
    split at h
    · exact List.mem_of_getElem? (Option.filter_eq_some_iff.mp h).1
    · split at h
      · cases h
        exact List.mem_of_getElem? ht
      · cases h

end QueryPlan

namespace EntityQuery

/-- What a plan says of the words of its query. -/
structure Planned (q : EntityQuery) (p : QueryPlan) : Prop where
  tokens : p.tokens = q.words.map fun w => (Piece.ofToken w).map Piece.placed
  params : List.Forall₂ (Binds q.params) (Piece.names q.words) p.params
  slot_lt : p.entitySlot < q.words.length
  slot_pos : 1 ≤ p.entitySlot
  /-- A SELECT does not begin with the keyword before the entity name. -/
  slot_select : p.kind = .select → 2 ≤ p.entitySlot
  rootAlias : ∀ a ∈ p.rootAlias, a ∈ q.words

/-- Where in the words of its query each part of a plan was found. -/
structure FoundIn (q : EntityQuery) (p : QueryPlan) : Prop where
  kind : ∃ w, q.words[0]? = some w ∧ QueryKind.ofKeyword? w = some p.kind
  slot : QueryPlan.findEntitySlot p.kind q.words = some p.entitySlot
  name : QueryPlan.findAlias q.words p.entitySlot = (p.rootAlias, p.aliasSlot)
  placed : QueryPlan.placeAll q.params q.words = .ok (p.tokens, p.params)

theorem found_of_ofQuery {q : EntityQuery} {p : QueryPlan} (h : QueryPlan.ofQuery q = .ok p) :
    FoundIn q p := by
  unfold QueryPlan.ofQuery at h
  dsimp only at h
  split at h
  · cases h
  rename_i first rest hwords
  split at h
  · cases h
  rename_i kind hkind
  split at h
  · cases h
  rename_i slot hslot
  split at h
  · cases h
  rename_i tokens params hplaced
  cases h
  exact ⟨⟨first, by simp [EntityQuery.words, hwords], hkind⟩, hslot, rfl, hplaced⟩

theorem planned_of_ofQuery {q : EntityQuery} {p : QueryPlan} (h : QueryPlan.ofQuery q = .ok p) :
    Planned q p := by
  obtain ⟨⟨first, hfirst, hkind⟩, hslot, hname, hplaced⟩ := found_of_ofQuery h
  obtain ⟨htokens, hparams⟩ := QueryPlan.of_placeAll hplaced
  obtain ⟨hlt, i, hi, hin, hkeyword⟩ := QueryPlan.of_findEntitySlot hslot
  refine ⟨htokens, hparams, hlt, by omega, fun hselect => ?_, fun a ha => ?_⟩
  · have hne : i ≠ 0 := by
      rintro rfl
      rw [hselect] at hkind hkeyword
      obtain rfl := Option.some.inj ((List.getElem?_eq_getElem hin).symm.trans hfirst)
      rw [alike_comm] at hkeyword
      have hboth := alike_trans hkeyword (QueryPlan.alike_of_ofKeyword hkind)
      revert hboth
      decide
    omega
  · exact QueryPlan.mem_of_findAlias (by rw [hname]; exact ha)

/-- The places of a statement line up with its values: there are as many, and the value at each
place is the one bound to the name that the place stands for. -/
def Aligned (q : EntityQuery) (c : CompiledQuery) (marked : List Piece) : Prop :=
  c.sql.toList.count '?' = c.params.length ∧
    List.Forall₂ (Binds q.params) (marked.filterMap Piece.name?) c.params

/-- A statement as the text that stands for the words of its query, with the places marked. -/
structure Marks (q : EntityQuery) (p : QueryPlan) (c : CompiledQuery)
    (parts : List (List Piece)) : Prop where
  plan : QueryPlan.ofQuery q = .ok p
  rendered : Rendered (p.standing q.words) parts
  text : c.sql.toList = (Piece.joined parts).map Piece.placed
  plain : ∀ ch, .plain ch ∈ Piece.joined parts → ch ≠ '?'

theorem Marks.aligned_iff {q : EntityQuery} {p : QueryPlan} {c : CompiledQuery}
    {parts : List (List Piece)} (h : Marks q p c parts) (hc : c.params = p.params) :
    Aligned q c (Piece.joined parts) ↔ Piece.names (p.dropped q.words) = [] := by
  have hp := planned_of_ofQuery h.plan
  have hnames : (Piece.joined parts).filterMap Piece.name? = Piece.names (p.standing q.words) := by
    rw [Piece.filterMap_joined, h.rendered.names_eq]
  have hcount : c.sql.toList.count '?' = (Piece.names (p.standing q.words)).length := by
    rw [h.text, Piece.count_placed h.plain, hnames]
  have hall := hp.params.length_eq
  have hadd := QueryPlan.length_names_add hp.slot_select q.words
  unfold Aligned
  rw [hcount, hnames, hc]
  constructor
  · rintro ⟨hlen, -⟩
    exact List.length_eq_zero_iff.mp (by omega)
  · intro hnone
    rw [QueryPlan.names_standing hp.slot_select q.words hnone]
    exact ⟨hall, hp.params⟩

variable {schema : Schema} {strict : Bool} {root : EntityDescriptor} {q : EntityQuery}

theorem meets_compile (hschema : ∀ e ∈ schema, e.Unmarked) (hroot : root.Unmarked)
    (hq : Unmarked q.text.toList) :
    Meets Journal.Unmarked (q.compile schema strict root)
      (fun c _ => ∃ p parts, Marks q p c parts ∧ c.params = p.params) (fun _ => True) := by
  refine ((Journal.meets_resolve hschema hroot).weaken (fun j h => h) (fun m j h => h)
    fun j _ => trivial).bind fun m => .assuming fun hm => ?_
  cases hplan : QueryPlan.ofQuery q with
  | error f => exact .throw fun j _ => trivial
  | ok p =>
    have hp := planned_of_ofQuery hplan
    have ha : ∀ a ∈ p.rootAlias, Unmarked a := fun a h =>
      unmarked_of_mem_words hq a (hp.rootAlias a h)
    have hs : (p.scope schema m strict).Unmarked := ⟨hschema, hm, ha⟩
    have htokens := QueryPlan.meets_statementTokens hs hp.slot_lt hp.slot_pos ha hp.tokens
    have hcompile : Meets Journal.Unmarked (p.compile schema m strict)
        (fun c _ => ∃ parts, Marks q p c parts ∧ c.params = p.params) (fun _ => True) := by
      unfold QueryPlan.compile
      refine Meets.bind (.lift (fun _ _ j hj => hj) fun _ _ => trivial) fun _ => ?_
      refine (htokens.weaken (fun j h => h) (fun us j h => h) fun j _ => trivial).bind fun us => ?_
      refine .pure fun j ⟨⟨parts, hus, hr⟩, _⟩ => ⟨parts, ⟨hplan, hr, ?_, fun ch hch => ?_⟩, rfl⟩
      · rw [CompiledQuery.sql, String.toList_ofList, Piece.map_joined, hus]
      · rcases Piece.mem_joined hch with hblank | hin
        · cases hblank
          decide
        · have hstanding : ∀ w ∈ p.standing q.words, Unmarked w := fun w hw =>
            unmarked_of_mem_words hq w (QueryPlan.mem_of_mem_standing hw)
          exact hr.ne_mark_of_plain hstanding hin
    refine hcompile.bind fun c => Meets.bind (Q := fun _ _ => ∃ parts, Marks q p c parts ∧
      c.params = p.params) (.modify fun j hc => hc) fun _ => ?_
    exact .pure fun j ⟨parts, hc⟩ => ⟨p, parts, hc⟩

/-- The places of a statement line up with its values exactly if no parameter stands in a word that
the statement leaves out. -/
theorem placesAlign_iff (hschema : ∀ e ∈ schema, e.Unmarked) (hroot : root.Unmarked)
    (hq : Unmarked q.text.toList) {j k : Journal} (hj : j.Unmarked) {c : CompiledQuery}
    (h : q.compile schema strict root j = (.ok c, k)) :
    ∃ p parts, Marks q p c parts ∧
      (Aligned q c (Piece.joined parts) ↔ Piece.names (p.dropped q.words) = []) := by
  obtain ⟨p, parts, hmarks, hparams⟩ := (meets_compile hschema hroot hq).ok hj h
  exact ⟨p, parts, hmarks, hmarks.aligned_iff hparams⟩

end EntityQuery

namespace SelectedParameter

def person : EntityDescriptor where
  path := "Person"
  name := "Person"
  table := some "persons"
  fields := [{ name := "id", isId := true }, { name := "age" }]

/-- A query with one parameter in what it selects and another one in its condition. -/
def query : EntityQuery where
  text := "select :x from Person where id = :id"
  params := ⟨[("x", .big 1 IntWidth.big.holds_one), ("id", .big 2)]⟩

/-- Two values for the one place of `select * from persons where id = ?`. -/
def compiled : CompiledQuery where
  tokens := ["select", "*", "from", "persons", "where", "id", "=", "?"].map String.toList
  params := [.big 1 IntWidth.big.holds_one, .big 2]

theorem person_unmarked : person.Unmarked :=
  ⟨by decide, by decide, by decide, by decide⟩

/-- The value of the first parameter has no place. -/
theorem placesAlign_iff_selected :
    query.compile [person] true person {} =
        (.ok compiled, (query.compile [person] true person {}).2) ∧
      ∃ p parts, EntityQuery.Marks query p compiled parts ∧
        ¬ EntityQuery.Aligned query compiled (Piece.joined parts) := by
  have hcompile : query.compile [person] true person {} =
    (.ok compiled, (query.compile [person] true person {}).2) := rfl
  obtain ⟨p, parts, hmarks, hiff⟩ := EntityQuery.placesAlign_iff (by simpa using person_unmarked)
    person_unmarked (by decide) Journal.unmarked_empty hcompile
  refine ⟨hcompile, p, parts, hmarks, fun ha => ?_⟩
  have hdropped : (QueryPlan.ofQuery query).map (fun p => Piece.names (p.dropped query.words)) =
    .ok [['x']] := rfl
  rw [hmarks.plan] at hdropped
  simp [Except.map, hiff.mp ha] at hdropped

end SelectedParameter

end EntityMapper
