import EntityMapper.Proofs.Query.Values
/-! Recognising parameters: where the parameters of a token stand is told by the characters around
each colon alone, and the scan of the token finds exactly these places. -/

namespace EntityMapper

open Text

theorem Piece.skipName_eq (t : Token) : skipName t = scan false (t.dropWhile isWordChar) := by
  induction t with
  | nil => rfl
  | cons c rest ih =>
    rw [skipName, List.dropWhile_cons]
    split
    · exact ih
    · simp [scan]

namespace Token

/-- A parameter stands at a position: there is a colon with the beginning of a name behind it, and
before it there is nothing, or a character that is neither a colon nor part of a word. -/
structure ParameterAt (t : Token) (i : Nat) : Prop where
  colon : t[i]? = some ':'
  begins : ∃ c, t[i + 1]? = some c ∧ isNameStart c = true
  free : i = 0 ∨ ∃ c, t[i - 1]? = some c ∧ c ≠ ':' ∧ isWordChar c = false

theorem parameterAt_iff {t : Token} {i : Nat} : t.ParameterAt i ↔ t[i]? = some ':' ∧
    (t[i + 1]?).any isNameStart = true ∧ (i = 0 ∨ (t[i - 1]?).any Piece.admits = true) := by
  simp only [Option.any_eq_true, Piece.admits_iff]
  exact ⟨fun h => ⟨h.colon, h.begins, h.free⟩, fun ⟨h, h', h''⟩ => ⟨h, h', h''⟩⟩

instance (t : Token) (i : Nat) : Decidable (t.ParameterAt i) :=
  decidable_of_iff _ parameterAt_iff.symm

/-- The longest run of word characters behind a position. -/
def nameAt (t : Token) (i : Nat) : Token :=
  (t.drop (i + 1)).takeWhile isWordChar

/-- The positions of the parameters, in order. -/
def parameterPlaces (t : Token) : List Nat :=
  (List.range t.length).filter fun i => t.ParameterAt i

/-- Whether the name of a parameter goes over a position. -/
def NamedAt (t : Token) (i : Nat) : Prop :=
  ∃ p ∈ t.parameterPlaces, p < i ∧ i ≤ p + (t.nameAt p).length

instance (t : Token) (i : Nat) : Decidable (t.NamedAt i) :=
  inferInstanceAs (Decidable (∃ p ∈ t.parameterPlaces, p < i ∧ i ≤ p + (t.nameAt p).length))

/-- The piece that begins at a position: nothing does so within a name. -/
def pieceAt (t : Token) (i : Nat) : Option Piece :=
  if t.ParameterAt i then some (.parameter (t.nameAt i))
  else if t.NamedAt i then none
  else (t[i]?).map .plain

/-- What is written for the character at a position: a question mark for the colon of a parameter,
nothing for its name, and else the character itself. -/
def replacedAt (t : Token) (i : Nat) : Option Char :=
  if t.ParameterAt i then some '?'
  else if t.NamedAt i then none
  else t[i]?

/-- The token with a question mark for each parameter. -/
def replaced (t : Token) : Token :=
  (List.range t.length).filterMap t.replacedAt

variable {t : Token} {i p : Nat}

theorem mem_parameterPlaces : i ∈ t.parameterPlaces ↔ t.ParameterAt i := by
  rw [parameterPlaces, List.mem_filter, List.mem_range, decide_eq_true_iff, and_iff_right_iff_imp]
  exact fun h => (List.getElem?_eq_some_iff.mp h.colon).1

theorem namedAt_iff : t.NamedAt i ↔ ∃ p, t.ParameterAt p ∧ p < i ∧ i ≤ p + (t.nameAt p).length := by
  simp only [NamedAt, mem_parameterPlaces]

/-- No name of a parameter goes on to a position. -/
def Between (t : Token) (i : Nat) : Prop :=
  ∀ p < i, t.ParameterAt p → p + (t.nameAt p).length < i

theorem Between.not_namedAt (h : t.Between i) : ¬ t.NamedAt i := by
  rw [namedAt_iff]
  rintro ⟨p, hp, hlt, hle⟩
  have := h p hlt hp
  omega

theorem not_parameterAt_of_word {c : Char} (hc : t[i]? = some c) (hword : isWordChar c = true) :
    ¬ t.ParameterAt i := by
  intro h
  obtain rfl := Option.some.inj (hc.symm.trans h.colon)
  revert hword
  decide

/-- A character of the name of a parameter is part of a word. -/
theorem isWordChar_of_nameAt (h : p < i) (hle : i ≤ p + (t.nameAt p).length) :
    ∃ d, t[i]? = some d ∧ isWordChar d = true := by
  obtain ⟨k, rfl⟩ := Nat.exists_eq_add_of_le' h
  have hk : k < (t.nameAt p).length := by omega
  have hget : (t.drop (p + 1))[k]? = (t.nameAt p)[k]? := by
    conv_lhs => rw [← (t.drop (p + 1)).takeWhile_append_dropWhile (p := isWordChar)]
    exact List.getElem?_append_left hk
  rw [List.getElem?_drop, Nat.add_comm, List.getElem?_eq_getElem hk] at hget
  exact ⟨_, hget, List.mem_takeWhile_imp (List.getElem_mem hk)⟩

/-- Nothing begins within the name of a parameter. -/
theorem pieceAt_eq_none (hp : t.ParameterAt p) (h : p < i) (hle : i ≤ p + (t.nameAt p).length) :
    t.pieceAt i = none := by
  obtain ⟨d, hd, hword⟩ := isWordChar_of_nameAt h hle
  rw [pieceAt, if_neg (not_parameterAt_of_word hd hword), if_pos (namedAt_iff.mpr ⟨p, hp, h, hle⟩)]

theorem drop_nameAt (t : Token) (p : Nat) :
    (t.drop (p + 1)).dropWhile isWordChar = t.drop (p + 1 + (t.nameAt p).length) := by
  have hsplit := (t.drop (p + 1)).takeWhile_append_dropWhile (p := isWordChar)
  calc (t.drop (p + 1)).dropWhile isWordChar
      = (t.nameAt p ++ (t.drop (p + 1)).dropWhile isWordChar).drop (t.nameAt p).length :=
        List.drop_left.symm
    _ = (t.drop (p + 1)).drop (t.nameAt p).length := by rw [nameAt, hsplit]
    _ = t.drop (p + 1 + (t.nameAt p).length) := List.drop_drop

theorem length_nameAt_pos (h : t.ParameterAt p) : 0 < (t.nameAt p).length := by
  obtain ⟨c, hc, hstart⟩ := h.begins
  have hhead : (t.drop (p + 1)).head? = some c := by rw [List.head?_drop, hc]
  obtain ⟨rest, hrest⟩ := List.head?_eq_some_iff.mp hhead
  rw [nameAt, hrest, List.takeWhile_cons_of_pos (isWordChar_of_isNameStart hstart)]
  exact Nat.succ_pos _

/-- A scan may go on at a position: it is between two names, and whether a parameter may begin there
is known. -/
structure ScansAt (t : Token) (i : Nat) (free : Bool) : Prop where
  free : free = true ↔ i = 0 ∨ (t[i - 1]?).any Piece.admits = true
  between : t.Between i

namespace ScansAt

variable {free : Bool}

theorem start (t : Token) : t.ScansAt 0 true :=
  ⟨by simp, fun _ hp => absurd hp (Nat.not_lt_zero _)⟩

theorem next {c : Char} (h : t.ScansAt i free) (hc : t[i]? = some c) (hnot : ¬ t.ParameterAt i) :
    t.ScansAt (i + 1) (Piece.admits c) := by
  refine ⟨by simp [hc], fun p hp hat => ?_⟩
  rcases Nat.lt_succ_iff_lt_or_eq.mp hp with hp | rfl
  · exact Nat.lt_succ_of_lt (h.between p hp hat)
  · exact absurd hat hnot

/-- Behind a name no parameter begins. -/
theorem behind (h : t.ScansAt i free) (hat : t.ParameterAt i) :
    t.ScansAt (i + 1 + (t.nameAt i).length) false := by
  have hpos := length_nameAt_pos hat
  refine ⟨?_, fun p hp hat' => ?_⟩
  · obtain ⟨d, hd, hword⟩ := isWordChar_of_nameAt (Nat.lt_add_of_pos_right hpos) (Nat.le_refl _)
    have hlast : i + 1 + (t.nameAt i).length - 1 = i + (t.nameAt i).length := by omega
    rw [hlast, hd]
    simp [Piece.admits, hword]
  · rcases Nat.lt_trichotomy p i with hlt | rfl | hgt
    · have := h.between p hlt hat'
      omega
    · omega
    · obtain ⟨d, hd, hword⟩ := isWordChar_of_nameAt (t := t) hgt (by omega)
      exact absurd hat' (not_parameterAt_of_word hd hword)

/-- The scan sees from where it stands whether a parameter begins there. -/
theorem begins_iff {c : Char} (h : t.ScansAt i free) (hc : t[i]? = some c) :
    (free && c == ':' && Piece.beginsName (t.drop (i + 1))) = true ↔ t.ParameterAt i := by
  have hbegins : Piece.beginsName (t.drop (i + 1)) = (t[i + 1]?).any isNameStart := by
    rw [← List.head?_drop]
    cases t.drop (i + 1) <;> rfl
  rw [parameterAt_iff, hc, hbegins, Bool.and_eq_true, Bool.and_eq_true, h.free, beq_iff_eq,
    Option.some_inj]
  tauto

end ScansAt

/-- From where it stands the scan finds the pieces that begin at the positions of the token. -/
theorem scan_drop {free : Bool} (h : t.ScansAt i free) :
    Piece.scan free (t.drop i) = (List.range' i (t.length - i)).filterMap t.pieceAt := by
  induction hsize : t.length - i using Nat.strong_induction_on generalizing i free with
  | _ size ih =>
    by_cases hi : i < t.length
    · have hc := List.getElem?_eq_getElem hi
      obtain ⟨k, rfl⟩ : ∃ k, size = k + 1 := Nat.exists_eq_add_one.mpr (by omega)
      rw [List.drop_eq_getElem_cons hi, Piece.scan, List.range'_succ, List.filterMap_cons]
      by_cases hat : t.ParameterAt i
      · -- The scan goes on behind the name, of which no position begins a piece.
        have hpiece : t.pieceAt i = some (.parameter (t.nameAt i)) := if_pos hat
        have hnone : (List.range' (i + 1) (t.nameAt i).length).filterMap t.pieceAt = [] := by
          rw [List.filterMap_eq_nil_iff]
          intro j hj
          rw [List.mem_range'_1] at hj
          exact pieceAt_eq_none hat (by omega) (by omega)
        have hle : (t.nameAt i).length ≤ k := by
          have := (List.takeWhile_prefix isWordChar (l := t.drop (i + 1))).length_le
          rw [List.length_drop] at this
          exact this.trans (by omega)
        obtain ⟨m, rfl⟩ := Nat.exists_eq_add_of_le hle
        rw [if_pos ((h.begins_iff hc).mpr hat), hpiece, Piece.skipName_eq, drop_nameAt,
          ih m (by omega) (h.behind hat) (by omega), ← List.range'_append_1, List.filterMap_append,
          hnone]
        rfl
      · have hpiece : t.pieceAt i = some (.plain t[i]) := by
          rw [pieceAt, if_neg hat, if_neg h.between.not_namedAt, hc]
          rfl
        rw [if_neg (mt (h.begins_iff hc).mp hat), hpiece, ih k (by omega) (h.next hc hat) (by omega)]
    · have hnil : t.drop i = [] := List.drop_eq_nil_of_le (by omega)
      obtain rfl : size = 0 := by omega
      rw [hnil]
      rfl

/-- The pieces of a token are those that begin at its positions. -/
theorem ofToken_eq (t : Token) :
    Piece.ofToken t = (List.range t.length).filterMap t.pieceAt := by
  have h := scan_drop (.start t)
  rwa [List.drop_zero, Nat.sub_zero, ← List.range_eq_range'] at h

theorem names_ofToken (t : Token) :
    (Piece.ofToken t).filterMap Piece.name? = t.parameterPlaces.map t.nameAt := by
  rw [ofToken_eq, List.filterMap_filterMap, parameterPlaces, ← List.filterMap_eq_map,
    List.filterMap_filter]
  refine List.filterMap_congr fun i _ => ?_
  rw [pieceAt]
  by_cases hat : t.ParameterAt i
  · simp [hat, Piece.name?]
  · by_cases hin : t.NamedAt i
    · simp [hat, hin]
    · cases t[i]? <;> simp [hat, hin, Piece.name?]

theorem withPlaces_eq (t : Token) : t.withPlaces = t.replaced := by
  rw [withPlaces, ofToken_eq, List.map_filterMap, replaced]
  refine List.filterMap_congr fun i _ => ?_
  rw [pieceAt, replacedAt]
  by_cases hat : t.ParameterAt i
  · simp [hat, Piece.placed]
  · by_cases hin : t.NamedAt i
    · simp [hat, hin]
    · cases t[i]? <;> simp [hat, hin, Piece.placed]

end Token

open EntityQuery (Binds)

/-- What the substitution of parameters is to give for a token. -/
inductive Substitutes (bound : Assoc String Value) (t : Token) : Except Token PlacedToken → Prop
  /-- All names have values, which are given in the order of their places. -/
  | all {vs : List Value}
      (h : List.Forall₂ (fun i v => Binds bound (t.nameAt i) v) t.parameterPlaces vs) :
    Substitutes bound t (.ok ⟨t.replaced, vs⟩)
  /-- The first name without a value is given back. -/
  | unbound {before after : List Nat} {i : Nat} (hplaces : t.parameterPlaces = before ++ i :: after)
      (hbefore : ∀ p ∈ before, ∃ v, Binds bound (t.nameAt p) v)
      (hfirst : ∀ v, ¬ Binds bound (t.nameAt i) v) :
    Substitutes bound t (.error (t.nameAt i))

/-- What the substitution of parameters is to give for several words. -/
inductive SubstitutesAll (bound : Assoc String Value) (ws : List Token) :
    Except Token (List Token × List Value) → Prop
  | all {placed : List PlacedToken}
      (h : List.Forall₂ (fun w u => Substitutes bound w (.ok u)) ws placed) :
    SubstitutesAll bound ws (.ok (placed.map (·.token), placed.flatMap (·.params)))
  /-- It stops at the first word that has a name without a value. -/
  | unbound {before after : List Token} {w name : Token} {placed : List PlacedToken}
      (hwords : ws = before ++ w :: after)
      (hbefore : List.Forall₂ (fun w u => Substitutes bound w (.ok u)) before placed)
      (hfirst : Substitutes bound w (.error name)) :
    SubstitutesAll bound ws (.error name)

section Substitution

variable {bound : Assoc String Value}

theorem lookUpAll_of_forall₂ {names : List Token} {vs : List Value}
    (h : List.Forall₂ (Binds bound) names vs) : lookUpAll bound names = .ok vs := by
  induction h with
  | nil => rfl
  | cons hv _ ih =>
    unfold Binds at hv
    rw [lookUpAll, hv, ih]
    rfl

theorem lookUpAll_append {before after : List Token} {name : Token}
    (hbefore : ∀ n ∈ before, ∃ v, Binds bound n v) (hname : ∀ v, ¬ Binds bound name v) :
    lookUpAll bound (before ++ name :: after) = .error name := by
  induction before with
  | nil => rw [List.nil_append, lookUpAll, Option.eq_none_iff_forall_ne_some.mpr hname]
  | cons n before ih =>
    obtain ⟨⟨v, hv⟩, hrest⟩ := List.forall_mem_cons.mp hbefore
    unfold Binds at hv
    rw [List.cons_append, lookUpAll, hv, ih hrest]
    rfl

/-- Either all places have values, or there is a first one that has none. -/
theorem bound_or_first_unbound (bound : Assoc String Value) (name : Nat → Token)
    (places : List Nat) :
    (∃ vs, List.Forall₂ (fun i v => Binds bound (name i) v) places vs) ∨
      ∃ before i after, places = before ++ i :: after ∧
        (∀ p ∈ before, ∃ v, Binds bound (name p) v) ∧ ∀ v, ¬ Binds bound (name i) v := by
  induction places with
  | nil => exact .inl ⟨[], .nil⟩
  | cons i places ih =>
    by_cases hi : ∃ v, Binds bound (name i) v
    · obtain ⟨v, hv⟩ := hi
      rcases ih with ⟨vs, hvs⟩ | ⟨before, j, after, rfl, hbefore, hfirst⟩
      · exact .inl ⟨v :: vs, .cons hv hvs⟩
      · exact .inr ⟨i :: before, j, after, rfl, List.forall_mem_cons.mpr ⟨⟨v, hv⟩, hbefore⟩, hfirst⟩
    · exact .inr ⟨[], i, places, rfl, by simp, not_exists.mp hi⟩

theorem placeParameters_eq (bound : Assoc String Value) (t : Token) :
    placeParameters bound t =
      (lookUpAll bound (t.parameterPlaces.map t.nameAt)).map (⟨t.replaced, ·⟩) := by
  rw [← t.names_ofToken, ← t.withPlaces_eq]
  rfl

theorem substitutes_placeParameters (bound : Assoc String Value) (t : Token) :
    Substitutes bound t (placeParameters bound t) := by
  rw [placeParameters_eq]
  rcases bound_or_first_unbound bound t.nameAt t.parameterPlaces with
    ⟨vs, hvs⟩ | ⟨before, i, after, hplaces, hbefore, hfirst⟩
  · rw [lookUpAll_of_forall₂ (List.forall₂_map_left_iff.mpr hvs)]
    exact .all hvs
  · rw [hplaces, List.map_append, List.map_cons, lookUpAll_append (by simpa using hbefore) hfirst]
    exact .unbound hplaces hbefore hfirst

/-- What is given for a word goes in front of what is given for the words after it. -/
theorem SubstitutesAll.cons {w : Token} {ws tokens : List Token} {params : List Value}
    {u : PlacedToken} (hw : Substitutes bound w (.ok u))
    (h : SubstitutesAll bound ws (.ok (tokens, params))) :
    SubstitutesAll bound (w :: ws) (.ok (u.token :: tokens, u.params ++ params)) := by
  cases h with
  | all h => exact .all (.cons hw h)

theorem SubstitutesAll.cons_unbound {w : Token} {ws : List Token} {name : Token} {u : PlacedToken}
    (hw : Substitutes bound w (.ok u)) (h : SubstitutesAll bound ws (.error name)) :
    SubstitutesAll bound (w :: ws) (.error name) := by
  cases h with
  | unbound hwords hbefore hfirst =>
    rw [hwords]
    exact .unbound rfl (.cons hw hbefore) hfirst

theorem substitutesAll_placeAll (bound : Assoc String Value) (ws : List Token) :
    SubstitutesAll bound ws (QueryPlan.placeAll bound ws) := by
  induction ws with
  | nil => exact .all .nil
  | cons w ws ih =>
    have hw := substitutes_placeParameters bound w
    rw [QueryPlan.placeAll]
    rcases hplaced : placeParameters bound w with name | u
    · rw [hplaced] at hw
      exact .unbound rfl .nil hw
    · rw [hplaced] at hw
      rcases hrest : QueryPlan.placeAll bound ws with name | ⟨tokens, params⟩
      · rw [hrest] at ih
        exact .cons_unbound hw ih
      · rw [hrest] at ih
        exact .cons hw ih

end Substitution

namespace EntityQuery

variable {schema : Schema} {strict : Bool} {root : EntityDescriptor} {q : EntityQuery}

/-- The values of a statement are those of the plan of its query. -/
theorem exists_plan_of_compile {j k : Journal} {c : CompiledQuery}
    (h : q.compile schema strict root j = (.ok c, k)) :
    ∃ p, QueryPlan.ofQuery q = .ok p ∧ c.params = p.params := by
  obtain ⟨m, j₁, -, h⟩ := exists_of_bind h
  cases hplan : QueryPlan.ofQuery q with
  | error f =>
    rw [hplan] at h
    cases h
  | ok p =>
    rw [hplan] at h
    obtain ⟨d, j₂, hc, h⟩ := exists_of_bind h
    cases h
    exact ⟨p, rfl, QueryPlan.params_of_compile hc⟩

theorem placeAll_of_unbound {name : Token}
    (h : QueryPlan.ofQuery q = .error (.unboundParameter name)) :
    QueryPlan.placeAll q.params q.words = .error name := by
  unfold QueryPlan.ofQuery at h
  dsimp only at h
  repeat' split at h
  all_goals cases h
  assumption

end EntityQuery

/-- A parameter is recognised by the characters around its colon, whatever else stands in its token.
If all names have values, a question mark takes the place of each parameter and the values are given
in the order of the places; else the first name without a value is given back. The values for a
whole query are those for its words in a row, and a query is refused for the first name without a
value. -/
theorem parameters_recognised (bound : Assoc String Value) :
    (∀ t, Substitutes bound t (placeParameters bound t)) ∧
      (∀ ws, SubstitutesAll bound ws (QueryPlan.placeAll bound ws)) ∧
      (∀ text schema strict root j c k,
        EntityQuery.compile schema strict root ⟨text, bound⟩ j = (.ok c, k) →
        ∃ tokens, SubstitutesAll bound (words text.toList) (.ok (tokens, c.params))) ∧
      ∀ text name, QueryPlan.ofQuery ⟨text, bound⟩ = .error (.unboundParameter name) →
        SubstitutesAll bound (words text.toList) (.error name) := by
  refine ⟨substitutes_placeParameters bound, substitutesAll_placeAll bound,
    fun text schema strict root j c k h => ?_, fun text name h => ?_⟩
  · obtain ⟨p, hplan, hparams⟩ := EntityQuery.exists_plan_of_compile h
    have hall := substitutesAll_placeAll bound (words text.toList)
    have hplaced : QueryPlan.placeAll bound (words text.toList) = .ok (p.tokens, p.params) :=
      (EntityQuery.found_of_ofQuery hplan).placed
    rw [hplaced, ← hparams] at hall
    exact ⟨p.tokens, hall⟩
  · have hall := substitutesAll_placeAll bound (words text.toList)
    have hplaced : QueryPlan.placeAll bound (words text.toList) = .error name :=
      EntityQuery.placeAll_of_unbound h
    rwa [hplaced] at hall

namespace SampleParameters

open SelectedParameter (person)

/-- A parameter at the start and one behind a comma, with colons around them that begin none: two of
a cast, and one behind a word. -/
def crowded : Token :=
  ":a,:b1::c:d".toList

def both : Assoc String Value :=
  ⟨[("a", .text "x"), ("b1", .null)]⟩

def first : Assoc String Value :=
  ⟨[("a", .text "x")]⟩

/-- A query with three parameters, two of them in one word. -/
def query : String :=
  "delete from Person where id in (:a,:b1) or age = :a"

def compiled : CompiledQuery where
  tokens := ["delete", "from", "persons", "where", "id", "in", "(?,?)", "or", "age", "=", "?"].map
    String.toList
  params := [.text "x", .null, .text "x"]

/-- Two of the five colons begin parameters. Both have values or the second one is refused, and a
query has the values for all its places. -/
theorem parameters_recognised_crowded :
    crowded.parameterPlaces = [0, 3] ∧
      Substitutes both crowded (.ok ⟨"?,?::c:d".toList, [.text "x", .null]⟩) ∧
      Substitutes first crowded (.error "b1".toList) ∧
      SubstitutesAll both [crowded, crowded]
        (.ok (["?,?::c:d".toList, "?,?::c:d".toList], [.text "x", .null, .text "x", .null])) ∧
      (∃ tokens, SubstitutesAll both (words query.toList) (.ok (tokens, compiled.params))) ∧
      SubstitutesAll first (words query.toList) (.error "b1".toList) := by
  have hboth := parameters_recognised both
  have hfirst := parameters_recognised first
  have hcompile : EntityQuery.compile [person] true person ⟨query, both⟩ {} =
    (.ok compiled, (EntityQuery.compile [person] true person ⟨query, both⟩ {}).2) := rfl
  exact ⟨by decide, hboth.1 crowded, hfirst.1 crowded, hboth.2.1 [crowded, crowded],
    hboth.2.2.1 _ _ _ _ _ _ _ hcompile, hfirst.2.2.2 query _ rfl⟩

end SampleParameters

end EntityMapper
