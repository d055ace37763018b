import EntityMapper.Proofs.Entity.Unmarked
import EntityMapper.Proofs.Query.Paths
import Mathlib.Data.List.TakeWhile
/-! Resolving the tokens of a query when no name has a question mark: a token that has one stays as
it is, and no other token gets one. -/

namespace EntityMapper

open Text

namespace Token

variable {t : Token} {c : Char}

theorem exists_segment_of_mem (hc : c ∈ t) (hdot : c ≠ '.') : ∃ s ∈ segments t, c ∈ s := by
  induction t with
  | nil => cases hc
  | cons d rest ih =>
    by_cases hd : d = '.'
    · have hrest : c ∈ rest := (List.mem_cons.mp hc).resolve_left (hd ▸ hdot)
      obtain ⟨s, hs, hcs⟩ := ih hrest
      exact ⟨s, by simp [segments, hd, hs], hcs⟩
    · cases hs : segments rest with
      | nil => exact absurd hs (segments_ne_nil rest)
      | cons s ss =>
        rw [hs] at ih
        have hsplit : segments (d :: rest) = (d :: s) :: ss := by simp [segments, hd, hs]
        rw [hsplit]
        rcases List.mem_cons.mp hc with rfl | hrest
        · exact ⟨c :: s, List.mem_cons_self, List.mem_cons_self⟩
        · obtain ⟨u, hu, hcu⟩ := ih hrest
          rcases List.mem_cons.mp hu with rfl | hu
          · exact ⟨d :: u, List.mem_cons_self, List.mem_cons_of_mem d hcu⟩
          · exact ⟨u, List.mem_cons_of_mem _ hu, hcu⟩

theorem unmarked_of_segments (h : ∀ s ∈ segments t, Unmarked s) : Unmarked t := by
  intro hm
  obtain ⟨s, hs, hc⟩ := exists_segment_of_mem hm (by decide)
  exact h s hs hc

theorem unmarked_before (t : Token) : Unmarked t.parts.before := by
  intro h
  have hp := List.mem_takeWhile_imp h
  cases hp

theorem unmarked_after (t : Token) : Unmarked t.parts.after := by
  intro h
  have hp := List.mem_takeWhile_imp (List.mem_reverse.mp h)
  cases hp

theorem unmarked_of_core (h : Unmarked t.parts.core) : Unmarked t := by
  rw [← t.parts_join]
  simp [h, unmarked_before, unmarked_after]

end Token

namespace QueryScope

/-- No name of the scope has a question mark. -/
structure Unmarked (s : QueryScope) : Prop where
  schema : ∀ e ∈ s.schema, e.Unmarked
  root : s.root.Unmarked
  rootAlias : ∀ a ∈ s.rootAlias, Text.Unmarked a

theorem unmarked_joinAlias (ordinal : Nat) : Text.Unmarked (joinAlias ordinal) := by
  simp [joinAlias, unmarked_showNat]

end QueryScope

/-- Whether a segment names the reference or the type that it refers to. -/
def ReferenceMapping.Fits (r : ReferenceMapping) (segment : Token) : Prop :=
  alike r.field.toList segment = true ∨ alike r.target.name.toList segment = true

namespace Metadata

variable {m : Metadata} {t : Token}

theorem of_columnAlike {c : ColumnMapping} (h : m.columnAlike? t = some c) :
    c ∈ m.columns ∧ alike c.field.toList t = true :=
  ⟨List.mem_of_find?_eq_some h,
    List.find?_some (p := fun c : ColumnMapping => alike c.field.toList t) h⟩

theorem of_referenceAlike {n : Nat} {r : ReferenceMapping}
    (h : m.referenceAlike? t = some (n, r)) : m.references[n]? = some r ∧ r.Fits t := by
  obtain ⟨⟨q, i⟩, hfind, heq⟩ := Option.map_eq_some_iff.mp h
  cases heq
  have hfits := List.find?_some hfind
  exact ⟨List.mk_mem_zipIdx_iff_getElem?.mp (List.mem_of_find?_eq_some hfind),
    Bool.or_eq_true_iff.mp hfits⟩

namespace Unmarked

variable (hm : m.Unmarked)

include hm

theorem of_columnAlike {c : ColumnMapping} (h : m.columnAlike? t = some c) :
    Text.Unmarked t ∧ Text.Unmarked c.column.toList := by
  obtain ⟨hmem, ha⟩ := Metadata.of_columnAlike h
  have hc := hm.columns c hmem
  exact ⟨hc.1.of_alike ha, hc.2⟩

theorem of_referenceAlike {i : Nat} {r : ReferenceMapping} (h : m.referenceAlike? t = some (i, r)) :
    Text.Unmarked t ∧ r.Unmarked := by
  obtain ⟨hget, hfits⟩ := Metadata.of_referenceAlike h
  have hr := hm.references r (List.mem_of_getElem? hget)
  refine ⟨?_, hr⟩
  rcases hfits with ha | ha
  · exact hr.1.of_alike ha
  · exact hr.2.2.name.of_alike ha

end Unmarked

end Metadata

namespace QueryScope

variable {s : QueryScope} (hs : s.Unmarked)

include hs

theorem Unmarked.of_column {field column : Token} (h : s.column? field = some column) :
    Text.Unmarked field ∧ Text.Unmarked column := by
  unfold column? at h
  split at h
  · rename_i c hc
    cases h
    exact hs.root.of_columnAlike hc
  · obtain ⟨r, hr, rfl⟩ := Option.map_eq_some_iff.mp h
    have hu := hs.root.references r (List.mem_of_find?_eq_some hr)
    have ha := List.find?_some hr
    exact ⟨hu.1.of_alike ha, hu.2.1⟩

theorem meets_navigate (qualifier : Option Token) (hq : ∀ q ∈ qualifier, Text.Unmarked q)
    (ordinal : Nat) {r : ReferenceMapping} (hr : r.Unmarked) (field : Token) :
    Meets Journal.Unmarked (s.navigate qualifier ordinal r field)
      (fun column j => (Text.Unmarked field ∧ Text.Unmarked column) ∧ j.Unmarked)
      Journal.Unmarked := by
  refine (Journal.meets_resolve hs.schema hr.2.2).bind fun target => ?_
  split
  · rename_i hid
    refine .pure fun j ⟨ht, hj⟩ => ⟨⟨?_, ?_⟩, hj⟩
    · rcases Bool.or_eq_true_iff.mp hid with ha | ha
      · exact ht.id.1.of_alike (alike_comm _ _ ▸ ha)
      · exact ht.id.2.of_alike (alike_comm _ _ ▸ ha)
    · cases qualifier with
      | none => exact hr.2.1
      | some q => simpa using ⟨hq q rfl, hr.2.1⟩
  · split
    · exact .throw fun j h => h.2
    · rename_i c hc
      split
      · refine .pure fun j ⟨ht, hj⟩ => ⟨?_, hj⟩
        obtain ⟨hf, hcol⟩ := ht.of_columnAlike hc
        exact ⟨hf, by simpa using ⟨unmarked_joinAlias ordinal, hcol⟩⟩
      · exact .throw fun j h => h.2

omit hs in
/-- An unknown path stays as it is; that it does is noted. -/
theorem meets_unknownPath {P : Journal → Prop}
    (hnote : ∀ level message j, P j → P (Journal.note level message j)) (core : Token) :
    Meets P (s.unknownPath core) (fun column j => column = none ∧ P j) P := by
  unfold unknownPath
  split
  · exact .throw fun j h => h
  · exact Meets.bind (.modify fun j h => hnote _ _ j h) fun _ => .pure fun j h => ⟨rfl, h⟩

/-- What a path becomes has no question mark, and nothing becomes of a path that has one. -/
theorem meets_resolvePath (core : Token) (path : List Token) :
    Meets Journal.Unmarked (s.resolvePath core path)
      (fun column j => (∀ c ∈ column, (∀ segment ∈ path, Text.Unmarked segment) ∧ Text.Unmarked c) ∧
        j.Unmarked) Journal.Unmarked := by
  have h := s.resolves_resolvePath core path
  generalize s.resolvePath core path = x at h ⊢
  cases h with
  | field field =>
    refine .pure fun j hj => ⟨fun c hc => ?_, hj⟩
    obtain ⟨hf, hu⟩ := hs.of_column hc
    exact ⟨by simpa using hf, hu⟩
  | column hq hc =>
    have hqu := hs.rootAlias _ hq.symm
    obtain ⟨hf, hu⟩ := hs.of_column hc
    refine .pure fun j hj => ⟨fun c hcc => ?_, hj⟩
    cases hcc
    exact ⟨by simp [hqu, hf], by simpa using ⟨hqu, hu⟩⟩
  | reference _ hr field =>
    obtain ⟨hrel, hru⟩ := hs.root.of_referenceAlike hr
    refine (meets_navigate hs none (by simp) _ hru field).bind fun column =>
      .pure fun j ⟨⟨hf, hu⟩, hj⟩ => ⟨fun c hcc => ?_, hj⟩
    cases hcc
    exact ⟨by simp [hrel, hf], hu⟩
  | aliasReference hq hr field =>
    have hqu := hs.rootAlias _ hq.symm
    obtain ⟨hrel, hru⟩ := hs.root.of_referenceAlike hr
    refine (meets_navigate hs (some _) (by simpa using hqu) _ hru field).bind fun column =>
      .pure fun j ⟨⟨hf, hu⟩, hj⟩ => ⟨fun c hcc => ?_, hj⟩
    cases hcc
    exact ⟨by simp [hqu, hrel, hf], hu⟩
  | unknown =>
    exact (meets_unknownPath (fun _ _ _ h => h) core).weaken (fun _ h => h)
      (fun _ _ h => ⟨fun c hc => by simp [h.1] at hc, h.2⟩) fun _ h => h
  | refused e => exact .throw fun _ h => h
  | kept => exact .pure fun _ hj => ⟨nofun, hj⟩

/-- A token with a question mark stays as it is, and no other token gets one. -/
theorem meets_resolveToken (t : Token) :
    Meets Journal.Unmarked (s.resolveToken t)
      (fun u j => (u = t ∨ Text.Unmarked t ∧ Text.Unmarked u) ∧ j.Unmarked) Journal.Unmarked := by
  unfold resolveToken
  dsimp only
  split
  · exact .pure fun j hj => ⟨.inl rfl, hj⟩
  · refine (meets_resolvePath hs _ _).bind fun column => ?_
    cases column with
    | none => exact .pure fun j ⟨_, hj⟩ => ⟨.inl rfl, hj⟩
    | some column =>
      refine .pure fun j ⟨hc, hj⟩ => ⟨.inr ?_, hj⟩
      obtain ⟨hpath, hu⟩ := hc column rfl
      refine ⟨Token.unmarked_of_core (Token.unmarked_of_segments hpath), ?_⟩
      simp [Token.withCore, Token.unmarked_before, Token.unmarked_after, hu]

end QueryScope

end EntityMapper
