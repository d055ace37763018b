import EntityMapper.Proofs.Query.Marks
import EntityMapper.Query.Compiled
/-! Which tokens of a query the resolution of paths renames, and that the others stay where they
are. -/

namespace EntityMapper

open Text

namespace QueryScope

/-- Whether a name is that of a field with another name for its column. -/
def recolumns (s : QueryScope) (field : Token) : Bool :=
  (s.column? field).any (· != field)

/-- Whether a path is that of a field with another name for its column, or leads over a reference
of the root entity. -/
def renamesPath (s : QueryScope) : List Token → Bool
  | [field] => s.recolumns field
  | [qualifier, field] =>
    if some qualifier = s.rootAlias then s.recolumns field
    else (s.root.referenceAlike? qualifier).isSome
  | [qualifier, relation, _] =>
    some qualifier = s.rootAlias && (s.root.referenceAlike? relation).isSome
  | _ => false

def renames (s : QueryScope) (t : Token) : Bool :=
  s.renamesPath t.parts.core.segments

variable {s : QueryScope}

theorem column_eq_of_not_recolumns {field column : Token} (h : s.recolumns field = false)
    (hc : s.column? field = some column) : column = field := by
  simpa [recolumns, hc] using h

/-- A path that is not renamed becomes nothing else. -/
theorem meets_resolvePath_of_not_renames (core : Token) {path : List Token}
    (h : s.renamesPath path = false) :
    Meets (fun _ => True) (s.resolvePath core path)
      (fun column _ => ∀ c ∈ column, c = List.intercalate ['.'] path) (fun _ => True) := by
  have hresolves := s.resolves_resolvePath core path
  generalize s.resolvePath core path = x at hresolves ⊢
  cases hresolves with
  | field field =>
    refine .pure fun _ _ c hc => ?_
    rw [column_eq_of_not_recolumns h hc, List.intercalate_singleton]
  | column hq hcolumn =>
    rw [renamesPath, if_pos hq] at h
    refine .pure fun _ _ c hc => ?_
    cases hc
    rw [column_eq_of_not_recolumns h hcolumn, List.intercalate_cons_cons,
      List.intercalate_singleton, List.append_assoc, List.singleton_append]
  | reference hq hr field => simp [renamesPath, hq, hr] at h
  | aliasReference hq hr field => simp [renamesPath, hq, hr] at h
  | unknown =>
    exact (meets_unknownPath (fun _ _ _ h => h) core).weaken (fun _ h => h)
      (fun _ _ h => by simp [h.1]) fun _ h => h
  | refused e => exact .throw fun _ _ => trivial
  | kept => exact .pure fun _ _ => nofun

/-- A token that is not renamed stays as it is. -/
theorem meets_resolveToken_of_not_renames {t : Token} (h : s.renames t = false) :
    Meets (fun _ => True) (s.resolveToken t) (fun u _ => u = t) (fun _ => True) := by
  unfold resolveToken
  dsimp only
  split
  · exact .pure fun _ _ => rfl
  · refine (meets_resolvePath_of_not_renames _ h).bind fun column => ?_
    cases column with
    | none => exact .pure fun _ _ => rfl
    | some column =>
      refine .pure fun _ hc => ?_
      rw [hc column rfl, Token.intercalate_segments, Token.withCore_core]

end QueryScope

namespace QueryPlan

variable {p : QueryPlan} {s : QueryScope}

/-- Whether the token at a position is the same after the resolution of paths. -/
def Stays (p : QueryPlan) (s : QueryScope) (i : Nat) (t : Token) : Prop :=
  p.isFixed i = true ∨ s.renames t = false

/-- The resolution of paths leaves every token that stays in its place. -/
theorem meets_resolveFrom_of_stays (i : Nat) (ts : List Token) :
    Meets (fun _ => True) (p.resolveFrom s i ts)
      (fun us _ => ∀ n t, ts[n]? = some t → p.Stays s (i + n) t → us[n]? = some t)
      (fun _ => True) := by
  induction ts generalizing i with
  | nil => exact .pure fun _ _ n t ht => by simp at ht
  | cons t rest ih =>
    -- A token that is fixed and one that is resolved are followed by the same rest.
    have hrest (u : Token) : Meets (fun _ => (p.Stays s i t → u = t) ∧ True)
        (do let us ← p.resolveFrom s (i + 1) rest; return u :: us)
        (fun us _ => ∀ n v, (t :: rest)[n]? = some v → p.Stays s (i + n) v → us[n]? = some v)
        (fun _ => True) := by
      refine .assuming fun hu => (ih (i + 1)).bind fun us => .pure fun _ hus n v hv hstays => ?_
      cases n with
      | zero =>
        cases hv
        exact congrArg some (hu hstays)
      | succ n => exact hus n v hv (by rwa [Nat.add_assoc, Nat.add_comm 1])
    unfold resolveFrom
    dsimp only
    split
    · exact Meets.bind (.pure fun _ _ => ⟨fun _ => rfl, trivial⟩) hrest
    · rename_i hfixed
      cases hr : s.renames t with
      | false =>
        exact ((QueryScope.meets_resolveToken_of_not_renames hr).weaken (fun _ h => h)
          (fun _ _ h => ⟨fun _ => h, trivial⟩) (fun _ h => h)).bind hrest
      | true =>
        have hnot : ¬ p.Stays s i t := by simp [Stays, hfixed, hr]
        exact (Meets.trivially.weaken (fun _ h => h)
          (fun _ _ _ => ⟨fun h => absurd h hnot, trivial⟩) (fun _ h => h)).bind hrest

end QueryPlan

end EntityMapper
