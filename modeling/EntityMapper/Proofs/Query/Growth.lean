import EntityMapper.Proofs.Computation
import EntityMapper.Proofs.Entity.Resolution
import EntityMapper.Proofs.Query.Paths
import EntityMapper.Query.Compiled
/-! Compiling queries: mappings that were resolved before are kept, and what was resolved once is
resolved alike later. -/

namespace EntityMapper

/-- Whatever comes of it, no mapping that is kept in a journal is lost. -/
def Resolving.Steady {α : Type} (x : Resolving α) : Prop :=
  ∀ j : Journal, Meets j.Grows x (fun _ => j.Grows) j.Grows

namespace Resolving.Steady

variable {α β : Type} {x : Resolving α} {f : α → Resolving β}

theorem pure (v : α) : Steady (Pure.pure v) :=
  fun _ => .pure fun _ h => h

theorem throw (e : Error) : Steady (MonadExcept.throw e : Resolving α) :=
  fun _ => .throw fun _ h => h

theorem lift (y : Except Error α) : Steady (liftM y : Resolving α) :=
  fun _ => .lift (fun _ _ _ h => h) fun _ h => h

theorem bind (hx : Steady x) (hf : ∀ v, Steady (f v)) : Steady (x >>= f) :=
  fun j => (hx j).bind fun v => hf v j

theorem note (level : Level) (message : String) :
    Steady (modify (Journal.note level message) : Resolving PUnit) :=
  fun _ => .modify fun _ h => h

theorem resolve (schema : Schema) (d : EntityDescriptor) :
    Steady (Journal.resolve schema d) := by
  intro j k hk
  have hg := hk.trans (Journal.resolve_grows schema d k)
  rcases hr : Journal.resolve schema d k with ⟨e | m, l⟩ <;> rw [hr] at hg <;> exact hg

end Resolving.Steady

/-- What has given a value gives the same one from every journal with the mappings known by
then. -/
structure Resolving.Stable {α : Type} (x : Resolving α) : Prop where
  steady : x.Steady
  again : ∀ {j l : Journal} {v : α}, x j = (.ok v, l) → ∀ {k : Journal}, l.Grows k →
    (x k).1 = .ok v

open Resolving (Steady Stable)

namespace Resolving.Stable

variable {α β : Type} {x : Resolving α} {f : α → Resolving β}

theorem pure (v : α) : Stable (Pure.pure v) := by
  refine ⟨.pure v, fun h _ _ => ?_⟩
  cases h
  rfl

theorem throw (e : Error) : Stable (MonadExcept.throw e : Resolving α) := by
  refine ⟨.throw e, fun h _ _ => ?_⟩
  cases h

theorem bind (hx : Stable x) (hf : ∀ v, Stable (f v)) : Stable (x >>= f) := by
  refine ⟨hx.steady.bind fun v => (hf v).steady, fun {j l v} h k hk => ?_⟩
  obtain ⟨u, i, hu, hv⟩ := exists_of_bind h
  have hi := ((hf u).steady i).final (.refl i)
  rw [hv] at hi
  have hagain := hx.again hu (hi.trans hk)
  have hgrows := (hx.steady k).final (.refl k)
  rw [bind_apply]
  rcases hr : x k with ⟨e | w, k'⟩ <;> rw [hr] at hagain hgrows <;> cases hagain
  exact (hf u).again hv (hk.trans hgrows)

theorem note (level : Level) (message : String) :
    Stable (modify (Journal.note level message) : Resolving PUnit) :=
  ⟨.note level message, fun _ _ _ => rfl⟩

theorem resolve (schema : Schema) (d : EntityDescriptor) :
    Stable (Journal.resolve schema d) := by
  refine ⟨.resolve schema d, fun h k hk => ?_⟩
  rw [Journal.resolve_of_find? (hk _ _ (Journal.find?_resolve h))]

end Resolving.Stable

namespace QueryScope

variable (s : QueryScope)

theorem stable_navigate (qualifier : Option Token) (ordinal : Nat) (r : ReferenceMapping)
    (field : Token) : Stable (s.navigate qualifier ordinal r field) := by
  refine (Stable.resolve _ _).bind fun target => ?_
  split
  · exact .pure _
  · split
    · exact .throw _
    · split
      · exact .pure _
      · exact .throw _

theorem stable_unknownPath (core : Token) : Stable (s.unknownPath core) := by
  unfold unknownPath
  split
  · exact .throw _
  · exact (Stable.note _ _).bind fun _ => .pure _

theorem stable_resolvePath (core : Token) (path : List Token) :
    Stable (s.resolvePath core path) := by
  have h := s.resolves_resolvePath core path
  generalize s.resolvePath core path = x at h ⊢
  cases h with
  | field | column | kept => exact .pure _
  | reference | aliasReference => exact (s.stable_navigate _ _ _ _).bind fun _ => .pure _
  | unknown => exact s.stable_unknownPath core
  | refused => exact .throw _

theorem steady_resolveToken (t : Token) : Steady (s.resolveToken t) := by
  unfold resolveToken
  dsimp only
  split
  · exact .pure _
  · refine (s.stable_resolvePath _ _).steady.bind fun column => ?_
    cases column <;> exact .pure _

end QueryScope

namespace QueryPlan

theorem steady_resolveFrom (p : QueryPlan) (s : QueryScope) (i : Nat) (ts : List Token) :
    Steady (p.resolveFrom s i ts) := by
  induction ts generalizing i with
  | nil => exact .pure _
  | cons t rest ih =>
    unfold resolveFrom
    dsimp only
    split
    · exact (ih (i + 1)).bind fun _ => .pure _
    · exact (s.steady_resolveToken t).bind fun _ => (ih (i + 1)).bind fun _ => .pure _

theorem steady_joinClauses (schema : Schema) (rootAlias : Option Token) (ordinal : Nat)
    (rs : List ReferenceMapping) : Steady (joinClauses schema rootAlias ordinal rs) := by
  induction rs generalizing ordinal with
  | nil => exact .pure _
  | cons r rest ih =>
    exact (Steady.resolve _ _).bind fun _ => (ih (ordinal + 1)).bind fun _ => .pure _

theorem steady_compile (p : QueryPlan) (schema : Schema) (root : Metadata) (strict : Bool) :
    Steady (p.compile schema root strict) := by
  have htokens : Steady (p.statementTokens (p.scope schema root strict)) := by
    refine (p.steady_resolveFrom _ 0 p.tokens).bind fun resolved => ?_
    dsimp only
    split
    · exact (steady_joinClauses _ _ 0 _).bind fun _ => .pure _
    · exact .pure _
  exact (Steady.lift _).bind fun _ => htokens.bind fun _ => .pure _

end QueryPlan

namespace EntityQuery

theorem steady_compile (schema : Schema) (strict : Bool) (root : EntityDescriptor)
    (q : EntityQuery) : Steady (q.compile schema strict root) := by
  refine (Steady.resolve _ _).bind fun m => ?_
  cases QueryPlan.ofQuery q with
  | error f => exact .throw _
  | ok p => exact (p.steady_compile _ _ _).bind fun _ => (Steady.note _ _).bind fun _ => .pure _

end EntityQuery

end EntityMapper
