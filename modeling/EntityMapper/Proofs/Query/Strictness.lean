import EntityMapper.Proofs.Computation
import EntityMapper.Query.Compiled
/-! Strictness: a strict translation refuses queries that a lax one admits, and whatever it admits
both translate alike. -/

namespace EntityMapper

namespace Resolving

variable {α β : Type}

/-- Wherever the first computation gives a value, the second one gives the same value and leaves the
same journal. -/
def Below (x y : Resolving α) : Prop :=
  ∀ j v k, x j = (.ok v, k) → y j = (.ok v, k)

namespace Below

variable {x y : Resolving α}

theorem refl (x : Resolving α) : Below x x :=
  fun _ _ _ h => h

theorem throw (e : Error) (y : Resolving α) : Below (MonadExcept.throw e) y := by
  intro j v k h
  cases h

theorem bind {f g : α → Resolving β} (hx : Below x y) (hf : ∀ v, Below (f v) (g v)) :
    Below (x >>= f) (y >>= g) := by
  intro j v k h
  rw [bind_apply] at h ⊢
  rcases hr : x j with ⟨e | u, l⟩ <;> rw [hr] at h
  · cases h
  · rw [hx j u l hr]
    exact hf u l v k h

/-- What the second computation refuses, the first one refuses. -/
theorem refused (h : Below x y) {j k : Journal} {e : Error} (hy : y j = (.error e, k)) :
    ∃ e' k', x j = (.error e', k') := by
  rcases hx : x j with ⟨e' | v, k'⟩
  · exact ⟨e', k', rfl⟩
  · have hok := h j v k' hx
    rw [hy] at hok
    cases hok

end Below

end Resolving

open Resolving (Below)

namespace QueryScope

variable (s : QueryScope)

/-- The scope in which paths that name nothing stay as they are. -/
def lax : QueryScope :=
  { s with strict := false }

theorem lax_root : s.lax.root = s.root := rfl

theorem lax_column (field : Token) : s.lax.column? field = s.column? field := rfl

theorem below_unknownPath (core : Token) : Below (s.unknownPath core) (s.lax.unknownPath core) := by
  cases hs : s.strict with
  | true =>
    rw [unknownPath, if_pos hs]
    exact .throw _ _
  | false =>
    rw [unknownPath, if_neg (by simp [hs])]
    exact .refl _

/-- Strictness matters only for paths that name nothing. -/
theorem below_resolvePath (core : Token) (path : List Token) :
    Below (s.resolvePath core path) (s.lax.resolvePath core path) := by
  rcases path with _ | ⟨qualifier, _ | ⟨field, _ | ⟨last, _ | ⟨further, rest⟩⟩⟩⟩
  · exact .refl _
  · exact .refl _
  · by_cases hq : some qualifier = s.rootAlias
    · have hlax : some qualifier = s.lax.rootAlias := hq
      simp only [resolvePath, if_pos hq, if_pos hlax]
      rw [s.lax_column field]
      cases s.column? field with
      | some column => exact .refl _
      | none => exact s.below_unknownPath core
    · have hlax : ¬ some qualifier = s.lax.rootAlias := hq
      simp only [resolvePath, if_neg hq, if_neg hlax]
      rw [s.lax_root]
      cases s.root.referenceAlike? qualifier with
      | some found => exact .refl _
      | none =>
        dsimp only
        split
        · exact .throw _ _
        · exact .refl _
  · by_cases hq : some qualifier = s.rootAlias
    · have hlax : some qualifier = s.lax.rootAlias := hq
      simp only [resolvePath, if_pos hq, if_pos hlax]
      rw [s.lax_root]
      cases s.root.referenceAlike? field with
      | some found => exact .refl _
      | none => exact s.below_unknownPath core
    · have hlax : ¬ some qualifier = s.lax.rootAlias := hq
      simp only [resolvePath, if_neg hq, if_neg hlax]
      exact .refl _
  · simp only [resolvePath]
    split
    · exact .throw _ _
    · rw [if_neg (by simp [lax])]
      exact .refl _

theorem below_resolveToken (t : Token) : Below (s.resolveToken t) (s.lax.resolveToken t) := by
  unfold resolveToken
  dsimp only
  split
  · exact .refl _
  · exact (s.below_resolvePath _ _).bind fun _ => .refl _

end QueryScope

namespace QueryPlan

variable (p : QueryPlan) (s : QueryScope)

theorem below_resolveFrom (i : Nat) (ts : List Token) :
    Below (p.resolveFrom s i ts) (p.resolveFrom s.lax i ts) := by
  induction ts generalizing i with
  | nil => exact .refl _
  | cons t rest ih =>
    unfold resolveFrom
    dsimp only
    split
    · exact (ih (i + 1)).bind fun _ => .refl _
    · exact (s.below_resolveToken t).bind fun _ => (ih (i + 1)).bind fun _ => .refl _

theorem below_checkEntity :
    Below (liftM (p.checkEntity s) : Resolving Unit) (liftM (p.checkEntity s.lax)) := by
  have hlax : p.checkEntity s.lax = .ok () := by
    simp [checkEntity, QueryScope.lax]
  intro j v k h
  rw [liftM_except_apply] at h ⊢
  obtain ⟨-, rfl⟩ := Prod.mk.inj h
  rw [hlax]

theorem below_compile (schema : Schema) (root : Metadata) :
    Below (p.compile schema root true) (p.compile schema root false) := by
  have htokens : Below (p.statementTokens (p.scope schema root true))
      (p.statementTokens (p.scope schema root false)) :=
    (p.below_resolveFrom (p.scope schema root true) 0 p.tokens).bind fun _ => .refl _
  exact (p.below_checkEntity (p.scope schema root true)).bind fun _ =>
    htokens.bind fun _ => .refl _

end QueryPlan

namespace EntityQuery

theorem below_compile (schema : Schema) (root : EntityDescriptor) (q : EntityQuery) :
    Below (q.compile schema true root) (q.compile schema false root) := by
  refine Below.bind (.refl _) fun m => ?_
  cases QueryPlan.ofQuery q with
  | error f => exact .throw _ _
  | ok p => exact (p.below_compile schema m).bind fun _ => .refl _

/-- Strictness only refuses queries: a statement that the strict translation gives, the lax one
gives too, with the same values, and a query that the lax one refuses is refused by the strict
one. -/
theorem strict_only_refuses (schema : Schema) (root : EntityDescriptor) (q : EntityQuery)
    (j : Journal) :
    (∀ c k, q.compile schema true root j = (.ok c, k) →
        ∃ c', q.compile schema false root j = (.ok c', k) ∧ c'.sql = c.sql ∧
          c'.params = c.params) ∧
      ∀ e k, q.compile schema false root j = (.error e, k) →
        ∃ e' k', q.compile schema true root j = (.error e', k') := by
  have hbelow := q.below_compile schema root
  exact ⟨fun c k h => ⟨c, hbelow j c k h, rfl, rfl⟩, fun e k h => hbelow.refused h⟩

end EntityQuery

namespace SampleStrictness

def note : EntityDescriptor where
  path := "Note"
  name := "Note"
  table := some "notes"
  fields := [{ name := "id", isId := true }, { name := "title", column := some "note_title" }]

/-- The notes with a value in a field. -/
def having (field : String) (params : Assoc String Value) : EntityQuery where
  text := "select n from Note n where n." ++ field ++ " = :given"
  params := params

def given : Assoc String Value :=
  ⟨[("given", .big 1 IntWidth.big.holds_one)]⟩

/-- What a translation gives for the notes with a value in a field. -/
def translated (strict : Bool) (field : String) (params : Assoc String Value := given) :
    Except Error CompiledQuery × Journal :=
  (having field params).compile [note] strict note {}

def titled : CompiledQuery where
  tokens := ["select", "*", "from", "notes", "n", "where", "n.note_title", "=", "?"].map
    String.toList
  params := [.big 1 IntWidth.big.holds_one]

/-- A field is found by both translations, a parameter without value by neither of them, and what
is no field by the lax one alone. -/
theorem strict_only_refuses_note :
    translated true "title" = (.ok titled, (translated true "title").2) ∧
      (∃ c, translated false "title" = (.ok c, (translated true "title").2) ∧
        c.sql = titled.sql ∧ c.params = titled.params) ∧
      (translated false "title" .empty).1.isOk = false ∧
      (∃ e k, translated true "title" .empty = (.error e, k)) ∧
      (translated false "colour").1.isOk = true ∧ (translated true "colour").1.isOk = false := by
  have htitled : translated true "title" = (.ok titled, (translated true "title").2) := rfl
  have hfound := (having "title" given).strict_only_refuses [note] note {}
  have hunbound := (having "title" .empty).strict_only_refuses [note] note {}
  exact ⟨htitled, hfound.1 _ _ htitled, rfl, hunbound.2 _ _ rfl, rfl, rfl⟩

end SampleStrictness

end EntityMapper
