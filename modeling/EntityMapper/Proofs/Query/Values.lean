import EntityMapper.Proofs.Query.Places
import EntityMapper.Proofs.Store.Updates
/-! Values and texts: the values of parameters and of fields have no part in the text of a
statement. -/

namespace EntityMapper

/-- From every journal two resolvings come to one journal, with one error or with related values. -/
def Resolving.Alike {α : Type} (R : α → α → Prop) (x y : Resolving α) : Prop :=
  ∀ j, (x j).2 = (y j).2 ∧ SameErrors R (x j).1 (y j).1

/-- Two maps in which the same names have values. -/
def SameNames (bound₁ bound₂ : Assoc String Value) : Prop :=
  ∀ name, (bound₁.find? name).isSome = (bound₂.find? name).isSome

section Queries

variable {bound₁ bound₂ : Assoc String Value} (hnames : SameNames bound₁ bound₂)

include hnames

theorem sameErrors_lookUpAll (names : List Token) :
    SameErrors (fun _ _ => True) (lookUpAll bound₁ names) (lookUpAll bound₂ names) := by
  induction names with
  | nil => exact .ok trivial
  | cons name rest ih =>
    have hname := hnames (String.ofList name)
    unfold lookUpAll
    cases h₁ : bound₁.find? (String.ofList name) with
    | none =>
      rw [h₁] at hname
      rw [Option.isSome_eq_false_iff.mp hname.symm |> Option.isNone_iff_eq_none.mp]
      exact .error name
    | some v =>
      rw [h₁] at hname
      obtain ⟨u, h₂⟩ := Option.isSome_iff_exists.mp hname.symm
      rw [h₂]
      exact ih.map fun _ _ _ => trivial

theorem sameErrors_placeAll (ws : List Token) :
    SameErrors (fun a b => a.1 = b.1) (QueryPlan.placeAll bound₁ ws)
      (QueryPlan.placeAll bound₂ ws) := by
  induction ws with
  | nil => exact .ok rfl
  | cons w ws ih =>
    have hplaced : SameErrors (fun a b => a.token = b.token) (placeParameters bound₁ w)
        (placeParameters bound₂ w) :=
      (sameErrors_lookUpAll hnames _).map fun _ _ _ => rfl
    refine hplaced.bind fun a b hab => ih.bind fun as bs habs => ?_
    exact .ok (by rw [hab, habs])

/-- Plans of one query differ at most in the values of its parameters. -/
theorem sameErrors_ofQuery (text : String) :
    SameErrors (fun p₁ p₂ => p₁ = { p₂ with params := p₁.params })
      (QueryPlan.ofQuery ⟨text, bound₁⟩) (QueryPlan.ofQuery ⟨text, bound₂⟩) := by
  have hplaced := sameErrors_placeAll hnames (Text.words text.toList)
  unfold QueryPlan.ofQuery
  dsimp only
  split
  · exact .error _
  split
  · exact .error _
  split
  · exact .error _
  revert hplaced
  generalize QueryPlan.placeAll bound₁ _ = x
  generalize QueryPlan.placeAll bound₂ _ = y
  rintro (e | h)
  · exact .error _
  · exact .ok (by rw [h])

end Queries

namespace QueryPlan

variable (p : QueryPlan) (params : List Value)

theorem resolveFrom_withParams (s : QueryScope) (i : Nat) (ts : List Token) :
    { p with params }.resolveFrom s i ts = p.resolveFrom s i ts := by
  induction ts generalizing i with
  | nil => rfl
  | cons t rest ih =>
    unfold resolveFrom
    rw [ih]
    rfl

/-- The values of a plan are handed on and decide nothing. -/
theorem compile_withParams (schema : Schema) (root : Metadata) (strict : Bool) :
    { p with params }.compile schema root strict =
      (fun c => { c with params }) <$> p.compile schema root strict := by
  have htokens : { p with params }.statementTokens (p.scope schema root strict) =
      p.statementTokens (p.scope schema root strict) := by
    unfold statementTokens
    rw [resolveFrom_withParams]
  unfold compile
  simp only [map_bind, map_pure]
  rw [← htokens]
  rfl

variable {p}

theorem params_of_compile {schema : Schema} {root : Metadata} {strict : Bool} {j k : Journal}
    {c : CompiledQuery} (h : p.compile schema root strict j = (.ok c, k)) : c.params = p.params := by
  obtain ⟨_, _, _, h⟩ := exists_of_bind h
  obtain ⟨_, _, _, hc⟩ := exists_of_bind h
  cases hc
  rfl

end QueryPlan

namespace EntityQuery

variable {bound₁ bound₂ : Assoc String Value}

/-- One statement for two sets of values: its places take the values of the same names. -/
structure SameStatement (text : String) (bound₁ bound₂ : Assoc String Value)
    (c₁ c₂ : CompiledQuery) : Prop where
  sql : c₁.sql = c₂.sql
  params₁ : List.Forall₂ (Binds bound₁) (Piece.names (Text.words text.toList)) c₁.params
  params₂ : List.Forall₂ (Binds bound₂) (Piece.names (Text.words text.toList)) c₂.params

theorem alike_compile (hnames : SameNames bound₁ bound₂) (schema : Schema) (strict : Bool)
    (root : EntityDescriptor) (text : String) :
    Resolving.Alike (SameStatement text bound₁ bound₂)
      (compile schema strict root ⟨text, bound₁⟩) (compile schema strict root ⟨text, bound₂⟩) := by
  intro j
  have hplans := (sameErrors_ofQuery hnames text).strengthen fun p₁ p₂ h₁ h₂ h =>
    And.intro h (And.intro (planned_of_ofQuery h₁).params (planned_of_ofQuery h₂).params)
  unfold compile
  simp only [bind_apply]
  rcases Journal.resolve schema root j with ⟨e | m, k⟩
  · exact ⟨rfl, .error e⟩
  dsimp only
  revert hplans
  generalize QueryPlan.ofQuery ⟨text, bound₁⟩ = x
  generalize QueryPlan.ofQuery ⟨text, bound₂⟩ = y
  rintro (f | ⟨hplan, hparams₁, hparams₂⟩)
  · exact ⟨rfl, .error _⟩
  rename_i p₁ p₂
  rw [hplan]
  dsimp only
  rw [QueryPlan.compile_withParams]
  simp only [bind_apply, map_apply]
  rcases hc : p₂.compile schema m strict k with ⟨e | c, l⟩
  · exact ⟨rfl, .error e⟩
  · have hown : c.params = p₂.params := QueryPlan.params_of_compile hc
    exact ⟨rfl, .ok ⟨rfl, hparams₁, hown ▸ hparams₂⟩⟩

end EntityQuery

namespace Metadata

variable (m : Metadata)

/-- The test of the version depends on the versions only in whether they are missing. -/
theorem versionTest_congr {expected₁ expected₂ : Option Value} {source₁ source₂ : FieldSource}
    {step₁ step₂ : Option (ColumnMapping × Value × Value)}
    (hnull : ∀ v, m.version = some v →
      (testedVersion v expected₁ source₁).isNull = (testedVersion v expected₂ source₂).isNull)
    (h₁ : m.versionStep expected₁ source₁ = .ok step₁)
    (h₂ : m.versionStep expected₂ source₂ = .ok step₂) :
    (versionTest step₁).1 = (versionTest step₂).1 := by
  cases hv : m.version with
  | none =>
    simp only [versionStep, hv, Except.ok.injEq] at h₁ h₂
    rw [← h₁, ← h₂]
  | some v =>
    obtain ⟨next₁, -, rfl⟩ := exists_of_versionStep hv h₁
    obtain ⟨next₂, -, rfl⟩ := exists_of_versionStep hv h₂
    simp only [versionTest, hnull v hv]
    split <;> rfl

theorem text_updateOf {expected₁ expected₂ : Option Value} {id₁ id₂ : Value}
    {source₁ source₂ : FieldSource} {plan₁ plan₂ : UpdatePlan}
    (hnull : ∀ v, m.version = some v →
      (testedVersion v expected₁ source₁).isNull = (testedVersion v expected₂ source₂).isNull)
    (h₁ : m.updateOf expected₁ id₁ source₁ = .ok plan₁)
    (h₂ : m.updateOf expected₂ id₂ source₂ = .ok plan₂) :
    plan₁.command.statement.text = plan₂.command.statement.text := by
  obtain ⟨-, step₁, hstep₁, hcommand₁, -⟩ := exists_of_updateOf h₁
  obtain ⟨-, step₂, hstep₂, hcommand₂, -⟩ := exists_of_updateOf h₂
  rw [hcommand₁, hcommand₂, m.versionTest_congr hnull hstep₁ hstep₂]

end Metadata

/-- No value gets into the text of a statement. With one set of parameter names a query has one
outcome whatever the values are: an error, or a statement whose places take the values of the same
names. All rows of a mapping are inserted by one text, and updated by one text as far as their
versions are all missing or all present. -/
theorem values_stay_out_of_texts :
    (∀ schema strict root text bound₁ bound₂, SameNames bound₁ bound₂ →
      Resolving.Alike (EntityQuery.SameStatement text bound₁ bound₂)
        (EntityQuery.compile schema strict root ⟨text, bound₁⟩)
        (EntityQuery.compile schema strict root ⟨text, bound₂⟩)) ∧
      (∀ (m : Metadata) source₁ source₂,
        (m.insertOf source₁).statement.text = (m.insertOf source₂).statement.text) ∧
      ∀ (m : Metadata) expected₁ expected₂ id₁ id₂ source₁ source₂ plan₁ plan₂,
        m.updateOf expected₁ id₁ source₁ = .ok plan₁ →
        m.updateOf expected₂ id₂ source₂ = .ok plan₂ →
        (∀ v, m.version = some v → (Metadata.testedVersion v expected₁ source₁).isNull =
          (Metadata.testedVersion v expected₂ source₂).isNull) →
        plan₁.command.statement.text = plan₂.command.statement.text :=
  ⟨fun schema strict root text _ _ h => EntityQuery.alike_compile h schema strict root text,
    fun _ _ _ => rfl, fun m _ _ _ _ _ _ _ _ h₁ h₂ hnull => m.text_updateOf hnull h₁ h₂⟩

namespace SampleValues

def account : EntityDescriptor where
  path := "Account"
  name := "Account"
  table := some "accounts"
  fields := [{ name := "id", isId := true }, { name := "owner" },
    { name := "version", isVersion := true, integral := true }]

def mapping : Metadata :=
  .ofFields account { name := "id", isId := true }
    (some { name := "version", isVersion := true, integral := true })
    [.column ⟨"id", "id"⟩, .column ⟨"owner", "owner"⟩, .column ⟨"version", "version"⟩]

/-- The accounts of an owner. -/
def owned : String :=
  "select a from Account a where a.owner = :owner"

def tame : Assoc String Value :=
  ⟨[("owner", .null)]⟩

/-- A text that looks like the end of one statement and the beginning of another. -/
def wild : Assoc String Value :=
  ⟨[("owner", .text "' or ? = :owner; delete from accounts --")]⟩

theorem sameNames_tame_wild : SameNames tame wild := by
  intro name
  simp only [tame, wild, Assoc.find?, List.find?_cons, List.find?_nil]
  cases "owner" == name <;> rfl

/-- The fields of an account at a version. -/
def holding (owner version : Value) : FieldSource
  | "owner" => some owner
  | "version" => some version
  | _ => none

def compiled (bound : Assoc String Value) : Except Error CompiledQuery × Journal :=
  EntityQuery.compile [account] true account ⟨owned, bound⟩ {}

/-- What an account is updated by. -/
def updated (id owner version : Value) : Except UpdateFault UpdatePlan :=
  mapping.updateOf none id (holding owner version)

/-- The accounts of two owners are found by one text, and two accounts are updated by one text. -/
theorem values_stay_out_of_accounts :
    SameNames tame wild ∧ (compiled tame).1.isOk = true ∧
      Resolving.Alike (EntityQuery.SameStatement owned tame wild)
        (EntityQuery.compile [account] true account ⟨owned, tame⟩)
        (EntityQuery.compile [account] true account ⟨owned, wild⟩) ∧
      ∃ plan₁ plan₂, updated (.big 1 IntWidth.big.holds_one) (.text "Ann")
          (.integer .small ⟨1, IntWidth.small.holds_one⟩) = .ok plan₁ ∧
        updated (.text "?") (.text "' --") (.big 1 IntWidth.big.holds_one) = .ok plan₂ ∧
        plan₁.command.statement.text = plan₂.command.statement.text := by
  refine ⟨sameNames_tame_wild, rfl,
    values_stay_out_of_texts.1 [account] true account owned tame wild sameNames_tame_wild, ?_⟩
  obtain ⟨plan₁, h₁⟩ : ∃ plan, updated (.big 1 IntWidth.big.holds_one) (.text "Ann")
      (.integer .small ⟨1, IntWidth.small.holds_one⟩) = .ok plan := ⟨_, rfl⟩
  obtain ⟨plan₂, h₂⟩ : ∃ plan, updated (.text "?") (.text "' --")
      (.big 1 IntWidth.big.holds_one) = .ok plan := ⟨_, rfl⟩
  refine ⟨plan₁, plan₂, h₁, h₂,
    values_stay_out_of_texts.2.2 mapping _ _ _ _ _ _ plan₁ plan₂ h₁ h₂ fun v hv => ?_⟩
  cases hv
  rfl

end SampleValues

end EntityMapper
