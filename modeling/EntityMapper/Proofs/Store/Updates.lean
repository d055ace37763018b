import EntityMapper.Query.Statement
/-! Updates of single rows: what the statement says, and what the one of an entity says. -/

namespace EntityMapper

/-- What an UPDATE of single rows says. -/
structure RowUpdate where
  table : String
  idColumn : String
  id : Value
  /-- The columns that are written, with their values. -/
  assigned : List (String × Value)
  test : Option VersionTest
  /-- The values for the places of the test. -/
  tested : List Value

namespace RowUpdate

def ofCommand? (c : Command) : Option RowUpdate :=
  match c.statement with
  | .update table columns idColumn test =>
    match c.params.drop columns.length with
    | id :: tested => some ⟨table, idColumn, id, columns.zip c.params, test, tested⟩
    | [] => none
  | _ => none

end RowUpdate

namespace Metadata

variable {m : Metadata}

theorem zip_map_append {α β γ : Type} (f : α → β) (h : α → γ) (l : List α) (rest : List γ) :
    (l.map f).zip (l.map h ++ rest) = l.map fun a => (f a, h a) := by
  induction l with
  | nil => rfl
  | cons a l ih => simp [ih]

variable {expected : Option Value} {id : Value} {source : FieldSource} {plan : UpdatePlan}

/-- The version that an UPDATE tests the row for: the one that is given, or else the one that the
entity holds. -/
def testedVersion (version : ColumnMapping) (expected : Option Value) (source : FieldSource) :
    Value :=
  expected.getD ((source version.field).getD .null)

theorem exists_of_versionStep {v : ColumnMapping} (hv : m.version = some v)
    {step : Option (ColumnMapping × Value × Value)} (h : m.versionStep expected source = .ok step) :
    ∃ next, (testedVersion v expected source).nextVersion = some next ∧
      step = some (v, testedVersion v expected source, next) := by
  unfold versionStep at h
  rw [hv] at h
  dsimp only at h
  rw [← testedVersion] at h
  cases hn : (testedVersion v expected source).nextVersion with
  | none =>
    rw [hn] at h
    cases h
  | some next =>
    rw [hn] at h
    cases h
    exact ⟨next, rfl, rfl⟩

/-- A step is one of the version field, if the mapping has one. -/
theorem version_of_versionStep {step : Option (ColumnMapping × Value × Value)}
    (h : m.versionStep expected source = .ok step) : m.version = step.map (·.1) := by
  cases hv : m.version with
  | none =>
    obtain rfl : none = step := by simpa [versionStep, hv] using h
    rfl
  | some v =>
    obtain ⟨next, -, rfl⟩ := exists_of_versionStep hv h
    rfl

/-- The version field is assigned the next version, and any other field what the source has. -/
theorem assignedValue_of_versionStep {step : Option (ColumnMapping × Value × Value)}
    (h : m.versionStep expected source = .ok step) (f : PersistentField) :
    assignedValue step source f =
      if m.version.any (·.field == f.field) then (step.map (·.2.2)).getD .null
      else (source f.field).getD .null := by
  rw [version_of_versionStep h]
  cases step <;> simp [assignedValue]

/-- An UPDATE is made from the step of the version and the fields that it writes. -/
theorem exists_of_updateOf (h : m.updateOf expected id source = .ok plan) :
    m.updatable ≠ [] ∧ ∃ step, m.versionStep expected source = .ok step ∧
      plan.command = ⟨.update m.table (m.updatable.map (·.column)) m.id.column (versionTest step).1,
        m.updatable.map (assignedValue step source) ++ id :: (versionTest step).2⟩ ∧
      plan.nextVersion = step.map fun s => s.2.2 := by
  unfold updateOf at h
  cases hs : m.versionStep expected source with
  | error e => simp [hs, bind, Except.bind] at h
  | ok step =>
    by_cases hu : m.updatable.isEmpty = true
    · simp [hs, hu, bind, Except.bind, throw, throwThe, MonadExceptOf.throw] at h
    · simp only [hs, hu, bind, Except.bind, pure, Except.pure, Bool.false_eq_true, if_false,
        Except.ok.injEq] at h
      subst h
      exact ⟨fun hnone => hu (by rw [hnone]; rfl), step, rfl, rfl, rfl⟩

/-- What the UPDATE of a row says. -/
theorem ofCommand?_updateOf (h : m.updateOf expected id source = .ok plan) :
    ∃ step, m.versionStep expected source = .ok step ∧
      RowUpdate.ofCommand? plan.command = some ⟨m.table, m.id.column, id,
        m.updatable.map fun f => (f.column, assignedValue step source f),
        (versionTest step).1, (versionTest step).2⟩ ∧
      plan.nextVersion = step.map fun s => s.2.2 := by
  obtain ⟨-, step, hstep, hcommand, hnext⟩ := exists_of_updateOf h
  refine ⟨step, hstep, ?_, hnext⟩
  rw [hcommand]
  simp [RowUpdate.ofCommand?, zip_map_append]

end Metadata

end EntityMapper
