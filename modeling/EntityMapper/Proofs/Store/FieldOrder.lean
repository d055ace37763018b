import EntityMapper.Proofs.Entity.Typing
import EntityMapper.Proofs.Entity.Unmarked
import EntityMapper.Proofs.Store.Updates
import EntityMapper.Scenario.Catalogue
/-! Field order: snapshots, INSERTs and UPDATEs list the stored fields in one order, and each value
of a statement has its place. -/

namespace EntityMapper

namespace Text

/-- The number of places in a text. -/
def places (s : String) : Nat :=
  s.toList.count '?'

@[simp] theorem places_append (s t : String) : places (s ++ t) = places s + places t := by
  simp [places]

theorem places_of_unmarked {s : String} (h : Unmarked s.toList) : places s = 0 :=
  List.count_eq_zero.mpr h

theorem places_intercalate {l : List String} {k : Nat} (h : ∀ s ∈ l, places s = k) :
    places (", ".intercalate l) = l.length * k := by
  induction l with
  | nil => simp [places]
  | cons s l ih =>
    obtain ⟨hs, hl⟩ := List.forall_mem_cons.mp h
    cases l with
    | nil => simp [hs]
    | cons t l =>
      have hcomma : places ", " = 0 := by decide
      rw [String.intercalate_cons_cons, places_append, places_append, hs, hcomma, ih hl,
        List.length_cons (a := s), Nat.succ_mul]
      omega

end Text

open Text

namespace Statement

variable {table : String} {columns : List String}

/-- An INSERT has one place for each column. -/
theorem places_insert (ht : Unmarked table.toList) (hc : ∀ c ∈ columns, Unmarked c.toList) :
    places (insert table columns).text = columns.length := by
  have htable := places_of_unmarked ht
  cases columns with
  | nil =>
    change places ("insert into " ++ table ++ " default values") = 0
    simp [htable]
    decide
  | cons c rest =>
    change places ("insert into " ++ table ++ " (" ++ ", ".intercalate (c :: rest) ++ ") values (" ++
      ", ".intercalate ((c :: rest).map fun _ => "?") ++ ")") = (c :: rest).length
    have hcolumns := places_intercalate fun s hs => places_of_unmarked (hc s hs)
    have hvalues : places (", ".intercalate ((c :: rest).map fun _ => "?")) =
        ((c :: rest).map fun _ => "?").length * 1 :=
      places_intercalate fun s hs => by
        obtain ⟨-, -, rfl⟩ := List.mem_map.mp hs
        decide
    simp only [places_append, htable, hcolumns, hvalues, List.length_map]
    have h1 : places "insert into " = 0 := by decide
    have h2 : places " (" = 0 := by decide
    have h3 : places ") values (" = 0 := by decide
    have h4 : places ")" = 0 := by decide
    omega

/-- An UPDATE has one place for each column and one for the identifier, besides those of its
test. -/
theorem places_update {idColumn : String} {test : Option VersionTest} (ht : Unmarked table.toList)
    (hc : ∀ c ∈ columns, Unmarked c.toList) (hid : Unmarked idColumn.toList) :
    places (update table columns idColumn test).text =
      columns.length + 1 + places ((test.map VersionTest.text).getD "") := by
  have htable := places_of_unmarked ht
  have hidColumn := places_of_unmarked hid
  have hassigned : places (", ".intercalate (columns.map (· ++ " = ?"))) =
      (columns.map (· ++ " = ?")).length * 1 :=
    places_intercalate fun s hs => by
      obtain ⟨c, hcolumn, rfl⟩ := List.mem_map.mp hs
      rw [places_append, places_of_unmarked (hc c hcolumn)]
      decide
  change places ("update " ++ table ++ " set " ++ ", ".intercalate (columns.map (· ++ " = ?")) ++
    " where " ++ idColumn ++ " = ?" ++ (test.map VersionTest.text).getD "") = _
  simp only [places_append, htable, hidColumn, hassigned, List.length_map]
  have h1 : places "update " = 0 := by decide
  have h2 : places " set " = 0 := by decide
  have h3 : places " where " = 0 := by decide
  have h4 : places " = ?" = 1 := by decide
  omega

end Statement

namespace Snapshot

/-- The stored fields with the values of a snapshot, without those named as the identifier. -/
def writable (s : Snapshot) (m : Metadata) : List (PersistentField × Value) :=
  (m.persistent.zip s.values).filter fun p => p.1.field != m.id.field

/-- The version that the row of a snapshot has to carry, for a type with versions: the one that is
given, or else the one in the snapshot. -/
def expectedVersion (s : Snapshot) (m : Metadata) (expected : Option Value) : Option Value :=
  m.version.map fun _ => expected.getD (s.version m)

/-- An INSERT writes the values of a snapshot, in the order of the snapshot. -/
structure Inserts (s : Snapshot) (m : Metadata) (c : Command) : Prop where
  statement : c.statement = .insert m.table ((s.writable m).map (·.1.column))
  params : c.params = (s.writable m).map (·.2)
  places : Text.places c.statement.text = c.params.length
  defaults : (∀ f ∈ m.persistent, f.field = m.id.field) →
    c.statement.text = "insert into " ++ m.table ++ " default values" ∧ c.params = []

/-- An UPDATE writes the values of a snapshot, in the order of the snapshot, but the next version
to the version field. Then come the identifier and the expected version, if there is one. -/
structure Updates (s : Snapshot) (m : Metadata) (expected : Option Value) (id : Value)
    (plan : UpdatePlan) : Prop where
  statement : ∃ test, plan.command.statement =
    .update m.table ((s.writable m).map (·.1.column)) m.id.column test
  next : plan.nextVersion.isSome = m.version.isSome ∧
    plan.nextVersion = (s.expectedVersion m expected).bind Value.nextVersion
  params : plan.command.params =
    ((s.writable m).map fun p =>
      if m.version.any (·.field == p.1.field) then plan.nextVersion.getD .null else p.2) ++
      id :: ((s.expectedVersion m expected).filter (!·.isNull)).toList
  places : Text.places plan.command.statement.text = plan.command.params.length

variable {schema : Schema} {d : EntityDescriptor} {m : Metadata} {i : Instance}

theorem writable_capture : (capture m i).writable m =
    m.insertable.map fun f => (f, (i.fieldValue f.field).getD .null) := by
  rw [writable, capture, ← List.map_prod_left_eq_zip, List.filter_map]
  rfl

theorem expectedVersion_capture (hm : Metadata.ofDescriptor schema d = .ok m) {v : ColumnMapping}
    (hv : m.version = some v) (expected : Option Value) :
    (capture m i).expectedVersion m expected =
      some (Metadata.testedVersion v expected i.fieldValue) := by
  have hcaptured := Metadata.valueOf?_capture i (Metadata.version_mem_persistent hm hv)
  simp [expectedVersion, version, Metadata.testedVersion, hv, hcaptured]

/-- No column that statements write has a question mark. -/
theorem unmarked_insertable (hc : ∀ f ∈ m.persistent, Unmarked f.column.toList) :
    ∀ c ∈ m.insertable.map (·.column), Unmarked c.toList := by
  intro c hmem
  obtain ⟨f, hf, rfl⟩ := List.mem_map.mp hmem
  exact hc f (List.mem_filter.mp hf).1

theorem inserts_capture (ht : Unmarked m.table.toList)
    (hc : ∀ f ∈ m.persistent, Unmarked f.column.toList) :
    (capture m i).Inserts m (m.insertOf i.fieldValue) := by
  refine ⟨?_, ?_, ?_, fun honly => ?_⟩
  · simp [Metadata.insertOf, writable_capture]
  · simp [Metadata.insertOf, writable_capture]
  · rw [Metadata.insertOf, Statement.places_insert ht (unmarked_insertable hc)]
    simp
  · have hnone : m.insertable = [] := List.filter_eq_nil_iff.mpr fun f hf => by simp [honly f hf]
    rw [Metadata.insertOf, hnone]
    exact ⟨rfl, rfl⟩

/-- The test of a version has a place exactly if the version is not missing. -/
theorem places_versionTest {step : Option (ColumnMapping × Value × Value)}
    (hcolumn : ∀ s ∈ step, Unmarked s.1.column.toList) :
    places (((Metadata.versionTest step).1.map VersionTest.text).getD "") =
      (Metadata.versionTest step).2.length := by
  cases step with
  | none => rfl
  | some s =>
    obtain ⟨version, current, next⟩ := s
    have hversion := places_of_unmarked (hcolumn _ rfl)
    dsimp only at hversion
    have hand : places " and " = 0 := by decide
    cases hnull : current.isNull
    · have hequal : places " = ?" = 1 := by decide
      simp [Metadata.versionTest, hnull, VersionTest.text, hversion, hand, hequal]
    · have hmissing : places " is null" = 0 := by decide
      simp [Metadata.versionTest, hnull, VersionTest.text, hversion, hand, hmissing]

/-- What is known of a version step: the expected version, with the one that comes after it. -/
theorem step_capture (hm : Metadata.ofDescriptor schema d = .ok m) {expected : Option Value}
    {step : Option (ColumnMapping × Value × Value)}
    (h : m.versionStep expected i.fieldValue = .ok step) :
    (capture m i).expectedVersion m expected = step.map (·.2.1) ∧
      step.map (·.2.2) = (step.map (·.2.1)).bind Value.nextVersion := by
  have hversion := Metadata.version_of_versionStep h
  cases hv : m.version with
  | none =>
    rw [hv, eq_comm, Option.map_eq_none_iff] at hversion
    rw [hversion, expectedVersion, hv]
    exact ⟨rfl, rfl⟩
  | some v =>
    obtain ⟨next, hnext, rfl⟩ := Metadata.exists_of_versionStep hv h
    exact ⟨expectedVersion_capture hm hv expected, hnext.symm⟩

/-- The values for the places of a test are the expected version, unless it is missing. -/
theorem tested_eq (step : Option (ColumnMapping × Value × Value)) :
    (Metadata.versionTest step).2 = ((step.map (·.2.1)).filter (!·.isNull)).toList := by
  cases step with
  | none => rfl
  | some s =>
    obtain ⟨version, current, next⟩ := s
    cases hnull : current.isNull <;> simp [Metadata.versionTest, hnull, Option.filter]

theorem updates_capture (hm : Metadata.ofDescriptor schema d = .ok m)
    (ht : Unmarked m.table.toList) (hc : ∀ f ∈ m.persistent, Unmarked f.column.toList)
    {expected : Option Value} {id : Value} {plan : UpdatePlan}
    (h : m.updateOf expected id i.fieldValue = .ok plan) :
    (capture m i).Updates m expected id plan := by
  obtain ⟨-, step, hstep, hcommand, hnext⟩ := Metadata.exists_of_updateOf h
  obtain ⟨hexpected, hstepped⟩ := step_capture hm hstep
  have hversion := Metadata.version_of_versionStep hstep
  refine ⟨⟨(Metadata.versionTest step).1, ?_⟩, ⟨?_, ?_⟩, ?_, ?_⟩
  · rw [hcommand, writable_capture, List.map_map]
    rfl
  · rw [hnext, hversion]
    cases step <;> rfl
  · rw [hnext, hexpected, hstepped]
  · rw [hcommand, tested_eq, writable_capture, List.map_map, hexpected, hnext]
    refine congrArg (· ++ _) (List.map_congr_left fun f _ => ?_)
    exact Metadata.assignedValue_of_versionStep hstep f
  · have htest : ∀ s ∈ step, Unmarked s.1.column.toList := by
      rintro s rfl
      exact hc _ (Metadata.version_mem_persistent hm hversion)
    have hid : Unmarked m.id.column.toList := hc _ (Metadata.id_mem_persistent hm)
    rw [hcommand, Metadata.updatable]
    simp only [List.length_append, List.length_cons, List.length_map]
    rw [Statement.places_update ht (unmarked_insertable hc) hid, places_versionTest htest,
      List.length_map]
    omega

/-- Snapshots, INSERTs and UPDATEs of an entity agree in the order of its fields, and each
statement has as many places as values. -/
theorem capture_orders_writes (hm : Metadata.ofDescriptor schema d = .ok m)
    (ht : Unmarked m.table.toList) (hc : ∀ f ∈ m.persistent, Unmarked f.column.toList)
    (i : Instance) :
    (capture m i).values.length = m.persistent.length ∧
      (capture m i).Inserts m (m.insertOf i.fieldValue) ∧
      ∀ expected id plan, m.updateOf expected id i.fieldValue = .ok plan →
        (capture m i).Updates m expected id plan :=
  ⟨length_capture m i, inserts_capture ht hc, fun _ _ _ => updates_capture hm ht hc⟩

end Snapshot

namespace SampleFieldOrder

/-- An order that a customer made and nobody approved yet. -/
def order : Instance :=
  let customer := (Instance.initial SampleTypes.customer).setSlot "id"
    (.value (.big 1 IntWidth.big.holds_one))
  (Instance.initial SampleTypes.order).setReference "customer" (some customer)

/-- The fields of an order are written in the order of their names, around the identifier. -/
theorem capture_orders_writes_order : ∃ m plan,
    Metadata.ofDescriptor SampleTypes.catalogue.schema SampleTypes.order.descriptor = .ok m ∧
      m.persistent.map (·.field) =
        ["approver", "customer", "detail", "id", "revision", "total"] ∧
      m.updateOf none (.big 1 IntWidth.big.holds_one) order.fieldValue = .ok plan ∧
      plan.command.params.map Value.toText = ["NULL", "1", "NULL", "1", "0", "1", "0"] ∧
      (Snapshot.capture m order).Inserts m (m.insertOf order.fieldValue) ∧
      (Snapshot.capture m order).Updates m none (.big 1 IntWidth.big.holds_one) plan := by
  obtain ⟨-, hinserts, hupdates⟩ := @Snapshot.capture_orders_writes
    SampleTypes.catalogue.schema SampleTypes.order.descriptor _ rfl (by decide) (by decide) order
  exact ⟨_, _, rfl, by decide, rfl, by decide +kernel, hinserts, hupdates _ _ _ rfl⟩

end SampleFieldOrder

end EntityMapper
