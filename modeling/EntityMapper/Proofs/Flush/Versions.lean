import EntityMapper.Proofs.Flush.Splitting
import EntityMapper.Proofs.Store.Updates
import Mathlib
/-! Guarded updates: what an UPDATE with a version test does to the version of a row, in a store
that executes it as written. -/

namespace EntityMapper

/-- What a version counts. A missing version lies below all others. -/
abbrev VersionNumber := WithBot Int

namespace VersionNumber

/-- The version after this one. -/
def next : VersionNumber → VersionNumber
  | none => ((1 : Int) : WithBot Int)
  | some n => ((n + 1 : Int) : WithBot Int)

theorem lt_next (n : VersionNumber) : n < n.next := by
  induction n using WithBot.recBotCoe with
  | bot => exact WithBot.bot_lt_coe 1
  | coe n => exact WithBot.coe_lt_coe.mpr (Int.lt_succ n)

end VersionNumber

namespace Value

/-- The version that a value stands for, if it is missing or an integer. -/
def version? : Value → Option VersionNumber
  | null => some ⊥
  | integer _ n => some (n.val : WithBot Int)
  | _ => none

theorem version?_nextVersion {x y : Value} (h : x.nextVersion = some y) :
    ∃ n : VersionNumber, x.version? = some n ∧ y.version? = some n.next := by
  cases x with
  | null =>
    cases h
    exact ⟨⊥, rfl, rfl⟩
  | integer w n =>
    obtain ⟨m, hm, rfl⟩ := Option.map_eq_some_iff.mp h
    refine ⟨(n.val : WithBot Int), rfl, ?_⟩
    rw [version?, SizedInt.succ?_eq_some_iff.mp hm]
    rfl
  | _ => cases h

end Value

namespace RowUpdate

/-- The version that a row must have to be written, with its column. -/
def guard? (u : RowUpdate) : Option (String × VersionNumber) :=
  match u.test, u.tested with
  | some (.isMissing column), [] => some (column, ⊥)
  | some (.isEqual column), [.integer _ n] => some (column, (n.val : WithBot Int))
  | _, _ => none

end RowUpdate

/-- A row of a table, by the names and values that the store takes for them. -/
structure RowPlace where
  isTable : String → Bool
  idColumn : String
  isId : Value → Bool

namespace RowPlace

/-- An UPDATE is for the row of a place. -/
def Has (p : RowPlace) (u : RowUpdate) : Prop :=
  p.isTable u.table = true ∧ u.idColumn = p.idColumn ∧ p.isId u.id = true

/-- A mapping keeps the version of a row of the place in a column of its own, and the version is
not the identifier. -/
structure Versions (p : RowPlace) (column : String) (schema : Schema) (m : Metadata) : Prop where
  idColumn : m.id.column = p.idColumn
  checked : ∃ d, Metadata.ofDescriptor schema d = .ok m
  version : ∃ v, m.version = some v ∧ v.column = column ∧ v.field ≠ m.id.field ∧
    ∀ f ∈ m.updatable, f.column = column → f.field = v.field

end RowPlace

/-- A connection executes every guarded UPDATE of one row as written, or it answers an error and
leaves the row alone. Neither queries nor UPDATEs of other rows change the row. -/
structure Connection.Guards {σ : Type} (c : Connection σ) (p : RowPlace)
    (row : σ → String → Value) : Prop where
  query : ∀ cmd s, row (c.query cmd s).2 = row s
  elsewhere : ∀ cmd s u, RowUpdate.ofCommand? cmd = some u →
    (p.isTable u.table = true → u.idColumn = p.idColumn ∧ p.isId u.id = false) →
    row (c.execute cmd s).2 = row s
  failed : ∀ cmd s e, (c.execute cmd s).1 = .error e → row (c.execute cmd s).2 = row s
  accepted : ∀ cmd s u column n, RowUpdate.ofCommand? cmd = some u → p.Has u →
    u.guard? = some (column, n) → (row s column).version? = some n →
    ∀ k, (c.execute cmd s).1 = .ok k → 0 < k ∧ ∀ v, (∃ a ∈ u.assigned, a.1 = column) →
      (∀ a ∈ u.assigned, a.1 = column → a.2.version? = some v) →
        (row (c.execute cmd s).2 column).version? = some v
  refused : ∀ cmd s u column n, RowUpdate.ofCommand? cmd = some u → p.Has u →
    u.guard? = some (column, n) → (row s column).version? ≠ some n →
    ∀ k, (c.execute cmd s).1 = .ok k → k = 0 ∧ row (c.execute cmd s).2 = row s

namespace Metadata

variable {m : Metadata} {schema : Schema} {d : EntityDescriptor} {v : ColumnMapping}

/-- The version field is one of those that an UPDATE writes, unless it is the identifier. -/
theorem version_mem_updatable (hm : ofDescriptor schema d = .ok m) (hv : m.version = some v)
    (hid : v.field ≠ m.id.field) : ⟨v.field, v.column, false⟩ ∈ m.updatable := by
  simp only [updatable, insertable, List.mem_filter, bne_iff_ne, ne_eq]
  exact ⟨version_mem_persistent hm hv, hid⟩

/-- The guard of the UPDATE of a versioned row is the expected version, and the one after it is
what the row gets. -/
theorem guard_updateOf (hm : ofDescriptor schema d = .ok m) (hv : m.version = some v)
    (hid : v.field ≠ m.id.field) {expected : Value} {id : Value} {source : FieldSource}
    {plan : UpdatePlan} (h : m.updateOf (some expected) id source = .ok plan) :
    ∃ u n, RowUpdate.ofCommand? plan.command = some u ∧ u.table = m.table ∧
      u.idColumn = m.id.column ∧ u.id = id ∧ expected.version? = some n ∧
      u.guard? = some (v.column, n) ∧
      (∃ a ∈ u.assigned, a.1 = v.column) ∧
      ((∀ f ∈ m.updatable, f.column = v.column → f.field = v.field) →
        ∀ a ∈ u.assigned, a.1 = v.column → a.2.version? = some n.next) := by
  obtain ⟨step, hstep, hu, -⟩ := ofCommand?_updateOf h
  unfold versionStep at hstep
  rw [hv] at hstep
  cases hn : expected.nextVersion with
  | none => simp [hn] at hstep
  | some next =>
    simp only [Option.getD_some, hn, Except.ok.injEq] at hstep
    subst hstep
    obtain ⟨n, hexpected, hnext⟩ := Value.version?_nextVersion hn
    refine ⟨_, n, hu, rfl, rfl, rfl, hexpected, ?_, ?_, fun honly a ha hcolumn => ?_⟩
    · cases expected with
      | null =>
        cases hexpected
        rfl
      | integer w k =>
        cases hexpected
        rfl
      | _ => cases hexpected
    · exact ⟨_, List.mem_map_of_mem (version_mem_updatable hm hv hid), rfl⟩
    · obtain ⟨f, hf, rfl⟩ := List.mem_map.mp ha
      simpa [assignedValue, honly f hf hcolumn] using hnext

end Metadata

namespace Attempt

variable {σ : Type} (a : Attempt σ) (p : RowPlace)

/-- The attempt made an UPDATE for the row of a place. -/
def Writes : Prop :=
  ∃ c answer u, a.exchanges = [.execute c answer] ∧ RowUpdate.ofCommand? c = some u ∧ p.Has u

/-- The store did not carry out the statement of the attempt and said why. -/
def StoreFails : Prop :=
  ∃ c f, a.exchanges = [.execute c (.error f)]

variable {a p}

theorem writes_iff {c : Command} {answer : Except Error Nat} {u : RowUpdate}
    (hx : a.exchanges = [.execute c answer]) (hu : RowUpdate.ofCommand? c = some u) :
    a.Writes p ↔ p.Has u := by
  refine ⟨?_, fun h => ⟨c, answer, u, hx, hu, h⟩⟩
  rintro ⟨c', answer', u', hone, hu', h⟩
  rw [hx] at hone
  cases hone
  rw [hu] at hu'
  cases hu'
  exact h

end Attempt

namespace Gateway

variable {σ : Type} (g : Gateway σ)

section Merge

variable {e : Entry} {x : Value} {m : Metadata} {w : Workspace σ}

/-- An UPDATE that cannot be made leaves the store alone. -/
theorem store_perform_unsent (hm : g.resolveKey e.key w = (.ok m, w)) {fault : UpdateFault}
    (hp : m.updateOf (some x) e.key.id (w.heap.get e.handle).fieldValue = .error fault)
    (o : Outcome) : (g.perform (.merge e x) o w).2.store = w.store := by
  rw [perform_merge_apply, update_apply, hm]
  simp only [hp]

/-- An UPDATE that is made leaves the store as its execution does, and fails when it is not carried
out. -/
theorem perform_sent (hm : g.resolveKey e.key w = (.ok m, w)) {plan : UpdatePlan}
    (hp : m.updateOf (some x) e.key.id (w.heap.get e.handle).fieldValue = .ok plan)
    (o : Outcome) :
    (g.perform (.merge e x) o w).2.store = (g.connection.execute plan.command w.store).2 ∧
      ∀ f, (g.connection.execute plan.command w.store).1 = .ok 0 → m.version = some f →
        ∃ err, (g.perform (.merge e x) o w).1.1 = .error err ∧ err.isOptimisticLock = true := by
  rw [perform_merge_apply, update_apply, hm]
  simp only [hp]
  cases ha : (g.connection.execute plan.command w.store).1 with
  | error f => exact ⟨rfl, fun _ h => by cases h⟩
  | ok n =>
    by_cases hn : n = 0
    · subst hn
      refine ⟨rfl, fun f _ hv => ⟨_, rfl, ?_⟩⟩
      simp only [missedUpdate, hv, Option.isSome_some, if_true, Error.isOptimisticLock,
        Error.storeFault_withSql]
      rfl
    · simp only [hn, if_false, store_writeVersion]
      exact ⟨rfl, fun _ h => absurd (Except.ok.inj h) hn⟩

section Row

variable {p : RowPlace} {row : σ → String → Value} {column : String} {schema : Schema}
  (hc : g.connection.Guards p row) (hm : g.resolveKey e.key w = (.ok m, w))

include hc hm

/-- What comes of an UPDATE for the row of a place that is sent: the store fails, or the row has
another version than the UPDATE expects and stays as it is, or the row goes on to the version after
the expected one. -/
theorem row_sent {plan : UpdatePlan}
    (hplan : m.updateOf (some x) e.key.id (w.heap.get e.handle).fieldValue = .ok plan)
    (htable : p.isTable m.table = true) (hid : p.isId e.key.id = true)
    (hversions : p.Versions column schema m) (o : Outcome) :
    ∃ u n, RowUpdate.ofCommand? plan.command = some u ∧ p.Has u ∧ x.version? = some n ∧
      ((∃ f, (g.connection.execute plan.command w.store).1 = .error f ∧
          row (g.perform (.merge e x) o w).2.store = row w.store) ∨
        ((g.connection.execute plan.command w.store).1 = .ok 0 ∧
          (row w.store column).version? ≠ some n ∧
          row (g.perform (.merge e x) o w).2.store = row w.store ∧
          ∃ err, (g.perform (.merge e x) o w).1.1 = .error err ∧ err.isOptimisticLock = true) ∨
        ∃ k, (g.connection.execute plan.command w.store).1 = .ok k ∧ 0 < k ∧
          (row w.store column).version? = some n ∧
          (row (g.perform (.merge e x) o w).2.store column).version? = some n.next) := by
  obtain ⟨hidColumn, ⟨d, hd⟩, v, hv, rfl, hne, honly⟩ := hversions
  obtain ⟨u, n, hu, htable', hcolumn, hid', hexpected, hguard, hassigned, hnext⟩ :=
    Metadata.guard_updateOf hd hv hne hplan
  have hplace : p.Has u :=
    ⟨by rw [htable']; exact htable, hcolumn.trans hidColumn, by rw [hid']; exact hid⟩
  obtain ⟨hstore, hmissed⟩ := g.perform_sent hm hplan o
  refine ⟨u, n, hu, hplace, hexpected, ?_⟩
  rw [hstore]
  cases hanswer : (g.connection.execute plan.command w.store).1 with
  | error f => exact .inl ⟨f, rfl, hc.failed _ _ _ hanswer⟩
  | ok k =>
    by_cases hcurrent : (row w.store v.column).version? = some n
    · obtain ⟨hk, hwritten⟩ := hc.accepted _ _ u _ n hu hplace hguard hcurrent k hanswer
      exact .inr (.inr ⟨k, rfl, hk, hcurrent, hwritten _ hassigned (hnext honly)⟩)
    · obtain ⟨rfl, hsame⟩ := hc.refused _ _ u _ n hu hplace hguard hcurrent k hanswer
      exact .inr (.inl ⟨rfl, hcurrent, hsame, hmissed v hanswer hv⟩)

/-- What an attempt at an UPDATE does to the row of a place. -/
theorem row_attempt (hversions : p.isTable m.table = true → p.Versions column schema m)
    {t : Ticket} (ht : t.action = .merge e x) (o : Outcome) :
    (¬ (g.attempt t o w).Writes p → row (g.attempt t o w).after.store = row w.store) ∧
      ((g.attempt t o w).Writes p → ∃ n, x.version? = some n ∧
        ((g.attempt t o w).executed ≠ [] ∧ (row w.store column).version? = some n ∧
            (row (g.attempt t o w).after.store column).version? = some n.next ∨
          (g.attempt t o w).executed = [] ∧ row (g.attempt t o w).after.store = row w.store ∧
            ((g.attempt t o w).StoreFails ∨ ∃ err, (g.perform t.action o w).1.1 = .error err ∧
              err.isOptimisticLock = true))) := by
  have hx := g.exchanges_attempt t o w
  have hafter : (g.attempt t o w).after = (g.perform t.action o w).2 := rfl
  rw [hafter]
  rw [ht] at hx ⊢
  cases hplan : m.updateOf (some x) e.key.id (w.heap.get e.handle).fieldValue with
  | error fault =>
    rw [exchange?_of_unplanned hm hplan] at hx
    rw [g.store_perform_unsent hm hplan]
    refine ⟨fun _ => rfl, ?_⟩
    rintro ⟨c, answer, u, hone, -⟩
    rw [hx] at hone
    cases hone
  | ok plan =>
    rw [exchange?_of_planned hm hplan] at hx
    by_cases hhas : p.isTable m.table = true ∧ p.isId e.key.id = true
    · obtain ⟨u, n, hu, hplace, hexpected, hends⟩ :=
        g.row_sent hc hm hplan hhas.1 hhas.2 (hversions hhas.1) o
      refine ⟨fun hnot => absurd ((Attempt.writes_iff hx hu).mpr hplace) hnot,
        fun _ => ⟨n, hexpected, ?_⟩⟩
      rcases hends with ⟨f, hanswer, hsame⟩ | ⟨hanswer, -, hsame, hlock⟩ |
        ⟨k, hanswer, hk, hcurrent, hnext⟩ <;> rw [hanswer] at hx
      · have hnone : (g.attempt t o w).executed = [] := by
          simp [Attempt.executed, hx, Exchange.isAcceptedWrite]
        exact .inr ⟨hnone, hsame, .inl ⟨_, f, hx⟩⟩
      · have hnone : (g.attempt t o w).executed = [] := by
          simp [Attempt.executed, hx, Exchange.isAcceptedWrite]
        exact .inr ⟨hnone, hsame, .inr hlock⟩
      · have hsome : (g.attempt t o w).executed ≠ [] := by
          simp [Attempt.executed, hx, Exchange.isAcceptedWrite, hk]
        exact .inl ⟨hsome, hcurrent, hnext⟩
    · obtain ⟨step, -, hu, -⟩ := Metadata.ofCommand?_updateOf hplan
      refine ⟨fun _ => ?_, ?_⟩
      · rw [(g.perform_sent hm hplan o).1]
        refine hc.elsewhere _ _ _ hu fun htable => ⟨(hversions htable).idColumn, ?_⟩
        exact Bool.eq_false_iff.mpr fun hid => hhas ⟨htable, hid⟩
      · intro hwrites
        have hplace := (Attempt.writes_iff hx hu).mp hwrites
        exact absurd ⟨hplace.1, hplace.2.2⟩ hhas

end Row

end Merge

end Gateway

end EntityMapper
