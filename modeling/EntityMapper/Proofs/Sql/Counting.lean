import EntityMapper.Proofs.Computation
import EntityMapper.Sql.Link
/-! Counting: how many rows each statement changes, and which of these numbers a link gives for a
statement. -/

namespace EntityMapper.Sql

theorem getLast?_append_getD {α : Type} (xs ys : List α) (a : α) :
    ((xs ++ ys).getLast?).getD a = (ys.getLast?).getD ((xs.getLast?).getD a) := by
  rw [List.getLast?_append]
  cases ys.getLast? <;> rfl

namespace Plan

/-- The changes of rows that an INSERT, an UPDATE or a DELETE makes. -/
def writing? (params : List Cell) : Plan → Option (Writing Unit)
  | insert i => some (i.run params)
  | update u => some (u.run params)
  | delete u => some (u.run params)
  | _ => none

/-- Whether a plan can change rows. A table is dropped with its rows. -/
def changesRows : Plan → Bool
  | insert _ | update _ | delete _ | drop _ => true
  | _ => false

end Plan

namespace Database

variable (d : Database)

/-- The number of rows that changes leave changed, those before a stop included that leaves them. -/
def rowsWritten (w : Writing Unit) : Nat :=
  match w.run { tables := d.tables, lastRow := d.lastRow } with
  | .ok _ s => if d.isBroken s.tables then 0 else s.changes
  | .error stop s =>
    match stop.action with
    | .fail => if d.isBroken s.tables then 0 else s.changes
    | _ => 0

theorem changes_write (w : Writing Unit) : (d.write w).2.changes = d.rowsWritten w := by
  unfold write rowsWritten
  cases w.run { tables := d.tables, lastRow := d.lastRow } with
  | ok u s =>
    dsimp only
    split <;> rfl
  | error stop s =>
    dsimp only
    cases stop.action with
    | fail =>
      dsimp only
      split <;> rfl
    | _ => rfl

/-- The number of rows that go with a table, if any have to go before it. -/
def rowsDropped? (t : Table) : Option Nat :=
  if (Table.referrers d.tables t).isEmpty && !Reference.anyBroken true d.tables then
    if t.references.any (·.deferred) then some 0 else none
  else if (Table.referrers d.tables t).isEmpty && !t.references.any (·.deferred) then none
  else some (d.rowsWritten (Removal.run { table := t.name, condition := none } []))

theorem changes_drop (t : Table) : (d.drop t).2.changes = (d.rowsDropped? t).getD d.changes := by
  unfold drop rowsDropped?
  dsimp only
  split
  · cases t.references.any (·.deferred) <;> rfl
  · split
    · rfl
    · rw [Option.getD_some, ← changes_write]
      generalize d.write (Removal.run { table := t.name, condition := none } []) = r
      rcases r with ⟨f | cells, d'⟩ <;> rfl

/-- The number of rows that a plan changes, if it changes any as a plan of its kind. -/
def rowsChanged? (p : Plan) (params : List Cell) : Option Nat :=
  if d.readOnly && p.isWrite then none
  else
    match p with
    | .drop t => d.rowsDropped? t
    | p => (p.writing? params).map d.rowsWritten

/-- A plan that changes rows sets the number that is kept, and any other leaves it alone. -/
theorem changes_run (p : Plan) (params : List Cell) :
    (d.run p params).2.changes = (d.rowsChanged? p params).getD d.changes := by
  unfold run rowsChanged?
  split
  · rfl
  · cases p with
    | drop t => exact changes_drop d t
    | insert i => exact changes_write d _
    | update u => exact changes_write d _
    | delete u => exact changes_write d _
    | createIndex t ix =>
      dsimp only [createIndex]
      split <;> rfl
    | start =>
      dsimp only [start]
      split <;> rfl
    | commit =>
      dsimp only [commit]
      split
      · rfl
      · split <;> rfl
    | rollback =>
      dsimp only [rollback]
      split <;> rfl
    | _ => rfl

/-- The numbers of rows that the statements among symbols change, up to the first fault. -/
def rowsAlong (d : Database) : Nat → List Symbol → List Nat
  | 0, _ => []
  | fuel + 1, symbols =>
    match Sentence.first symbols with
    | .error _ => []
    | .ok none => []
    | .ok (some (s, rest)) =>
      match d.prepare s with
      | .error _ => []
      | .ok p =>
        (d.rowsChanged? p.plan []).toList ++
          match d.run p.plan [] with
          | (.error _, _) => []
          | (.ok _, d) => rowsAlong d fuel rest

theorem changes_runSymbols (fuel : Nat) (symbols : List Symbol) :
    (d.runSymbols fuel symbols).2.changes =
      ((d.rowsAlong fuel symbols).getLast?).getD d.changes := by
  induction fuel generalizing d symbols with
  | zero => rfl
  | succ fuel ih =>
    unfold runSymbols rowsAlong
    cases hs : Sentence.first symbols with
    | error f => rfl
    | ok first =>
      rcases first with _ | ⟨s, rest⟩
      · rfl
      dsimp only
      cases hp : d.prepare s with
      | error f => rfl
      | ok p =>
        have hrun := changes_run d p.plan []
        have hone : (((d.rowsChanged? p.plan []).toList).getLast?).getD d.changes =
            (d.run p.plan []).2.changes := by
          rw [hrun]
          cases d.rowsChanged? p.plan [] <;> rfl
        dsimp only
        rw [getLast?_append_getD, hone]
        rcases d.run p.plan [] with ⟨f | cells, d'⟩
        · rfl
        · exact ih d' rest

/-- The number of rows that the first statement of a text changes, if it gets so far. -/
def rowsOfText? (sql : String) (params : List Value) : Option Nat :=
  match d.prepareText sql with
  | .error _ => none
  | .ok p =>
    if (stray? p params).isSome then none else d.rowsChanged? p.plan (params.map .ofValue)

theorem changes_runText (sql : String) (params : List Value) :
    (runText sql params d).2.changes = (d.rowsOfText? sql params).getD d.changes := by
  unfold runText rowsOfText?
  cases d.prepareText sql with
  | error e => rfl
  | ok p =>
    dsimp only
    cases stray? p params with
    | some i => rfl
    | none =>
      simp only [Option.isSome_none, Bool.false_eq_true, if_false]
      rw [← changes_run]
      rcases d.run p.plan (params.map .ofValue) with ⟨f | cells, d'⟩ <;> rfl

/-- The numbers of rows that the statements of a text change. -/
def rowsOfTexts (sql : String) : List Nat :=
  if sql.toList.contains '\x00' then []
  else d.rowsAlong ((Symbol.ofText sql).length + 1) (Symbol.ofText sql)

theorem changes_runTexts (sql : String) :
    (runTexts sql d).2.changes = ((d.rowsOfTexts sql).getLast?).getD d.changes := by
  unfold runTexts rowsOfTexts
  split
  · rfl
  · exact changes_runSymbols d _ _

end Database

/-- A call on a link. -/
inductive LinkCall where
  | query (sql : String) (params : List Value)
  | execute (sql : String) (params : List Value)
  | insert (sql : String) (params : List Value)
  | transact (step : TransactionStep)
  /-- All statements of a text. -/
  | script (sql : String)

namespace LinkCall

open Database (engine)

/-- The link after a call. -/
def act (l : Link Database) : LinkCall → Link Database
  | query sql params => (engine.query sql params l).2
  | execute sql params => (engine.execute sql params l).2
  | insert sql params => (engine.insert sql params l).2
  | transact step => (engine.transact step l).2
  | script sql => { l with database := (engine.runAll sql l.database).2 }

/-- The numbers of rows that the statements of a call change. -/
def rows (l : Link Database) : LinkCall → List Nat
  | query sql params | execute sql params | insert sql params =>
    (l.database.rowsOfText? sql params).toList
  | transact step =>
    if l.inTransaction == (step == .start) then [] else l.database.rowsOfTexts step.text
  | script sql => l.database.rowsOfTexts sql

theorem changes_act (l : Link Database) (c : LinkCall) :
    (c.act l).database.changes = ((c.rows l).getLast?).getD l.database.changes := by
  have hone (sql : String) (params : List Value) :
      (Database.runText sql params l.database).2.changes =
        ((l.database.rowsOfText? sql params).toList.getLast?).getD l.database.changes := by
    rw [Database.changes_runText]
    cases l.database.rowsOfText? sql params <;> rfl
  cases c with
  | query sql params => exact hone sql params
  | execute sql params => exact hone sql params
  | insert sql params => exact hone sql params
  | script sql => exact l.database.changes_runTexts sql
  | transact step =>
    have htexts : (engine.runAll step.text l.database).2.changes =
        ((l.database.rowsOfTexts step.text).getLast?).getD l.database.changes :=
      l.database.changes_runTexts step.text
    unfold act Engine.transact rows
    dsimp only
    split
    · rfl
    · rcases hr : engine.runAll step.text l.database with ⟨f | u, d⟩ <;> rw [hr] at htexts <;>
        exact htexts

/-- The link after calls, one after the other. -/
def actAll (l : Link Database) (calls : List LinkCall) : Link Database :=
  calls.foldl act l

/-- The numbers of rows that the statements of calls change, one after the other. -/
def rowsAll (l : Link Database) : List LinkCall → List Nat
  | [] => []
  | c :: calls => c.rows l ++ rowsAll (c.act l) calls

/-- The number of rows that the last statement changed that changed any as one of its kind. -/
def standing (l : Link Database) (calls : List LinkCall) : Nat :=
  ((rowsAll l calls).getLast?).getD l.database.changes

theorem changes_actAll (l : Link Database) (calls : List LinkCall) :
    (actAll l calls).database.changes = standing l calls := by
  unfold standing
  induction calls generalizing l with
  | nil => rfl
  | cons c calls ih =>
    change (actAll (c.act l) calls).database.changes = _
    rw [ih, rowsAll, getLast?_append_getD, changes_act]

end LinkCall

namespace Database

variable {d : Database} {p : Plan} {params : List Cell} {cells : Cells}

theorem rowsChanged_of_not_changesRows (h : p.changesRows = false) :
    d.rowsChanged? p params = none := by
  unfold rowsChanged?
  split
  · rfl
  · cases p <;> first | rfl | cases h

theorem rowsWritten_of_ok {w : Writing Unit} (h : (d.write w).1 = .ok cells) :
    ∃ s, w.run { tables := d.tables, lastRow := d.lastRow } = .ok () s ∧
      d.rowsWritten w = s.changes := by
  unfold write at h
  unfold rowsWritten
  cases hw : w.run { tables := d.tables, lastRow := d.lastRow } with
  | ok u s =>
    rw [hw] at h
    dsimp only at h ⊢
    split at h
    · cases h
    · next hb => exact ⟨s, rfl, if_neg hb⟩
  | error stop s =>
    rw [hw] at h
    dsimp only at h
    split at h
    · split at h <;> cases h
    · cases h
    · cases h

/-- An INSERT, UPDATE or DELETE that succeeds has changed as many rows as it counted. -/
theorem rowsChanged_of_writing (hrun : (d.run p params).1 = .ok cells) {w : Writing Unit}
    (hw : p.writing? params = some w) :
    ∃ s, w.run { tables := d.tables, lastRow := d.lastRow } = .ok () s ∧
      d.rowsChanged? p params = some s.changes := by
  have hallowed : (d.readOnly && p.isWrite) = false := by
    cases hw : d.readOnly && p.isWrite with
    | false => rfl
    | true => simp [run, hw] at hrun
  have hwrites : d.run p params = d.write w ∧ d.rowsChanged? p params = some (d.rowsWritten w) := by
    unfold run rowsChanged?
    rw [hallowed]
    cases p <;> cases hw <;> exact ⟨rfl, rfl⟩
  rw [hwrites.1] at hrun
  obtain ⟨s, hs, hrows⟩ := rowsWritten_of_ok hrun
  exact ⟨s, hs, hwrites.2.trans (congrArg some hrows)⟩

/-- A text whose statement succeeds was prepared, and all values have a place in it. -/
theorem exists_of_runText {sql : String} {values : List Value} {r : List String × Cells}
    (h : (runText sql values d).1 = .ok r) : ∃ p cells, d.prepareText sql = .ok p ∧
      stray? p values = none ∧ (d.run p.plan (values.map .ofValue)).1 = .ok cells := by
  unfold runText at h
  cases hp : d.prepareText sql with
  | error e =>
    rw [hp] at h
    cases h
  | ok p =>
    rw [hp] at h
    dsimp only at h
    cases hs : stray? p values with
    | some i =>
      rw [hs] at h
      cases h
    | none =>
      rw [hs] at h
      dsimp only at h
      rcases hr : d.run p.plan (values.map .ofValue) with ⟨f | cells, d'⟩ <;> rw [hr] at h
      · cases h
      · exact ⟨p, cells, rfl, hs, congrArg Prod.fst hr⟩

end Database

open Database LinkCall

namespace SampleCounts

/-- A row is added, and then a statement is run that changes none. -/
def calls : List LinkCall :=
  [.script "create table pets (name)", .execute "insert into pets values (1)" []]

def link : Link Database where
  path := ":memory:"
  database := {}

end SampleCounts

end EntityMapper.Sql
