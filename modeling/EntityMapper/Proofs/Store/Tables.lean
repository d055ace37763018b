import EntityMapper.Proofs.Entity.Columns
import EntityMapper.Proofs.Store.Rows
import Mathlib.Logic.Function.Basic
/-! Tables: a store with transactions that keeps the entities of each type of a catalogue in a table
of its own, and executes the statements of their mappings as written. -/

namespace EntityMapper

namespace EntityType

variable (t : EntityType)

def tableName : String :=
  t.descriptor.tableName

/-- The key of the entity of a row, if its identifier can be read. -/
def keyOf? (cells : TableRow) : Option EntityKey :=
  match t.idField? with
  | none => none
  | some f => match f.role with
    | .column a => (a.read (cells f.columnName)).toOption.map (.of t)
    | _ => none

/-- The row as a query gives it, with the columns of all fields. -/
def toRow (cells : TableRow) : Row :=
  .ofLists (t.fields.map (·.columnName)) ((t.fields.map (·.columnName)).map cells)

end EntityType

/-- The row with other values in some columns. -/
def TableRow.assign (assigned : List (String × Value)) (cells : TableRow) : TableRow :=
  fun column => ((assigned.find? (·.1 == column)).map (·.2)).getD (cells column)

namespace RowUpdate

/-- Whether a row passes the test of an UPDATE. -/
def passes (u : RowUpdate) (cells : TableRow) : Bool :=
  match u.test, u.tested with
  | none, _ => true
  | some (.isMissing column), _ => (cells column).isNull
  | some (.isEqual column), v :: _ => (cells column).equal v
  | some (.isEqual _), [] => false

end RowUpdate

/-- The rows of each table, the number that the next new row gets, and the rows as they were when
the transaction that is open began. -/
structure TableStore where
  rows : String → List TableRow := fun _ => []
  next : Nat := 1
  saved : Option (String → List TableRow) := none

namespace TableStore

section Statements

variable (c : Catalogue) (s : TableStore)

def refused : Error :=
  .store .connection "statement is not executed"

def put (table : String) (rows : List TableRow) : TableStore :=
  { s with rows := Function.update s.rows table rows }

def typeOf? (table : String) : Option EntityType :=
  c.find? (·.tableName == table)

/-- Whether a row has a value in a column. An identifier is compared as keys are. -/
def hits (t : EntityType) (column : String) (v : Value) (cells : TableRow) : Bool :=
  if column = t.idColumn then (t.keyOf? cells).any (· == ⟨some t, v⟩) else (cells column).equal v

def query (command : Command) : Except Error (List Row) × TableStore :=
  (match command.statement, command.params with
    | .select table column, v :: _ => match typeOf? c table with
      | some t => .ok (((s.rows table).filter (hits t column v)).map t.toRow)
      | none => .error refused
    | _, _ => .error refused, s)

/-- The row that has an identifier and values in some columns. -/
def newRow (t : EntityType) (key : Value) (assigned : List (String × Value)) : TableRow :=
  TableRow.assign ((t.idColumn, key) :: assigned) fun _ => .null

def add (table : String) (cells : TableRow) : TableStore :=
  { s.put table (s.rows table ++ [cells]) with next := s.next + 1 }

/-- Adds a row with the next number as its identifier. -/
def insert (command : Command) : Except Error Value × TableStore :=
  match command.statement with
  | .insert table columns => match typeOf? c table with
    | some t =>
      if h : IntWidth.big.Holds s.next then
        (.ok (.big s.next h), s.add table (newRow t (.big s.next h) (columns.zip command.params)))
      else (.error refused, s)
    | none => (.error refused, s)
  | _ => (.error refused, s)

/-- Whether an UPDATE writes a row. -/
def writes (t : EntityType) (u : RowUpdate) (cells : TableRow) : Bool :=
  hits t u.idColumn u.id cells && u.passes cells

def update (u : RowUpdate) : Except Error Nat × TableStore :=
  match typeOf? c u.table with
  | some t => (.ok ((s.rows u.table).countP (writes t u)), s.put u.table
      ((s.rows u.table).map fun r => if writes t u r then r.assign u.assigned else r))
  | none => (.error refused, s)

def delete (table idColumn : String) (id : Value) : Except Error Nat × TableStore :=
  match typeOf? c table with
  | some t => (.ok ((s.rows table).countP (hits t idColumn id)),
      s.put table ((s.rows table).filter fun cells => !hits t idColumn id cells))
  | none => (.error refused, s)

def execute (command : Command) : Except Error Nat × TableStore :=
  match RowUpdate.ofCommand? command with
  | some u => s.update c u
  | none => match command.statement, command.params with
    | .delete table idColumn, id :: _ => s.delete c table idColumn id
    | _, _ => (.error refused, s)

def transact : TransactionStep → TableStore
  | .start => { s with saved := some s.rows }
  | .commit => { s with saved := none }
  | .rollback => { s with rows := s.saved.getD s.rows, saved := none }

/-- The connection to the tables of a catalogue. -/
def connection : Connection TableStore where
  query command s := s.query c command
  execute command s := s.execute c command
  insert command s := s.insert c command
  transact step s := (.ok (), s.transact step)

/-- The rows of a type. -/
def rowsOf (t : EntityType) : List TableRow :=
  s.rows t.tableName

end Statements

end TableStore

section Cells

variable {t : EntityType} {cells : TableRow} {k : EntityKey}

theorem EntityType.hasId_iff : t.HasId cells k ↔ (t.keyOf? cells).any (· == k) = true := by
  constructor
  · rintro ⟨f, a, v, hid, hf, hread, hk⟩
    simp [keyOf?, hid, hf.role, hread, Except.toOption, hk]
  · intro h
    obtain ⟨l, hl, hk⟩ := (Option.any_eq_true _ _).mp h
    unfold keyOf? at hl
    split at hl
    · cases hl
    · rename_i f hid
      split at hl
      · rename_i a hrole
        obtain ⟨v, hv, rfl⟩ := Option.map_eq_some_iff.mp hl
        exact ⟨f, a, v, hid, ⟨List.mem_of_find?_eq_some hid, hrole⟩, eq_ok_of_toOption hv, hk⟩
      · cases hl

theorem TableRow.assign_of_mem {assigned : List (String × Value)}
    (hnodup : (assigned.map (·.1)).Nodup) {p : String × Value} (hp : p ∈ assigned)
    (cells : TableRow) : cells.assign assigned p.1 = p.2 := by
  obtain ⟨q, hq⟩ : ∃ q, assigned.find? (·.1 == p.1) = some q := by
    rw [← Option.isSome_iff_exists, List.find?_isSome]
    exact ⟨p, hp, by simp⟩
  obtain rfl : q = p := List.inj_on_of_nodup_map hnodup (List.mem_of_find?_eq_some hq) hp
    (by simpa using List.find?_some hq)
  simp [assign, hq]

theorem TableRow.assign_of_not_mem {assigned : List (String × Value)} {column : String}
    (h : column ∉ assigned.map (·.1)) (cells : TableRow) :
    cells.assign assigned column = cells column := by
  have hnone : assigned.find? (·.1 == column) = none := by
    refine List.find?_eq_none.mpr fun p hp heq => h ?_
    exact List.mem_map.mpr ⟨p, hp, by simpa using heq⟩
  simp [assign, hnone]

/-- A row of a table is given as it is. -/
theorem EntityType.agrees_toRow (t : EntityType) (cells : TableRow) :
    (t.toRow cells).Agrees t cells := by
  intro f a _ v hv
  obtain ⟨i, hi, hvalue⟩ := Row.get?_eq_some_iff.mp hv
  rw [List.getElem?_map, hi.stands] at hvalue
  exact Option.some.inj hvalue

end Cells

namespace TableStore

/-- Works on the tables of a catalogue. -/
def gateway (c : Catalogue) : Gateway TableStore :=
  ⟨connection c, c, false⟩

variable {c : Catalogue} {s s' : TableStore} {t : EntityType} {m : Metadata} {k : EntityKey}

theorem table_of_mapped (hm : (gateway c).Mapped t m) : m.table = t.tableName := by
  obtain ⟨id, version, fields, -, -, rfl⟩ := Metadata.ofDescriptor_parts hm.checked
  rfl

theorem idColumn_of_mapped (hm : (gateway c).Mapped t m) (ht : t.Formed) :
    m.id.column = t.idColumn := by
  obtain ⟨f, a, hid, -, hmid⟩ := Metadata.id_of_formed ht hm.checked
  simp [EntityType.idColumn, hid, hmid]

/-- A row that has the identifier of a key is that of its entity. -/
theorem hasId_of_hits {cells : TableRow} (hk : k.IsOf t)
    (h : hits t t.idColumn k.id cells = true) : t.HasId cells k := by
  obtain ⟨f, a, v, -, -, -, rfl⟩ := hk
  simp only [hits, if_true] at h
  exact EntityType.hasId_iff.mpr h

section Tables

variable (hnames : (c.map EntityType.tableName).Nodup)

include hnames

theorem typeOf?_of_mem (ht : t ∈ c) : typeOf? c t.tableName = some t := by
  obtain ⟨u, hu⟩ : ∃ u, typeOf? c t.tableName = some u := by
    rw [← Option.isSome_iff_exists, typeOf?, List.find?_isSome]
    exact ⟨t, ht, by simp⟩
  rw [hu, List.inj_on_of_nodup_map hnames (List.mem_of_find?_eq_some hu) ht
    (by simpa using List.find?_some hu)]

/-- Only the rows of one table change. -/
theorem spares_of_update (ht : t ∈ c) {rows : List TableRow} {ks : List EntityKey}
    (hrows : s'.rows = Function.update s.rows t.tableName rows)
    (h : ∀ r ∈ s.rowsOf t, r ∈ rows ∨ ∃ k ∈ ks, t.HasId r k) :
    (gateway c).Spares rowsOf ks s s' := by
  intro u hu r hr
  unfold rowsOf at hr ⊢
  rw [hrows]
  by_cases hname : u.tableName = t.tableName
  · obtain rfl := List.inj_on_of_nodup_map hnames hu ht hname
    rw [Function.update_self]
    exact h r hr
  · rw [Function.update_of_ne hname]
    exact .inl hr

theorem mem_of_query (hm : (gateway c).Mapped t m) {column : String} {v : Value} {rs : List Row}
    (h : (s.query c ⟨m.selectBy column, [v]⟩).1 = .ok rs) {r : Row} (hr : r ∈ rs) :
    ∃ cells ∈ s.rowsOf t, hits t column v cells = true ∧ r.Agrees t cells := by
  rw [Metadata.selectBy, table_of_mapped hm] at h
  simp only [query, typeOf?_of_mem hnames hm.known, Except.ok.injEq] at h
  subst h
  obtain ⟨cells, hcells, rfl⟩ := List.mem_map.mp hr
  obtain ⟨hmem, hhit⟩ := List.mem_filter.mp hcells
  exact ⟨cells, hmem, hhit, t.agrees_toRow cells⟩

theorem inserted_row (hm : (gateway c).Mapped t m) (ht : t.Formed) {columns : List String}
    {params : List Value} {key : Value} (hnodup : columns.Nodup) (hid : m.id.column ∉ columns)
    (h : (s.insert c ⟨.insert m.table columns, params⟩).1 = .ok key) :
    (gateway c).Spares rowsOf [] s (s.insert c ⟨.insert m.table columns, params⟩).2 ∧
      ∃ r ∈ (s.insert c ⟨.insert m.table columns, params⟩).2.rowsOf t,
        r m.id.column = key ∧ ∀ p ∈ columns.zip params, r p.1 = p.2 := by
  rw [table_of_mapped hm] at h ⊢
  rw [idColumn_of_mapped hm ht] at hid ⊢
  simp only [insert, typeOf?_of_mem hnames hm.known] at h ⊢
  split at h
  · rename_i hholds
    obtain rfl := Except.ok.inj h
    simp only [dif_pos hholds]
    have hkeys :
        (((t.idColumn, Value.big s.next hholds) :: columns.zip params).map (·.1)).Nodup := by
      have hsub : ((columns.zip params).map (·.1)).Sublist columns := by
        rw [List.zip_eq_zip_take_min, List.map_fst_zip (by simp)]
        exact List.take_sublist _ _
      exact List.nodup_cons.mpr ⟨fun h => hid (hsub.subset h), hnodup.sublist hsub⟩
    refine ⟨spares_of_update hnames hm.known rfl fun r hr => .inl (List.mem_append_left _ hr),
      newRow t (.big s.next hholds) (columns.zip params), by simp [rowsOf, add, put],
      TableRow.assign_of_mem hkeys List.mem_cons_self _, fun p hp =>
        TableRow.assign_of_mem hkeys (List.mem_cons_of_mem _ hp) _⟩
  · cases h

theorem updated_row (hm : (gateway c).Mapped t m) (ht : t.Formed) {u : RowUpdate}
    (hk : k.IsOf t) (htable : u.table = m.table) (hcolumn : u.idColumn = m.id.column)
    (hid : u.id = k.id) (hnodup : (u.assigned.map (·.1)).Nodup)
    (hkept : m.id.column ∉ u.assigned.map (·.1)) {n : Nat} (h : (s.update c u).1 = .ok n) :
    (gateway c).Spares rowsOf [k] s (s.update c u).2 ∧
      (n = 0 → (gateway c).Spares rowsOf [] s (s.update c u).2) ∧
      (0 < n → ∃ r ∈ (s.update c u).2.rowsOf t,
        t.HasId r k ∧ ∀ p ∈ u.assigned, r p.1 = p.2) := by
  rw [table_of_mapped hm] at htable
  rw [idColumn_of_mapped hm ht] at hcolumn hkept
  simp only [update, htable, typeOf?_of_mem hnames hm.known, Except.ok.injEq] at h ⊢
  have hasId {r : TableRow} (hr : writes t u r = true) : t.HasId r k := by
    rw [writes, hcolumn, hid, Bool.and_eq_true] at hr
    exact hasId_of_hits hk hr.1
  have hstays {r : TableRow} (hr : r ∈ s.rows t.tableName) (hmiss : writes t u r = false) :
      r ∈ (s.rows t.tableName).map fun r => if writes t u r then r.assign u.assigned else r :=
    List.mem_map.mpr ⟨r, hr, by simp [hmiss]⟩
  refine ⟨spares_of_update hnames hm.known rfl fun r hr => ?_, fun hn => ?_, fun hn => ?_⟩
  · cases hwrites : writes t u r with
    | false => exact .inl (hstays hr hwrites)
    | true => exact .inr ⟨k, List.mem_cons_self, hasId hwrites⟩
  · refine spares_of_update hnames hm.known rfl fun r hr => .inl (hstays hr ?_)
    rw [hn, List.countP_eq_zero] at h
    simpa using h r hr
  · rw [← h, List.countP_pos_iff] at hn
    obtain ⟨r, hr, hwrites⟩ := hn
    refine ⟨r.assign u.assigned, ?_, ?_, fun p hp => TableRow.assign_of_mem hnodup hp r⟩
    · simp only [rowsOf, put, Function.update_self]
      exact List.mem_map.mpr ⟨r, hr, by simp [hwrites]⟩
    · obtain ⟨f, a, v, hfid, hf, hread, hkey⟩ := hasId hwrites
      have hname : t.idColumn = f.columnName := by simp [EntityType.idColumn, hfid]
      refine ⟨f, a, v, hfid, hf, ?_, hkey⟩
      rwa [TableRow.assign_of_not_mem (hname ▸ hkept)]

theorem deleted_row (hm : (gateway c).Mapped t m) (ht : t.Formed) (hk : k.IsOf t) {n : Nat}
    (h : (s.delete c m.table m.id.column k.id).1 = .ok n) :
    (gateway c).Spares rowsOf [k] s (s.delete c m.table m.id.column k.id).2 ∧
      (n = 0 → (gateway c).Spares rowsOf [] s (s.delete c m.table m.id.column k.id).2) := by
  rw [table_of_mapped hm, idColumn_of_mapped hm ht] at h ⊢
  simp only [delete, typeOf?_of_mem hnames hm.known, Except.ok.injEq] at h ⊢
  have hstays {r : TableRow} (hr : r ∈ s.rows t.tableName)
      (hmiss : hits t t.idColumn k.id r = false) :
      r ∈ (s.rows t.tableName).filter fun cells => !hits t t.idColumn k.id cells :=
    List.mem_filter.mpr ⟨hr, by simp [hmiss]⟩
  refine ⟨spares_of_update hnames hm.known rfl fun r hr => ?_, fun hn => ?_⟩
  · cases hhit : hits t t.idColumn k.id r with
    | false => exact .inl (hstays hr hhit)
    | true => exact .inr ⟨k, List.mem_cons_self, hasId_of_hits hk hhit⟩
  · refine spares_of_update hnames hm.known rfl fun r hr => .inl (hstays hr ?_)
    rw [hn, List.countP_eq_zero] at h
    simpa using h r hr

end Tables

/-- A statement that is refused changes nothing. -/
theorem insert_refused {command : Command} {e : Error} (h : (s.insert c command).1 = .error e) :
    (s.insert c command).2 = s := by
  unfold insert at h ⊢
  split at h
  · split at h
    · split at h
      · cases h
      · rename_i hholds
        simp [hholds]
    · rfl
  · rfl

theorem execute_refused {command : Command} {e : Error} (h : (s.execute c command).1 = .error e) :
    (s.execute c command).2 = s := by
  unfold execute at h ⊢
  split at h
  · unfold update at h ⊢
    split at h
    · cases h
    · rfl
  · split at h
    · unfold delete at h ⊢
      split at h
      · cases h
      · rfl
    · rfl

/-- The store executes the statements of all mappings of a catalogue whose types have tables of
their own. -/
theorem tabular (hc : c.Formed) (hnames : (c.map EntityType.tableName).Nodup) :
    (gateway c).Tabular rowsOf where
  select _ _ _ _ := rfl
  selected t m column v hm s rs h r hr := by
    obtain ⟨cells, hcells, -, hagrees⟩ := mem_of_query hnames hm h hr
    exact ⟨cells, hcells, trivial, hagrees⟩
  identified t m k hm hk s rs h r hr := by
    obtain ⟨cells, hcells, hhits, hagrees⟩ := mem_of_query hnames hm h hr
    rw [idColumn_of_mapped hm (hc.types t hm.known)] at hhits
    exact ⟨cells, hcells, hasId_of_hits hk hhits, hagrees⟩
  inserted t m columns params key s hm hnodup hid h :=
    inserted_row hnames hm (hc.types t hm.known) hnodup hid h
  updated t m k command u n s hm hk hu htable hcolumn hid hnodup hkept h := by
    have hrun : (gateway c).connection.execute command s = s.update c u := by
      simp [gateway, connection, execute, hu]
    rw [hrun] at h ⊢
    exact updated_row hnames hm (hc.types t hm.known) hk htable hcolumn hid hnodup hkept h
  deleted t m k n s hm hk h := deleted_row hnames hm (hc.types t hm.known) hk h
  refusedInsert command e s h := .of_eq (congrArg rowsOf (insert_refused h))
  refusedExecute command e s h := .of_eq (congrArg rowsOf (execute_refused h))
  transact step s hstep := by
    cases step with
    | rollback => exact absurd rfl hstep
    | _ => rfl

/-- What statements make of a store. -/
inductive Follows (c : Catalogue) (s : TableStore) : TableStore → Prop
  | refl : Follows c s s
  | query {u : TableStore} (h : Follows c s u) (command : Command) :
    Follows c s (u.query c command).2
  | execute {u : TableStore} (h : Follows c s u) (command : Command) :
    Follows c s (u.execute c command).2
  | insert {u : TableStore} (h : Follows c s u) (command : Command) :
    Follows c s (u.insert c command).2

theorem saved_execute (s : TableStore) (command : Command) :
    (s.execute c command).2.saved = s.saved := by
  unfold execute
  split
  · unfold update
    split <;> rfl
  · split
    · unfold delete
      split <;> rfl
    · rfl

theorem saved_insert (s : TableStore) (command : Command) :
    (s.insert c command).2.saved = s.saved := by
  unfold insert
  split
  · split
    · split <;> rfl
    · rfl
  · rfl

/-- A rollback undoes everything since the transaction began. -/
theorem rows_rollback (h : Follows c (s.transact .start) s') :
    (s'.transact .rollback).rows = s.rows := by
  have hsaved : s'.saved = some s.rows := by
    induction h with
    | refl => rfl
    | query _ _ ih => exact ih
    | execute _ command ih => exact (saved_execute _ command).trans ih
    | insert _ command ih => exact (saved_insert _ command).trans ih
  simp [transact, hsaved]

end TableStore

end EntityMapper
