import EntityMapper.Proofs.Flush.Versions
import EntityMapper.Proofs.Session.Crowd
import EntityMapper.Scenario.Catalogue
/-! Lost updates: what the writes of a crowd do to the version of one row. -/

namespace EntityMapper

variable {σ : Type}

open Session

namespace Write

variable (x : Write σ) (p : RowPlace)

/-- The snapshot of what is written has a version. -/
def Captured (n : VersionNumber) : Prop :=
  ∃ e y t snapshot m, x.attempt.ticket.action = .merge e y ∧ e.key.type = some t ∧
    x.session.snapshots.find? e.key = some snapshot ∧
    x.attempt.before.journal.registry.find? t.path = some m ∧
    (snapshot.version m).version? = some n

/-- An UPDATE for the row of a place was carried out. -/
def Accepted : Prop :=
  x.attempt.Writes p ∧ x.attempt.executed ≠ []

/-- An UPDATE for the row of a place was made and not carried out. -/
def Refused : Prop :=
  x.attempt.Writes p ∧ x.attempt.executed = []

/-- The write takes the row from the version of its snapshot to the next one, or it leaves the row
alone and fails, and unless the store itself failed it says that the version is not the one of the
snapshot any more. -/
def Exact (row : σ → String → Value) (column : String) : Prop :=
  ∃ n, x.Captured n ∧
    (x.attempt.executed ≠ [] ∧ (row x.attempt.before.store column).version? = some n ∧
        (row x.attempt.after.store column).version? = some n.next ∨
      x.attempt.executed = [] ∧ row x.attempt.after.store = row x.attempt.before.store ∧
        (x.attempt.StoreFails ∨ ∃ e, x.answer = .error e ∧ e.isOptimisticLock = true))

variable {x p}

theorem Captured.unique {n k : VersionNumber} (hn : x.Captured n) (hk : x.Captured k) : n = k := by
  obtain ⟨e, y, t, snapshot, m, ha, ht, hs, hm, hn⟩ := hn
  obtain ⟨e', y', t', snapshot', m', ha', ht', hs', hm', hk⟩ := hk
  rw [ha] at ha'
  cases ha'
  rw [ht] at ht'
  cases ht'
  rw [hs] at hs'
  cases hs'
  rw [hm] at hm'
  cases hm'
  rw [hn] at hk
  exact Option.some.inj hk

end Write

/-- The accepted writes on a row are of rising versions, and the row has a later one by now. -/
structure Climbs (p : RowPlace) (row : σ → String → Value) (column : String)
    (ws : List (Write σ)) (s : σ) : Prop where
  exact : ∀ x ∈ ws, x.attempt.Writes p → x.Exact row column
  below : ∀ x ∈ ws, x.Accepted p → ∀ n, x.Captured n →
    ∃ k, (row s column).version? = some k ∧ n < k
  rising : ws.Pairwise fun x y => x.Accepted p → y.Accepted p →
    ∀ n k, x.Captured n → y.Captured k → n < k

namespace Climbs

variable {p : RowPlace} {row : σ → String → Value} {column : String} {ws : List (Write σ)} {s t : σ}

theorem nil : Climbs p row column [] s :=
  ⟨by simp, by simp, .nil⟩

theorem same (h : Climbs p row column ws s) (hrow : row t = row s) : Climbs p row column ws t :=
  ⟨h.exact, by rw [hrow]; exact h.below, h.rising⟩

/-- One more write. -/
theorem append {x : Write σ} (h : Climbs p row column ws x.attempt.before.store)
    (hother : ¬ x.attempt.Writes p → row x.attempt.after.store = row x.attempt.before.store)
    (hexact : x.attempt.Writes p → x.Exact row column) :
    Climbs p row column (ws ++ [x]) x.attempt.after.store := by
  have hlast {y : Write σ} (hy : y ∈ [x]) : y = x := List.mem_singleton.mp hy
  have haccepted : x.Accepted p → ∃ k, x.Captured k ∧
      (row x.attempt.before.store column).version? = some k ∧
      (row x.attempt.after.store column).version? = some k.next := by
    rintro ⟨hwrites, hexecuted⟩
    obtain ⟨k, hk, ⟨-, hbefore, hafter⟩ | ⟨hnone, -⟩⟩ := hexact hwrites
    · exact ⟨k, hk, hbefore, hafter⟩
    · exact absurd hnone hexecuted
  refine ⟨fun y hy => ?_, fun y hy hy' n hn => ?_, ?_⟩
  · rcases List.mem_append.mp hy with hy | hy
    · exact h.exact y hy
    · exact hlast hy ▸ hexact
  · rcases List.mem_append.mp hy with hy | hy
    · obtain ⟨k, hk, hlt⟩ := h.below y hy hy' n hn
      by_cases hx : x.Accepted p
      · obtain ⟨k', -, hbefore, hafter⟩ := haccepted hx
        obtain rfl : k = k' := Option.some.inj (hk.symm.trans hbefore)
        exact ⟨_, hafter, hlt.trans k.lt_next⟩
      · refine ⟨k, ?_, hlt⟩
        have hsame : row x.attempt.after.store = row x.attempt.before.store := by
          by_cases hwrites : x.attempt.Writes p
          · obtain ⟨n, -, ⟨hexecuted, -⟩ | ⟨-, hsame, -⟩⟩ := hexact hwrites
            · exact absurd ⟨hwrites, hexecuted⟩ hx
            · exact hsame
          · exact hother hwrites
        rw [hsame]
        exact hk
    · obtain rfl := hlast hy
      obtain ⟨k, hk, -, hafter⟩ := haccepted hy'
      obtain rfl := hn.unique hk
      exact ⟨_, hafter, n.lt_next⟩
  · refine List.pairwise_append.mpr ⟨h.rising, List.pairwise_singleton _ _, ?_⟩
    intro y hy z hz hy' hz' n k hn hk
    obtain rfl := hlast hz
    obtain ⟨k', hk', hbefore, -⟩ := haccepted hz'
    obtain rfl := hk.unique hk'
    obtain ⟨l, hl, hlt⟩ := h.below y hy hy' n hn
    obtain rfl : l = k := Option.some.inj (hl.symm.trans hbefore)
    exact hlt

end Climbs

section Climb

variable {g : Gateway σ} {p : RowPlace} {row : σ → String → Value} {column : String}
  {start c d : Crowd σ} {ws xs : List (Write σ)} {fs rs : List (FlushReport σ)}

/-- All that is resolved for the table of a row keeps the version of the row in a column. -/
def Crowd.Maps (c : Crowd σ) (schema : Schema) (p : RowPlace) (column : String) : Prop :=
  ∀ path m, c.space.journal.registry.find? path = some m → p.isTable m.table = true →
    p.Versions column schema m

theorem Crowd.Maps.of_grows {schema : Schema} (h : d.Maps schema p column)
    (hg : c.space.Grows d.space) : c.Maps schema p column :=
  fun path m hm => h path m (hg.journal path m hm)

/-- What a session that waits tries at a row. -/
theorem Crowd.Waits.write_exact (hc : c.Waits) (hstore : g.connection.Guards p row)
    (hmaps : c.Maps g.catalogue.schema p column) {j : Nat} {a : Action}
    (ha : a ∈ (c.sessions j).queue.actions) (o : Outcome) :
    (¬ (c.write g j o a).attempt.Writes p →
        row (c.write g j o a).attempt.after.store = row c.space.store) ∧
      ((c.write g j o a).attempt.Writes p → (c.write g j o a).Exact row column) := by
  obtain ⟨e, x, rfl, t, snapshot, m, ht, hsnapshot, hm, rfl⟩ := (hc.waiting j).guarded a ha
  have hresolved : g.resolveKey e.key c.space = (.ok m, c.space) := by
    rw [Gateway.resolveKey, ht]
    exact resolve_of_find? g hm
  obtain ⟨hother, hwrites⟩ := g.row_attempt hstore hresolved (hmaps _ m hm) (t := ⟨0, _⟩) rfl o
  refine ⟨hother, fun h => ?_⟩
  obtain ⟨n, hn, hcases⟩ := hwrites h
  exact ⟨n, ⟨e, _, t, snapshot, m, rfl, ht, hsnapshot, hm, hn⟩, hcases⟩

theorem store_advance {u : Underway σ} {a : Action} {rest : List Action} {j : Nat}
    (hr : u.drained.result = .ok ()) (hleft : u.drained.left = a :: rest) :
    (c.advance g j u a).space.store =
      (c.write g j u.drained.outcome a).attempt.after.store := by
  change (g.advance u.drained c.space).2.store = (g.perform a u.drained.outcome c.space).2.store
  rcases hf : g.perform a u.drained.outcome c.space with ⟨⟨e | v, written⟩, w⟩
  · rw [g.advance_of_error hf hr hleft]
    rfl
  · rw [g.advance_of_ok hf hr hleft]

/-- The versions go on rising with every step of a crowd. -/
theorem CrowdStep.climbs (m : CrowdStep g row c xs rs d) (hc : c.Waits)
    (hstore : g.connection.Guards p row) (hmaps : d.Maps g.catalogue.schema p column)
    (h : Climbs p row column ws c.space.store) : Climbs p row column (ws ++ xs) d.space.store := by
  have hbefore := hmaps.of_grows (m.waits hc).1
  -- Only a step of a flush adds a write; all others leave the row alone.
  have hquiet (hnone : xs = []) (hrow : row d.space.store = row c.space.store) :
      Climbs p row column (ws ++ xs) d.space.store := by
    rw [hnone, List.append_nil]
    exact h.same hrow
  cases m with
  | @search j call t hidle hcall =>
    obtain ⟨-, -, hq⟩ := (meets_searched_idle g c.space hcall).final (a := c.state j)
      ⟨hc.waiting j, .refl _, .refl⟩
    exact hquiet rfl (hq.keeps fun cmd s _ => hstore.query cmd s)
  | @merge j hidle i =>
    obtain ⟨-, -, hq⟩ := (meets_merge_idle g c.space i).final (a := c.state j)
      ⟨hc.waiting j, .refl _, .refl⟩
    exact hquiet rfl (hq.keeps fun cmd s _ => hstore.query cmd s)
  | @dirtyCheck j hidle =>
    obtain ⟨-, -, hs⟩ := dirtyCheck_waiting g (hc.waiting j)
    exact hquiet rfl (congrArg row hs)
  | turn hg hrow => exact hquiet rfl hrow
  | begin hidle hq => exact hquiet rfl rfl
  | @advance j u a rest hu hr hleft =>
    have ha : a ∈ (c.sessions j).queue.actions :=
      (hc.underway j u hu).draining.mem_left (hleft ▸ List.mem_cons_self)
    obtain ⟨hother, hexact⟩ := hc.write_exact hstore hbefore ha u.drained.outcome
    rw [store_advance hr hleft]
    exact Climbs.append h hother hexact
  | @finish j u hu hend =>
    have hs := settles_of_waiting g (hc.waiting j) (hc.underway j u hu).draining
    exact hquiet rfl (congrArg row hs.store)

/-- The versions rise along every run. -/
theorem CrowdRun.climbs (hrun : CrowdRun g row start ws fs c) (hstart : start.Waits)
    (hstore : g.connection.Guards p row) (hmaps : c.Maps g.catalogue.schema p column) :
    Climbs p row column ws c.space.store := by
  induction hrun with
  | start => exact .nil
  | step h m ih =>
    have hc := h.waits hstart
    exact m.climbs hc hstore hmaps (ih (hmaps.of_grows (m.waits hc).1))

end Climb

/-- No update of a row in a place was lost: what the writes and the flushes of a crowd did to its
version. -/
structure NoLostUpdate (p : RowPlace) (row : σ → String → Value) (column : String)
    (ws : List (Write σ)) (fs : List (FlushReport σ)) (c : Crowd σ) : Prop where
  exact : ∀ x ∈ ws, x.attempt.Writes p → x.Exact row column
  rising : ws.Pairwise fun x y => x.Accepted p → y.Accepted p →
    ∀ n k, x.Captured n → y.Captured k → n < k
  /-- Of all writes with snapshots of one version at most one is carried out. -/
  once : ∀ i j (hi : i < ws.length) (hj : j < ws.length) n, ws[i].Accepted p → ws[j].Accepted p →
    ws[i].Captured n → ws[j].Captured n → i = j
  accounted : ∀ x, x ∈ ws ↔ (∃ f ∈ fs, x ∈ f.writes) ∨ c.Trying x
  /-- The flush of a refused write fails with it, and the snapshot stays. -/
  refused : ∀ f ∈ fs, ∀ x ∈ f.writes, x.session = f.before ∧ (x.Refused p →
    f.answer = x.answer ∧ ∀ k ∈ x.attempt.ticket.action.key?,
      f.after.snapshots.find? k = f.before.snapshots.find? k)

/-- However sessions alternate, no update of a versioned row is lost. Whatever is carried out takes
the row from exactly the version that its session captured to the next one. -/
theorem CrowdRun.no_lost_update {g : Gateway σ} {p : RowPlace} {row : σ → String → Value}
    {column : String} {configs : Nat → SessionConfig} {w : Workspace σ} {c : Crowd σ}
    {ws : List (Write σ)} {fs : List (FlushReport σ)} (hstore : g.connection.Guards p row)
    (hrun : CrowdRun g row (.fresh configs w) ws fs c)
    (hmaps : c.Maps g.catalogue.schema p column) : NoLostUpdate p row column ws fs c := by
  have hstart := Crowd.waits_fresh configs w
  have hclimbs := hrun.climbs hstart hstore hmaps
  have hrising := List.pairwise_iff_getElem.mp hclimbs.rising
  refine ⟨hclimbs.exact, hclimbs.rising, fun i j hi hj n hxi hxj hni hnj => ?_, hrun.trying_iff,
    fun f hf x hx => ?_⟩
  · rcases Nat.lt_trichotomy i j with hlt | heq | hlt
    · exact absurd (hrising i j hi hj hlt hxi hxj n n hni hnj) (lt_irrefl n)
    · exact heq
    · exact absurd (hrising j i hj hi hlt hxj hxi n n hnj hni) (lt_irrefl n)
  · obtain ⟨hown, hfails⟩ := hrun.fails_of_mem hstart f hf x hx
    exact ⟨hown, fun hx => hfails hx.2⟩

namespace OneRowStore

/-- The only row of the store, by its columns. -/
abbrev Cells := String → Value

def one : Value :=
  .big 1 IntWidth.big.holds_one

def place : RowPlace :=
  ⟨(· == "versioned"), "id", (· == one)⟩

def assign (cells : Cells) (assigned : List (String × Value)) : Cells :=
  fun column => ((assigned.find? (·.1 == column)).map (·.2)).getD (cells column)

/-- Carries out a guarded UPDATE of the row. -/
def update (u : RowUpdate) (cells : Cells) : Except Error Nat × Cells :=
  if place.isTable u.table && u.idColumn == place.idColumn && place.isId u.id then
    match u.guard? with
    | some (column, n) =>
      if (cells column).version? = some n then (.ok 1, assign cells u.assigned) else (.ok 0, cells)
    | none => (.error (.store .connection "no guard"), cells)
  else (.ok 0, cells)

def connection : Connection Cells where
  query _ cells :=
    (.ok [.ofLists ["id", "name", "version"] [cells "id", cells "name", cells "version"]], cells)
  execute c cells := match RowUpdate.ofCommand? c with
    | some u => update u cells
    | none => (.error (.store .connection "no update"), cells)
  insert _ cells := (.error (.store .connection "no insert"), cells)
  transact _ cells := (.ok (), cells)

theorem execute_of {c : Command} {u : RowUpdate} (h : RowUpdate.ofCommand? c = some u)
    (cells : Cells) : connection.execute c cells = update u cells := by
  simp [connection, h]

theorem update_of_has {u : RowUpdate} {column : String} {n : VersionNumber} (hu : place.Has u)
    (hguard : u.guard? = some (column, n)) (cells : Cells) :
    update u cells =
      if (cells column).version? = some n then (.ok 1, assign cells u.assigned)
      else (.ok 0, cells) := by
  obtain ⟨htable, hcolumn, hid⟩ := hu
  simp [update, htable, hcolumn, hid, hguard]

theorem guards : connection.Guards place id where
  query _ _ := rfl
  elsewhere c cells u hu hother := by
    rw [execute_of hu, update, if_neg]
    intro hhas
    simp only [Bool.and_eq_true, beq_iff_eq] at hhas
    rw [(hother hhas.1.1).2] at hhas
    cases hhas.2
  failed c cells e he := by
    unfold connection at he ⊢
    dsimp only at he ⊢
    cases hu : RowUpdate.ofCommand? c with
    | none => rfl
    | some u =>
      rw [hu] at he
      simp only [update] at he ⊢
      split at he
      · split at he
        · split at he <;> cases he
        · rename_i hhas _ hguard
          simp [hhas]
      · cases he
  accepted c cells u column n hu hhas hguard hcells k hk := by
    have hcurrent : (cells column).version? = some n := hcells
    rw [execute_of hu, update_of_has hhas hguard, if_pos hcurrent] at hk ⊢
    cases hk
    refine ⟨Nat.one_pos, fun v hassigned hall => ?_⟩
    obtain ⟨a, ha, hacolumn⟩ := hassigned
    obtain ⟨b, hb⟩ : ∃ b, u.assigned.find? (·.1 == column) = some b := by
      rw [← Option.isSome_iff_exists, List.find?_isSome]
      exact ⟨a, ha, by simp [hacolumn]⟩
    have hbcolumn : b.1 = column := by simpa using List.find?_some hb
    simp only [id, assign, hb, Option.map_some, Option.getD_some]
    exact hall b (List.mem_of_find?_eq_some hb) hbcolumn
  refused c cells u column n hu hhas hguard hcells k hk := by
    have hcurrent : (cells column).version? ≠ some n := hcells
    rw [execute_of hu, update_of_has hhas hguard, if_neg hcurrent] at hk ⊢
    cases hk
    exact ⟨rfl, rfl⟩

def gateway : Gateway Cells :=
  ⟨connection, [SampleTypes.versioned], false⟩

def cells : Cells
  | "id" => one
  | "name" => .text "first"
  | "version" => .big 0 IntWidth.big.holds_zero
  | _ => .null

/-- The workspace in which an instance has got another name. -/
def renamed (h : Handle) (name : String) (w : Workspace Cells) : Workspace Cells :=
  (Work.setValue h "name" (.text name) w).2

theorem turn_renamed (c : Crowd Cells) (h : Handle) (name : String) :
    CrowdStep gateway id c [] [] { c with space := renamed h name c.space } := by
  refine .turn (Work.Steady.setValue h "name" (.text name) c.space) ?_
  simp only [renamed, Gateway.setValue_apply]
  split <;> rfl

theorem advance_next {c : Crowd Cells} {j : Nat} {u : Underway Cells} (hu : c.underway j = some u)
    (hr : u.drained.result = .ok ()) (hleft : u.drained.left ≠ []) :
    CrowdStep gateway id c [c.write gateway j u.drained.outcome (u.drained.left.head hleft)] []
      (c.advance gateway j u (u.drained.left.head hleft)) :=
  .advance hu hr (List.cons_head_tail hleft).symm

theorem maps_of_entries {c : Crowd Cells}
    (h : ∀ e ∈ c.space.journal.registry.entries,
      (Metadata.ofDescriptor gateway.catalogue.schema SampleTypes.versioned.descriptor).toOption =
        some e.2 ∧ e.2.id = ⟨"id", "id"⟩ ∧ e.2.version = some ⟨"version", "version"⟩ ∧
          ∀ f ∈ e.2.updatable, f.column = "version" → f.field = "version") :
    c.Maps gateway.catalogue.schema place "version" := by
  intro path m hm htable
  obtain ⟨l, hl, -⟩ := Assoc.mem_of_find? hm
  obtain ⟨hchecked, hid, hversion, honly⟩ := h _ hl
  refine ⟨by rw [hid]; rfl, ⟨_, eq_ok_of_toOption hchecked⟩, _, hversion, rfl,
    by rw [hid]; decide, honly⟩

def fresh : Crowd Cells :=
  .fresh (fun _ => {}) { store := cells }

theorem search_row {c : Crowd Cells} {j : Nat} (hidle : c.underway j = none) :
    CrowdStep gateway id c [] []
      (c.put j ((SessionCall.findById SampleTypes.versioned one).run gateway (c.state j)).2) :=
  .search hidle rfl

/-- Two sessions change what they found of one version, and both write it. -/
theorem no_lost_update_race : ∃ ws fs c, CrowdRun gateway id fresh ws fs c ∧
    NoLostUpdate place id "version" ws fs c ∧
    ws.map (·.attempt.executed.length) = [1, 0] ∧ fs.map (·.answer.isOk) = [true, false] := by
  have hstart : CrowdRun gateway id fresh [] [] fresh := .start
  have hfound := (hstart.step (search_row (j := 0) rfl)).step (search_row (j := 1) rfl)
  have hchanged := (hfound.step (turn_renamed _ 0 "second")).step (turn_renamed _ 1 "third")
  have hqueued := (hchanged.step (.dirtyCheck (j := 0) rfl)).step (.dirtyCheck (j := 1) rfl)
  have hbegun := (hqueued.step (.begin (j := 0) rfl (by decide))).step
    (.begin (j := 1) rfl (by decide))
  have hwritten := (hbegun.step (advance_next (j := 0) rfl rfl (by decide))).step
    (advance_next (j := 1) rfl rfl (by decide))
  have hrun := (hwritten.step (.finish (j := 0) rfl (.inl (by decide)))).step
    (.finish (j := 1) rfl (.inr ⟨_, rfl⟩))
  exact ⟨_, _, _, hrun, CrowdRun.no_lost_update guards hrun (maps_of_entries (by decide)),
    by decide, by decide⟩

end OneRowStore

end EntityMapper
