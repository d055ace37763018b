import EntityMapper.Proofs.Flush.Touching
import EntityMapper.Proofs.Store.Updates
/-! Carrying: the UPDATEs of a drain carry what their entities hold when it begins. -/

namespace EntityMapper

variable {σ : Type}

/-- The value that an UPDATE gives a field of an instance: the next version to the version field,
and to any other field what the instance holds. -/
def Metadata.written (m : Metadata) (next : Value) (i : Instance) (f : PersistentField) : Value :=
  if m.version.any (·.field == f.field) then next else (i.fieldValue f.field).getD .null

theorem Metadata.assignedValue_eq {m : Metadata} {expected : Value} {i : Instance}
    {step : Option (ColumnMapping × Value × Value)}
    (h : m.versionStep (some expected) i.fieldValue = .ok step) :
    ∃ next, (m.version.isSome → expected.nextVersion = some next) ∧
      assignedValue step i.fieldValue = m.written next i := by
  refine ⟨(step.map fun s => s.2.2).getD .null, fun hversion => ?_, funext fun f => ?_⟩
  · obtain ⟨v, hv⟩ := Option.isSome_iff_exists.mp hversion
    obtain ⟨next, hnext, rfl⟩ := exists_of_versionStep hv h
    exact hnext
  · exact assignedValue_of_versionStep h f

namespace Workspace

/-- An exchange is an UPDATE of an entry that changed a row. It is addressed to the key of the
entry, and carries the version after the expected one and otherwise what the instance holds. -/
def UpdateOf (w : Workspace σ) (e : Entry) (expected : Value) (x : Exchange) : Prop :=
  ∃ m next c n u, w.journal.registry.find? (w.heap.get e.handle).type.path = some m ∧
    (m.version.isSome → expected.nextVersion = some next) ∧
    x = .execute c (.ok n) ∧ n ≠ 0 ∧ RowUpdate.ofCommand? c = some u ∧
    u.table = m.table ∧ u.idColumn = m.id.column ∧ u.id = e.key.id ∧
    u.assigned = m.updatable.map fun f => (f.column, m.written next (w.heap.get e.handle) f)

/-- An UPDATE that is sent later carries the same if the instance was not changed. -/
theorem UpdateOf.earlier {w v : Workspace σ} {e : Entry} {expected : Value} {x : Exchange}
    (h : v.UpdateOf e expected x) (he : e.Ready w) (hg : w.Grows v)
    (hsame : v.heap.get e.handle = w.heap.get e.handle) : w.UpdateOf e expected x := by
  obtain ⟨m, next, c, n, u, hm, hrest⟩ := h
  obtain ⟨m', hm'⟩ := he.resolved
  rw [hsame] at hm hrest
  obtain rfl := Option.some.inj (hm.symm.trans (hg.journal _ _ hm'))
  exact ⟨m, next, c, n, u, hm', hrest⟩

end Workspace

/-- The type of a sound entry is resolved by its key, if its mapping is kept. -/
theorem Entry.Sound.resolveKey (g : Gateway σ) {w : Workspace σ} {e : Entry} (h : e.Sound w)
    {m : Metadata}
    (hm : w.journal.registry.find? (w.heap.get e.handle).type.path = some m) :
    g.resolveKey e.key w = (.ok m, w) := by
  obtain ⟨t, ht, hpath⟩ := Option.map_eq_some_iff.mp h.path
  rw [Gateway.resolveKey, ht]
  dsimp only
  rw [Gateway.resolve_apply, Journal.resolve_of_find? (by rw [← hm, ← hpath]; rfl)]

namespace Gateway

variable (g : Gateway σ)

/-- The first action that fails ends a drain, after the ones before it were carried out. -/
theorem performAll_error {as : List Action} {o : Outcome} {w : Workspace σ} {f : Error}
    (h : (g.performAll as o w).1.result = .error f) : ∃ done a rest out v,
      as = done ++ a :: rest ∧ g.performAll done o w = (⟨.ok (), [], out⟩, v) ∧
        (g.perform a out v).1.1 = .error f := by
  induction as generalizing o w with
  | nil => cases h
  | cons a rest ih =>
    rcases hr : g.perform a o w with ⟨⟨e | u, written⟩, v⟩
    · rw [g.performAll_of_error hr] at h
      exact ⟨[], a, rest, o, w, rfl, rfl, by rw [hr]; exact h⟩
    · rw [g.performAll_of_ok hr] at h
      obtain ⟨done, b, rest', out, v', rfl, hdone, hb⟩ := ih h
      exact ⟨a :: done, b, rest', out, v', rfl, by rw [g.performAll_of_ok hr]; exact hdone, hb⟩

/-- An UPDATE that is performed carries what its entity holds. -/
theorem updateOf_perform {e : Entry} {x : Value} {o out : Outcome} {w v : Workspace σ}
    (he : e.Ready w) (h : g.perform (.merge e x) o w = ((.ok (), out), v)) :
    ∃ y, v.transcript = w.transcript ++ [y] ∧ w.UpdateOf e x y := by
  obtain ⟨m, hm⟩ := he.resolved
  have hresolved := he.toSound.resolveKey g hm
  rw [perform_merge_apply, update_apply, hresolved] at h
  dsimp only at h
  cases hplan : m.updateOf (some x) e.key.id (w.heap.get e.handle).fieldValue with
  | error fault =>
    rw [hplan] at h
    cases h
  | ok plan =>
    obtain ⟨step, hstep, hu, -⟩ := Metadata.ofCommand?_updateOf hplan
    obtain ⟨next, hnext, hassigned⟩ := Metadata.assignedValue_eq hstep
    rw [hplan] at h
    dsimp only at h
    rcases hanswer : (g.connection.execute plan.command w.store).1 with f | n
    · rw [hanswer] at h
      cases h
    · rw [hanswer] at h
      dsimp only at h
      by_cases hn : n = 0
      · rw [if_pos hn] at h
        cases h
      · rw [if_neg hn] at h
        refine ⟨.execute plan.command (.ok n), ?_, m, next, _, n, _, hm, hnext, rfl, hn, hu, rfl,
          rfl, rfl, by rw [hassigned]⟩
        rw [← (Prod.mk.inj h).2, transcript_writeVersion]
        exact g.transcript_sent rfl _ _

/-- When all UPDATEs of a drain are carried out, each was sent once and carried what its entity
held at the beginning. -/
theorem updates_performAll {dirty : List (Entry × Value)}
    (hdistinct : (dirty.map (·.1.handle)).Nodup) {o : Outcome} {w : Workspace σ}
    (hready : ∀ p ∈ dirty, p.1.Ready w)
    (h : (g.performAll (dirty.map fun p => .merge p.1 p.2) o w).1.result = .ok ()) :
    ∃ xs, (g.performAll (dirty.map fun p => .merge p.1 p.2) o w).2.transcript =
        w.transcript ++ xs ∧ List.Forall₂ (fun p x => w.UpdateOf p.1 p.2 x) dirty xs := by
  induction dirty generalizing o w with
  | nil => exact ⟨[], (List.append_nil _).symm, .nil⟩
  | cons p dirty ih =>
    obtain ⟨hp, hdirty⟩ := List.forall_mem_cons.mp hready
    obtain ⟨hnot, hdistinct⟩ := List.nodup_cons.mp hdistinct
    have hg := g.steady_perform (.merge p.1 p.2) o w
    rw [List.map_cons] at h ⊢
    rcases hr : g.perform (.merge p.1 p.2) o w with ⟨⟨e | u, written⟩, v⟩
    · rw [g.performAll_of_error hr] at h
      cases h
    rw [g.performAll_of_ok hr] at h ⊢
    rw [hr] at hg
    obtain ⟨y, hy, hupdate⟩ := g.updateOf_perform hp hr
    obtain ⟨xs, hxs, hupdates⟩ := ih hdistinct (fun q hq => (hdirty q hq).mono hg) h
    refine ⟨y :: xs, by rw [hxs, hy, List.append_assoc]; rfl, .cons hupdate ?_⟩
    have hlist := (List.forall₂_and_left dirty xs).mpr ⟨fun _ hq => hq, hupdates⟩
    refine hlist.imp fun q x hq => hq.2.earlier (hdirty q hq.1) hg ?_
    have hne : q.1.handle ≠ p.1.handle := fun heq => hnot (List.mem_map.mpr ⟨q, hq.1, heq⟩)
    have hsame := g.get_perform_of_ne (a := .merge p.1 p.2)
      (fun heq => hne (Option.some.inj heq).symm) o w
    rwa [hr] at hsame

end Gateway

end EntityMapper
