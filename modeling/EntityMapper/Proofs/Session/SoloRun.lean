import EntityMapper.Proofs.Session.Mirroring
import EntityMapper.Proofs.Store.Tables
import EntityMapper.Scenario.Catalogue
/-! Solo runs: a session that works alone on a store, whose snapshots mirror the rows of the store
unless a rollback has changed the rows. -/

namespace EntityMapper

variable {σ : Type}

open Session SessionState

/-- A row of the entity of a key holds the values of the snapshot, when its fields read them. The
identifier is told by the key. -/
def Snapshot.Mirrors (snapshot : Snapshot) (g : Gateway σ) (rows : σ → EntityType → List TableRow)
    (w : Workspace σ) (k : EntityKey) : Prop :=
  ∃ t ∈ g.catalogue, k.path? = some t.path ∧ ∃ m, w.journal.registry.find? t.path = some m ∧
    ∃ r ∈ rows w.store t, t.HasId r k ∧ t.Shows r (snapshot.valueOf? m)

namespace SessionCall

variable (g : Gateway σ) (rows : σ → EntityType → List TableRow)

/-- What the caller brings is of the types of the catalogue, and what it looks for are their
rows. -/
def Brings : SessionCall → Prop
  | persist i | persistDeferred i | merge i => i.type ∈ g.catalogue ∧ i.Fits
  | remove _ | dirtyCheck | flush | close | begin | commit | rollback => True
  | c => c.Searches g (· ∈ g.catalogue) (g.Lists rows)

/-- Of the snapshots that an operation leaves those that are out of date: they were so before, or
the operation is a rollback that has changed the row. -/
def outdates (X : EntityKey → Snapshot → Prop) (s : SessionState σ) (c : SessionCall)
    (k : EntityKey) (snapshot : Snapshot) : Prop :=
  (c.run g s).2.session.snapshots.find? k = some snapshot ∧
    (X k snapshot ∨ c = rollback ∧ g.Loses rows k s.space.store (c.run g s).2.space.store)

end SessionCall

theorem SessionCall.not_outdates {g : Gateway σ} {rows : σ → EntityType → List TableRow}
    {X : EntityKey → Snapshot → Prop} {s : SessionState σ} {c : SessionCall} {k : EntityKey}
    {snapshot : Snapshot} (hc : c ≠ .rollback) (hX : ¬ X k snapshot) :
    ¬ c.outdates g rows X s k snapshot := by
  rintro ⟨-, hbefore | ⟨hrollback, -⟩⟩
  · exact hX hbefore
  · exact hc hrollback

/-- A run of a session that works alone on its store: its operations, and between them changes that
the caller makes to shared instances. With it go the snapshots that are out of date. -/
inductive SoloRun (g : Gateway σ) (rows : σ → EntityType → List TableRow)
    (start : SessionState σ) : (EntityKey → Snapshot → Prop) → SessionState σ → Prop
  | start : SoloRun g rows start (fun _ _ => False) start
  | call {X s} (h : SoloRun g rows start X s) {c : SessionCall} (hc : c.Brings g rows) :
    SoloRun g rows start (c.outdates g rows X s) (c.run g s).2
  | edit {X s w} (h : SoloRun g rows start X s) (hg : s.space.Grows w)
    (hheap : w.heap.Fits g.catalogue) (hstore : w.store = s.space.store) :
    SoloRun g rows start X { s with space := w }

section Runs

variable {g : Gateway σ} {rows : σ → EntityType → List TableRow} {X : EntityKey → Snapshot → Prop}
  {s : SessionState σ} (hrows : g.Tabular rows) (hc : g.catalogue.Formed)

include hrows hc

/-- Every operation but the end of a session and a rollback keeps all known entities mirrored. -/
theorem SessionCall.meets_run_working {c : SessionCall} (hbrings : c.Brings g rows)
    (hclose : c ≠ .close) (hrollback : c ≠ .rollback) :
    Meets (Working g rows X) (c.run g) (fun _ => Working g rows X) (Working g rows X) := by
  have answer {α : Type} {f : α → SessionAnswer} {x : Operation σ α}
      (hx : Meets (Working g rows X) x (fun _ => Working g rows X) (Working g rows X)) :
      Meets (Working g rows X) (f <$> x) (fun _ => Working g rows X) (Working g rows X) :=
    .map (R := fun _ => Working g rows X) hx
  cases c with
  | persist i => exact answer (meets_persist_working hrows hc hbrings.1 hbrings.2)
  | persistDeferred i => exact answer (meets_persistDeferred_working hbrings.1 hbrings.2)
  | merge i => exact answer (meets_merge_working hrows hc hbrings.1 hbrings.2)
  | remove h => exact answer (meets_remove_working h)
  | dirtyCheck => exact answer (meets_dirtyCheck_working hc)
  | flush => exact answer (meets_flush_working hrows hc)
  | close => exact absurd rfl hclose
  | begin => exact answer (meets_begin_working hrows)
  | commit => exact answer (meets_commit_working hrows hc)
  | rollback => exact absurd rfl hrollback
  | _ =>
    exact meets_searched (keeper_working hrows hc) (loader_working hrows hc)
      (fun _ _ h => h.harmless) hbrings

theorem SessionState.Mirroring.run (hs : s.Mirroring g rows X) {c : SessionCall}
    (hbrings : c.Brings g rows) :
    Mirroring g rows (c.outdates g rows X s) (c.run g s).2 := by
  cases hclosed : s.session.closed with
  | true =>
    unfold SessionCall.outdates
    rw [c.run_of_closed g hclosed]
    exact hs.exempt fun k snapshot hfind hx => ⟨hfind, .inl hx⟩
  | false =>
    have hworking : Working g rows X s := ⟨hs, hclosed⟩
    by_cases hrollback : c = .rollback
    · subst hrollback
      have hkept := mirroring_rollback hworking
      rw [show (rollback g s).2 = (SessionCall.rollback.run g s).2 by
        rw [SessionCall.run, map_apply]] at hkept
      exact hkept.exempt fun k snapshot hfind hor => ⟨hfind, hor.imp_right fun h => ⟨rfl, h⟩⟩
    · have hkept : Mirroring g rows X (c.run g s).2 := by
        by_cases hclose : c = .close
        · subst hclose
          rw [SessionCall.run, map_apply]
          exact mirroring_close hrows hc hworking
        · exact ((c.meets_run_working hrows hc hbrings hclose hrollback).final
            hworking).toMirroring
      exact hkept.exempt fun k snapshot hfind hx => ⟨hfind, .inl hx⟩

theorem SoloRun.mirroring {c : SessionConfig} {w : Workspace σ} (hw : w.heap.Fits g.catalogue)
    (h : SoloRun g rows ⟨{ config := c }, w⟩ X s) : s.Mirroring g rows X := by
  induction h with
  | start => exact (Working.fresh c hw).toMirroring
  | call h hbrings ih => exact ih.run hrows hc hbrings
  | edit h hg hheap hstore ih =>
    exact ih.work hg (fun _ => hheap) fun _ => .of_eq (by rw [hstore])

/-- The caller puts a value into a field of a shared instance. -/
theorem SoloRun.setValue {c : SessionConfig} {w : Workspace σ} (hw : w.heap.Fits g.catalogue)
    (h : SoloRun g rows ⟨{ config := c }, w⟩ X s) (hmaps : s.space.Maps g) {l : Handle}
    (hl : l < s.space.heap.next) (field : String) (v : Value) :
    SoloRun g rows ⟨{ config := c }, w⟩ X
      { s with space := (Work.setValue l field v s.space).2 } := by
  have hfits : s.space.heap.Fits g.catalogue := ((h.mirroring hrows hc hw).tidy hmaps).heap
  refine h.edit (Work.Steady.setValue l field v s.space) ?_ ?_ <;> rw [Gateway.setValue_apply]
  · split
    · rename_i i hi
      exact hfits.set (Instance.type_of_setValue hi)
        fun hold => Instance.fits_of_setValue (hc.types _ (hfits l hl).1) hold hi
    · exact hfits
  · split <;> rfl

end Runs

namespace SampleTables

def gateway : Gateway TableStore :=
  TableStore.gateway [SampleTypes.versioned]

theorem formed : gateway.catalogue.Formed where
  types t ht := by
    obtain rfl := List.mem_singleton.mp ht
    exact ⟨by decide, by decide⟩
  paths t ht u hu _ := (List.mem_singleton.mp ht).trans (List.mem_singleton.mp hu).symm

theorem tabular : gateway.Tabular TableStore.rowsOf :=
  TableStore.tabular formed (by decide)

def fresh : SessionState TableStore :=
  ⟨{ config := {} }, { store := {} }⟩

/-- A run of a session that works alone on the tables. -/
abbrev Run (X : EntityKey → Snapshot → Prop) (s : SessionState TableStore) : Prop :=
  SoloRun gateway TableStore.rowsOf fresh X s

def blank : Instance :=
  .initial SampleTypes.versioned

theorem brings_persist : (SessionCall.persist blank).Brings gateway TableStore.rowsOf :=
  ⟨List.mem_singleton_self _, Instance.fits_initial (formed.types _ (List.mem_singleton_self _))⟩

theorem fits_fresh : fresh.space.heap.Fits gateway.catalogue :=
  fun l hl => absurd hl (Nat.not_lt_zero l)

/-- The key of the first row. -/
def first : EntityKey :=
  .of SampleTypes.versioned (.big 1 IntWidth.big.holds_one)


def added : SessionState TableStore :=
  ((SessionCall.persist blank).run gateway fresh).2

/-- The first row is added, changed in memory in one of its fields, and written. -/
def changed (field : String) (v : Value) : SessionState TableStore :=
  let edited := { added with space := (Work.setValue 0 field v added.space).2 }
  (SessionCall.flush.run gateway (SessionCall.dirtyCheck.run gateway edited).2).2

theorem run_changed (field : String) (v : Value) :
    ∃ X, Run X (changed field v) ∧ ∀ k snapshot, ¬ X k snapshot := by
  have hadded : Run _ added := .call .start brings_persist
  have hedited := hadded.setValue tabular formed fits_fresh
    (Workspace.maps_of_checked (by decide)) (l := 0) (by decide) field v
  refine ⟨_, (hedited.call (c := .dirtyCheck) trivial).call (c := .flush) trivial, ?_⟩
  intro k snapshot
  iterate 3 refine SessionCall.not_outdates (by simp) ?_
  exact id

/-- A row of the entity of a key holds the values of the snapshot in all columns, the identifier
included. -/
def Copies (snapshot : Snapshot) (w : Workspace TableStore) (k : EntityKey) : Prop :=
  ∃ t ∈ gateway.catalogue, ∃ m, w.journal.registry.find? t.path = some m ∧
    ∃ r ∈ w.store.rowsOf t, t.HasId r k ∧ ∀ f a, t.HasColumn f a →
      ∃ v, a.read (r f.columnName) = .ok v ∧ snapshot.valueOf? m f.name = some v

/-- The first entity is known, but its snapshot is not what a row holds. -/
def Uncopied (s : SessionState TableStore) : Prop :=
  (s.session.map.find? first).isSome = true ∧
    ∀ snapshot, s.session.snapshots.find? first = some snapshot → ¬ Copies snapshot s.space first

/-- The first row is added in a transaction that is rolled back. -/
def undone : SessionState TableStore :=
  let begun := (SessionCall.begin.run gateway fresh).2
  (SessionCall.rollback.run gateway ((SessionCall.persist blank).run gateway begun).2).2

/-- An identifier that was changed in memory. -/
def renumbered : SessionState TableStore :=
  changed "id" (.big 7 (by decide))

theorem uncopied_undone : Uncopied undone := by
  refine ⟨by decide, ?_⟩
  rintro snapshot - ⟨t, ht, m, -, r, hr, -⟩
  obtain rfl := List.mem_singleton.mp ht
  have hnone : (undone.space.store.rowsOf SampleTypes.versioned).length = 0 := by decide
  rw [List.eq_nil_of_length_eq_zero hnone] at hr
  cases hr

theorem uncopied_renumbered : Uncopied renumbered := by
  refine ⟨by decide +kernel, ?_⟩
  rintro snapshot hsnapshot ⟨t, ht, m, hm, r, hr, -, hall⟩
  obtain rfl := List.mem_singleton.mp ht
  obtain ⟨v, hread, hv⟩ := hall SampleTypes.madeId _ ⟨List.mem_cons_self, rfl⟩
  have hdiffer : ∀ m ∈ renumbered.space.journal.registry.find? "Versioned",
      ∀ snapshot ∈ renumbered.session.snapshots.find? first,
        ∀ r ∈ renumbered.space.store.rowsOf SampleTypes.versioned,
          (snapshot.valueOf? m "id").map Value.toText ≠
            ((FieldType.optional (.integer .big)).read (r "id")).toOption.map Value.toText := by
    decide +kernel
  refine hdiffer m hm snapshot hsnapshot r hr ?_
  rw [show (FieldType.optional (.integer .big)).read (r "id") = .ok v from hread]
  exact congrArg (Option.map Value.toText) hv

end SampleTables

end EntityMapper
