import EntityMapper.Proofs.Flush.Carrying
import EntityMapper.Proofs.Flush.Versions
/-! Version steps: an UPDATE that the store carries out takes the version of an entity from the one
that was expected to the next one, in its statement and in memory. -/

namespace EntityMapper

variable {σ : Type}

namespace Value

/-- The second version is the one after the first, in its width. 1 comes after a missing version. -/
inductive Precedes : Value → Value → Prop
  | first : Precedes .null (.big 1 IntWidth.big.holds_one)
  | next {w : IntWidth} {n m : SizedInt w} (h : m.val = n.val + 1) :
    Precedes (.integer w n) (.integer w m)

/-- A version is the greatest of its width. -/
def IsGreatest (x : Value) : Prop :=
  ∃ (w : IntWidth) (n : SizedInt w), x = .integer w n ∧ n.val + 1 = w.bound

variable {x y : Value}

theorem precedes_of_nextVersion (h : x.nextVersion = some y) : x.Precedes y := by
  cases x with
  | null =>
    cases h
    exact .first
  | integer w n =>
    obtain ⟨m, hm, rfl⟩ := Option.map_eq_some_iff.mp h
    exact .next (SizedInt.succ?_eq_some_iff.mp hm)
  | _ => cases h

/-- No version comes after the greatest one. -/
theorem IsGreatest.nextVersion (h : x.IsGreatest) : x.nextVersion = none := by
  obtain ⟨w, n, rfl, hn⟩ := h
  refine Option.map_eq_none_iff.mpr (SizedInt.ofInt?_eq_none_iff.mpr fun hholds => ?_)
  exact absurd hholds.2 (by rw [hn]; exact Int.lt_irrefl _)

end Value

/-- An integer that an integral field reads keeps its number. -/
theorem FieldType.version?_of_read {a : FieldType} (ha : a.isIntegral = true) {w : IntWidth}
    {n : SizedInt w} {z : Value} (h : a.read (.integer w n) = .ok z) :
    z.version? = (Value.integer w n).version? := by
  have hscalar {v : IntWidth} (h : (Scalar.integer v).read (.integer w n) = .ok z) :
      z.version? = (Value.integer w n).version? := by
    simp only [Scalar.read, Scalar.readInteger, Value.asInteger, SizedInt.widen_val] at h
    cases hm : SizedInt.ofInt? v n.val with
    | none => simp [hm] at h
    | some m =>
      simp only [hm, Except.ok.injEq] at h
      subst h
      simp [Value.version?, SizedInt.ofInt?_eq_some_iff.mp hm]
  cases a with
  | required s => cases s <;> first | exact hscalar h | cases ha
  | optional s => cases s <;> first | exact hscalar h | cases ha

/-- The instance of an entry is of a type with a version that is not its identifier, and the mapping
of the type is kept. -/
structure Entry.Versioned (e : Entry) (g : Gateway σ) (w : Workspace σ) (f : EntityField)
    (m : Metadata) : Prop extends e.Sound w where
  formed : (w.heap.get e.handle).type.Formed
  fits : (w.heap.get e.handle).Fits
  resolved : w.journal.registry.find? (w.heap.get e.handle).type.path = some m
  checked :
    Metadata.ofDescriptor g.catalogue.schema (w.heap.get e.handle).type.descriptor = .ok m
  version : (w.heap.get e.handle).type.versionField? = some f
  apart : f.isId = false

/-- A value is one that the version field of a type shows, or it is missing. -/
def EntityType.ShowsVersion (t : EntityType) (f : EntityField) (x : Value) : Prop :=
  x = .null ∨ ∀ a, t.HasColumn f a → a.Shows x

namespace Entry.Versioned

variable {g : Gateway σ} {w : Workspace σ} {e : Entry} {f : EntityField} {m : Metadata}
  (h : e.Versioned g w f m)

include h

theorem exists_column : ∃ a, (w.heap.get e.handle).type.HasColumn f a ∧ a.isIntegral = true ∧
    m.version = some ⟨f.name, f.columnName⟩ := by
  rcases Metadata.version_of_formed h.formed h.checked with
    ⟨-, hnone⟩ | ⟨f', a, hf', hcolumn, ha, hm⟩
  · rw [h.version] at hnone
    cases hnone
  · obtain rfl := Option.some.inj (h.version.symm.trans hf')
    exact ⟨a, hcolumn, ha, hm⟩

theorem version_ne_id : f.name ≠ m.id.field := by
  obtain ⟨a, hcolumn, -⟩ := h.exists_column
  obtain ⟨f', a', hid, hf', hm⟩ := Metadata.id_of_formed h.formed h.checked
  rw [hm]
  intro heq
  obtain rfl := h.formed.eq_of_name hcolumn.mem hf'.mem heq
  have hmark := List.find?_some hid
  rw [h.apart] at hmark
  cases hmark

theorem resolveKey : g.resolveKey e.key w = (.ok m, w) :=
  h.toSound.resolveKey g h.resolved

theorem mono {v : Workspace σ} (hg : w.Grows v) (hfits : (v.heap.get e.handle).Fits) :
    e.Versioned g v f m := by
  have htype := hg.types _ h.lt
  refine ⟨h.toSound.mono hg, ?_, hfits, ?_, ?_, ?_, h.apart⟩ <;> rw [htype]
  · exact h.formed
  · exact hg.journal _ _ h.resolved
  · exact h.checked
  · exact h.version

/-- The number of a next version can be put into the version field. -/
theorem setValue_next {x next : Value}
    (hx : (w.heap.get e.handle).type.ShowsVersion f x) (hnext : x.nextVersion = some next) :
    ∃ z i, (w.heap.get e.handle).setValue f.name next = .ok i ∧ i.fieldValue f.name = some z ∧
      z.version? = next.version? := by
  obtain ⟨a, hcolumn, ha, -⟩ := h.exists_column
  obtain ⟨z, hz⟩ := FieldType.read_nextVersion ha (hx.imp_right fun hx => hx a hcolumn) hnext
  have hset : (w.heap.get e.handle).setValue f.name next =
      .ok ((w.heap.get e.handle).setSlot f.name (.value z)) := by
    rw [Instance.setValue_column h.formed hcolumn, hz]
    rfl
  obtain ⟨z', hz', hslot, -⟩ := Instance.slot?_of_setValue h.formed h.fits hcolumn hset
  obtain rfl := Except.ok.inj (hz.symm.trans hz')
  refine ⟨z, _, hset, Instance.fieldValue_of_slot? hslot, ?_⟩
  cases Value.precedes_of_nextVersion hnext with
  | first => exact FieldType.version?_of_read ha hz
  | next hsucc => exact FieldType.version?_of_read ha hz

end Entry.Versioned

/-- An UPDATE changed a row, and gave a version to the column of the version field. To this column
it gave nothing else, unless other fields are stored there as well. -/
def Exchange.WritesVersion (x : Exchange) (m : Metadata) (v : ColumnMapping) (next : Value) :
    Prop :=
  ∃ c n u, x = .execute c (.ok n) ∧ 0 < n ∧ RowUpdate.ofCommand? c = some u ∧
    (v.column, next) ∈ u.assigned ∧
    ((∀ p ∈ m.updatable, p.column = v.column → p.field = v.field) →
      ∀ b ∈ u.assigned, b.1 = v.column → b.2 = next)

/-- The UPDATE of a versioned entity gives its version column the version after the expected one. -/
theorem Metadata.assigns_version {m : Metadata} {schema : Schema} {d : EntityDescriptor}
    {v : ColumnMapping} (hm : ofDescriptor schema d = .ok m) (hv : m.version = some v)
    (hid : v.field ≠ m.id.field) {x id : Value} {source : FieldSource} {plan : UpdatePlan}
    (h : m.updateOf (some x) id source = .ok plan) :
    ∃ u next, RowUpdate.ofCommand? plan.command = some u ∧ x.nextVersion = some next ∧
      plan.nextVersion = some next ∧ (v.column, next) ∈ u.assigned ∧
      ((∀ p ∈ m.updatable, p.column = v.column → p.field = v.field) →
        ∀ b ∈ u.assigned, b.1 = v.column → b.2 = next) := by
  obtain ⟨step, hstep, hu, hplan⟩ := ofCommand?_updateOf h
  obtain ⟨next, hnext, rfl⟩ := exists_of_versionStep hv hstep
  refine ⟨_, next, hu, hnext, hplan, ?_, fun honly b hb hcolumn => ?_⟩
  · exact List.mem_map.mpr ⟨_, version_mem_updatable hm hv hid, by simp [assignedValue]⟩
  · obtain ⟨p, hp, rfl⟩ := List.mem_map.mp hb
    simp [assignedValue, honly p hp hcolumn]

namespace Gateway

variable (g : Gateway σ) {w : Workspace σ} {e : Entry} {f : EntityField} {m : Metadata} {x : Value}

/-- An UPDATE that expects a version without a next one fails before anything is said over the
connection. -/
theorem perform_unsent (h : e.Versioned g w f m) (hx : x.nextVersion = none) (o : Outcome) :
    ∃ err, g.perform (.merge e x) o w = ((.error err, o), w) := by
  obtain ⟨a, -, -, hm⟩ := h.exists_column
  have hupdate : ∃ fault, m.updateOf (some x) e.key.id (w.heap.get e.handle).fieldValue =
      .error fault := by
    cases hplan : m.updateOf (some x) e.key.id (w.heap.get e.handle).fieldValue with
    | error fault => exact ⟨fault, rfl⟩
    | ok plan =>
      obtain ⟨-, next, -, hnext, -⟩ := Metadata.assigns_version h.checked hm h.version_ne_id hplan
      rw [hx] at hnext
      cases hnext
  obtain ⟨fault, hfault⟩ := hupdate
  rw [perform_merge_apply, update_apply, h.resolveKey]
  simp only [hfault]
  exact ⟨_, rfl⟩

/-- What an UPDATE leaves that took a version to the next one: the statement gave that to the row,
nothing failed, and the instance has its number. -/
structure Advances (e : Entry) (m : Metadata) (f : EntityField) (x : Value) (o : Outcome)
    (y : Exchange) (run : (Except Error Unit × Outcome) × Workspace σ) (next z : Value) :
    Prop where
  precedes : x.Precedes next
  bound : y.WritesVersion m ⟨f.name, f.columnName⟩ next
  written : run.1 = (.ok (), { o with merged := o.merged ++ [e] })
  inMemory : (run.2.heap.get e.handle).fieldValue f.name = some z
  same : z.version? = next.version?

/-- An UPDATE that the store carries out takes the expected version to the next one, and putting
that into the entity does not fail. -/
theorem perform_advances (h : e.Versioned g w f m)
    (hx : (w.heap.get e.handle).type.ShowsVersion f x) {o : Outcome} {xs : List Exchange}
    (hxs : (g.perform (.merge e x) o w).2.transcript = w.transcript ++ xs) {y : Exchange}
    (hy : y ∈ xs) (haccepted : y.isAcceptedWrite = true) :
    ∃ next z, Advances e m f x o y (g.perform (.merge e x) o w) next z := by
  obtain ⟨a, -, -, hm⟩ := h.exists_column
  have hsaid := g.transcript_perform_request (.merge e x) o w
  rw [hxs] at hsaid
  have hone := List.append_cancel_left hsaid
  rw [hone] at hy
  clear hxs hsaid hone
  cases hplan : m.updateOf (some x) e.key.id (w.heap.get e.handle).fieldValue with
  | error fault =>
    rw [exchange?_of_unplanned h.resolveKey hplan] at hy
    cases hy
  | ok plan =>
    obtain ⟨u, next, hu, hnext, hplanned, hbound, honly⟩ :=
      Metadata.assigns_version h.checked hm h.version_ne_id hplan
    obtain ⟨z, i, hset, hvalue, hsame⟩ := h.setValue_next hx hnext
    rw [exchange?_of_planned h.resolveKey hplan] at hy
    obtain rfl := List.mem_singleton.mp hy
    rw [perform_merge_apply, update_apply, h.resolveKey]
    simp only [hplan]
    cases hanswer : (g.connection.execute plan.command w.store).1 with
    | error fault =>
      rw [hanswer] at haccepted
      cases haccepted
    | ok n =>
      rw [hanswer] at haccepted
      have hn : 0 < n := of_decide_eq_true haccepted
      simp only [Nat.ne_of_gt hn, if_false, hplanned, writeVersion_apply, setValue_apply,
        Workspace.heap_exchanged, announced, Workspace.heap_note, h.version, hset]
      refine ⟨next, z, Value.precedes_of_nextVersion hnext,
        ⟨_, n, u, rfl, hn, hu, hbound, honly⟩, rfl, ?_, hsame⟩
      rw [Heap.get_set_self]
      exact hvalue

/-- A drain comes to an action when it has carried out all the actions before it. -/
def ComesTo (actions : List Action) (start : Workspace σ) (a : Action) (o : Outcome)
    (w : Workspace σ) : Prop :=
  ∃ before after, actions = before ++ a :: after ∧
    g.performAll before {} start = (⟨.ok (), [], o⟩, w)

theorem performAll_append {before : List Action} {o out : Outcome} {w v : Workspace σ}
    (h : g.performAll before o w = (⟨.ok (), [], out⟩, v)) (after : List Action) :
    g.performAll (before ++ after) o w = g.performAll after out v := by
  induction before generalizing o w with
  | nil =>
    cases h
    rfl
  | cons a rest ih =>
    rcases hr : g.perform a o w with ⟨⟨e | u, written⟩, u⟩
    · rw [g.performAll_of_error hr] at h
      cases h
    · rw [g.performAll_of_ok hr] at h
      rw [List.cons_append, g.performAll_of_ok hr]
      exact ih h

namespace ComesTo

variable {g} {actions : List Action} {start : Workspace σ} {a : Action} {o : Outcome}

section

variable (h : g.ComesTo actions start a o w)

include h

theorem grows : start.Grows w := by
  obtain ⟨before, -, -, hbefore⟩ := h
  have hgrows := g.steady_performAll before {} start
  rwa [hbefore] at hgrows

theorem fits (hc : g.catalogue.Formed) (hstart : start.heap.Fits g.catalogue) :
    w.heap.Fits g.catalogue := by
  obtain ⟨before, -, -, hbefore⟩ := h
  have hfits := g.fits_performAll hc before {} hstart
  rwa [hbefore] at hfits

/-- A drain stops at an action that fails. -/
theorem result_of_error {err : Error} {written : Outcome} {v : Workspace σ}
    (herr : g.perform a o w = ((.error err, written), v)) :
    (g.performAll actions {} start).1.result = .error err := by
  obtain ⟨before, after, rfl, hbefore⟩ := h
  rw [g.performAll_append hbefore, g.performAll_of_error herr]

end

/-- An UPDATE that a drain comes to and that does not fail is recorded, and the drain changes its
instance no more. -/
theorem recorded (h : g.ComesTo actions start (.merge e x) o w)
    (hsound : ∀ a ∈ actions, a.Sound start)
    (hdistinct : (actions.filterMap Action.handle?).Nodup)
    (hwritten : (g.perform (.merge e x) o w).1 = (.ok (), { o with merged := o.merged ++ [e] })) :
    e ∈ (g.performAll actions {} start).1.outcome.merged ∧
      (g.performAll actions {} start).2.heap.get e.handle =
        (g.perform (.merge e x) o w).2.heap.get e.handle := by
  have hgrows := h.grows
  obtain ⟨before, after, rfl, hbefore⟩ := h
  have hstep := g.steady_perform (.merge e x) o w
  rcases hr : g.perform (.merge e x) o w with ⟨run, v⟩
  rw [hr] at hwritten hstep
  dsimp only at hwritten
  subst hwritten
  rw [g.performAll_append hbefore, g.performAll_of_ok hr]
  constructor
  · have hafter : ∀ a ∈ after, a.Sound v := fun a ha =>
      (hsound a (by simp [ha])).mono (hgrows.trans hstep)
    obtain ⟨⟨done, -, hrecords⟩, -⟩ :=
      g.performAll_drains hafter { o with merged := o.merged ++ [e] }
    rw [hrecords.merged]
    simp
  · refine g.get_performAll_of_ne (fun a ha hhandle => ?_) _ v
    rw [List.filterMap_append, List.filterMap_cons] at hdistinct
    have hlater := (List.nodup_append.mp hdistinct).2.1
    exact (List.nodup_cons.mp hlater).1 (List.mem_filterMap.mpr ⟨a, ha, hhandle⟩)

end ComesTo

end Gateway

end EntityMapper
