import EntityMapper.Proofs.Store.Loading
import EntityMapper.Proofs.Store.Updates
import EntityMapper.Scenario.Catalogue
import EntityMapper.Store.Scripted
/-! References: what a field shows that refers to another entity, and what an UPDATE writes back to
its join column. -/

namespace EntityMapper

variable {σ : Type}

namespace Gateway

variable (g : Gateway σ)

/-- What is found for the value of a join column. A null is not looked for. For another value it is
the row, if there is one, that the store answers with when it is asked for the target with that
identifier. -/
inductive LooksUp (target : EntityType) (w : Workspace σ) (held : Value) : Option Row → Prop
  | unasked (hnull : held.isNull = true) : LooksUp target w held none
  | asked {u : Workspace σ} {m : Metadata} {found : Option Row} (hnull : held.isNull = false)
    (hread : w.Read g.connection (fun _ => True) u) (hm : (g.resolve target u).1 = .ok m)
    (hanswer : (g.connection.query ⟨m.selectById, [held.identity]⟩ u.store).1 =
      .ok found.toList) : LooksUp target w held found

/-- A target is built from the row that was found, if one was. -/
def Builds (target : EntityType) (found : Option Row) (o : Option Instance) : Prop :=
  List.Forall₂ (fun r (i : Instance) => i.BuiltFrom target r) found.toList o.toList

variable {g} {t target : EntityType} {r : Row} {depth : Nat}

/-- The entity that is loaded is built from the row that the store answers with. -/
theorem loadWithin_builds {id : Value} {o : Option Instance} {w v : Workspace σ}
    (h : g.loadWithin depth target id w = (.ok o, v)) :
    ∃ m found, (g.resolve target w).1 = .ok m ∧
      (g.connection.query ⟨m.selectById, [id.identity]⟩ w.store).1 = .ok (Option.toList found) ∧
      Builds target found o := by
  cases depth with
  | zero => cases h
  | succ depth =>
    obtain ⟨m, u, hm, h⟩ := exists_of_bind h
    obtain ⟨rows, u', hrows, h⟩ := exists_of_bind h
    obtain ⟨is, v', his, h⟩ := exists_of_bind h
    have hbuilt := (meets_hydrate_each target rows).ok trivial his
    rw [← toList_of_atMostOne (Prod.mk.inj h).1] at hbuilt
    have hstore : u.store = w.store := by
      rw [resolve_apply] at hm
      rw [← (Prod.mk.inj hm).2]
    rw [query_apply, hstore] at hrows
    have hanswer := ok_of_mapError _ (Prod.mk.inj hrows).1
    -- Each row gives an instance, so that the store answered with one row at most.
    obtain ⟨found, rfl⟩ : ∃ found : Option Row, rows = found.toList := by
      cases o with
      | none => exact ⟨none, List.forall₂_nil_right_iff.mp hbuilt⟩
      | some i =>
        obtain ⟨row, rest, -, hrest, rfl⟩ := List.forall₂_cons_right_iff.mp hbuilt
        exact ⟨some row, by rw [List.forall₂_nil_right_iff.mp hrest]; rfl⟩
    exact ⟨m, found, by rw [hm], hanswer, hbuilt⟩

variable {f : EntityField} {exclusive : Bool} {place : Nat} {join : String}

/-- A slot of an owning field holds the target that is built from what is found for the value of
the join column. -/
def Links (g : Gateway σ) (target : EntityType) (w : Workspace σ) (r : Row) (join : String)
    (s : Slot Instance) : Prop :=
  ∃ held found o, r.get? join = some held ∧ g.LooksUp target w held found ∧
    Builds target found o ∧ s = .reference o

theorem links_of_readSlot (hrole : f.role = .reference exclusive place join)
    (hplace : g.catalogue[place]? = some target) {s : Slot Instance} {w u v : Workspace σ}
    (hread : w.Read g.connection (fun _ => True) u)
    (h : Instance.readSlot (g.linker (g.loadWithin depth)) t r f u = (.ok s, v)) :
    g.Links target w r join s := by
  rw [Instance.readSlot, hrole] at h
  dsimp only at h
  obtain ⟨held, u', hrequire, h⟩ := exists_of_bind h
  obtain ⟨o, v', ho, h⟩ := exists_of_bind h
  obtain rfl : .reference o = s := Except.ok.inj (Prod.mk.inj h).1
  rw [liftM_except_apply] at hrequire
  obtain ⟨hheld, rfl⟩ := Prod.mk.inj hrequire
  simp only [linker, typeAt, hplace] at ho
  cases hnull : held.isNull with
  | true =>
    rw [if_pos hnull] at ho
    obtain rfl : none = o := Except.ok.inj (Prod.mk.inj ho).1
    exact ⟨held, none, none, Row.get?_of_require hheld, .unasked hnull, .nil, rfl⟩
  | false =>
    rw [if_neg (by simp [hnull]), pure_bind] at ho
    obtain ⟨m, found, hm, hanswer, hbuilds⟩ := loadWithin_builds ho
    exact ⟨held, found, o, Row.get?_of_require hheld, .asked hnull hread hm hanswer, hbuilds, rfl⟩

/-- If a field is owning, its slot holds what is found for its join column. -/
def Resolves (g : Gateway σ) (w : Workspace σ) (r : Row) (f : EntityField) (s : Slot Instance) :
    Prop :=
  ∀ exclusive place join target, f.role = .reference exclusive place join →
    g.catalogue[place]? = some target → g.Links target w r join s

/-- Each slot of an instance is read after those before it, which only read from the store. -/
theorem meets_readSlot_resolves (w : Workspace σ) (f : EntityField) :
    Meets (w.Read g.connection fun _ => True)
      (Instance.readSlot (g.linker (g.loadWithin depth)) t r f : Work σ (Slot Instance))
      (fun s v => g.Resolves w r f s ∧ w.Read g.connection (fun _ => True) v)
      (fun _ => True) := by
  intro u hu
  have hreads := Instance.reads_readSlot
    (g.reads_linker fun t id => g.reads_loadWithin Command.allowsSelect_any depth t id) t r f u
  rcases h : Instance.readSlot (g.linker (g.loadWithin depth)) t r f u with ⟨e | s, v⟩
  · trivial
  · rw [h] at hreads
    exact ⟨fun _ _ _ _ hrole hplace => links_of_readSlot hrole hplace hu h, hu.trans hreads.toRead⟩

theorem resolves_of_ofRow {i : Instance} {w v : Workspace σ} (ht : t.Formed) (hf : f ∈ t.fields)
    (h : Instance.ofRow (g.linker (g.loadWithin depth)) t r w = (.ok i, v)) :
    i.type = t ∧ ∃ s, i.slot? f.name = some s ∧ g.Resolves w r f s := by
  have hmeets : Meets (w.Read g.connection fun _ => True)
      (Instance.ofRow (g.linker (g.loadWithin depth)) t r : Work σ Instance)
      (fun i _ => i.type = t ∧ ∃ s, i.slot? f.name = some s ∧ g.Resolves w r f s)
      (fun _ => True) := by
    unfold Instance.ofRow
    refine Meets.bind (Meets.mapM (P := w.Read g.connection fun _ => True)
      (C := fun (f : EntityField) (p : String × Slot Instance) =>
        p.1 = f.name ∧ g.Resolves w r f p.2)
      fun f _ => (meets_readSlot_resolves w f).bind fun s => .pure fun _ hs => ⟨⟨rfl, hs.1⟩, hs.2⟩)
        fun slots => .pure fun _ hslots => ⟨rfl, ?_⟩
    exact Instance.lookup_of_forall₂ hslots.1 ht.names hf
  exact hmeets.ok (.refl w) h

end Gateway

/-- What a field shows of the row that was found for it: nothing of none, and else the identifier
that is read from the row. -/
inductive EntityType.Identified (target : EntityType) : Option Row → Value → Prop
  | missing : Identified target none .null
  | found {k : EntityField} {a : FieldType} {row : Row} {id : Value}
    (hid : target.idField? = some k) (hk : target.HasColumn k a)
    (hread : row.read k.columnName a = .ok id) : Identified target (some row) id

/-- The value of a field is in the snapshot of an instance, and every UPDATE that is made after
changes of other fields binds it to the column. -/
structure Metadata.WritesBack (m : Metadata) (i : Instance) (field column : String)
    (shown : Value) : Prop where
  captured : (Snapshot.capture m i).valueOf? m field = some shown
  bound : ∀ (j : Instance) expected id plan, j.slot? field = i.slot? field →
    m.updateOf expected id j.fieldValue = .ok plan →
      ∃ u, RowUpdate.ofCommand? plan.command = some u ∧ (column, shown) ∈ u.assigned

namespace EntityType

variable {target : EntityType} {found : Option Row} {row : Row} {x y : Value}

theorem Identified.unique (hx : target.Identified (some row) x)
    (hy : target.Identified (some row) y) : x = y := by
  cases hx with
  | found hid hk hread =>
    cases hy with
    | found hid' hk' hread' =>
      obtain rfl := Option.some.inj (hid.symm.trans hid')
      obtain rfl := FieldRole.column.inj (hk.role.symm.trans hk'.role)
      exact Except.ok.inj (hread.symm.trans hread')

/-- A target that is built from what was found shows its identifier. -/
theorem identified_of_builds (htarget : target.Formed) {k : EntityField} {a : FieldType}
    (hid : target.idField? = some k) (hk : target.HasColumn k a) {o : Option Instance}
    (h : Gateway.Builds target found o) :
    target.Identified found ((o.map Instance.idValue).getD .null) := by
  cases found with
  | none =>
    cases o with
    | none => exact .missing
    | some i => cases h
  | some row =>
    cases o with
    | none => cases h
    | some i =>
      obtain ⟨hbuilt, -⟩ := List.forall₂_cons.mp h
      obtain ⟨v, hread, hslot⟩ := hbuilt.columns htarget.names k a hk
      have hvalue : i.idValue = v := by simp [Instance.idValue, hbuilt.type, hid, hslot, Slot.value?]
      exact .found hid hk (hread.trans (congrArg Except.ok hvalue.symm))

end EntityType

namespace Metadata

variable {t : EntityType} {f : EntityField} {m : Metadata} {schema : Schema} {i : Instance}
  {exclusive : Bool} {place : Nat} {join : String} {shown : Value}

theorem descriptor_of_reference (hrole : f.role = .reference exclusive place join) :
    ∃ d kind, f.descriptor? = some d ∧ d.name = f.name ∧ d.relation = some kind ∧
      d.joinColumn = some join := by
  unfold EntityField.descriptor?
  rw [hrole]
  exact ⟨_, _, rfl, rfl, rfl, rfl⟩

/-- An owning field is neither the identifier nor the version. -/
theorem unkeyed_of_reference (ht : t.Formed) (hf : f ∈ t.fields)
    (hrole : f.role = .reference exclusive place join)
    (hm : ofDescriptor schema t.descriptor = .ok m) :
    f.name ≠ m.id.field ∧ ∀ v ∈ m.version, f.name ≠ v.field := by
  have hne {g : EntityField} {a : FieldType} (hg : t.HasColumn g a) : f.name ≠ g.name := by
    intro hname
    obtain rfl := ht.eq_of_name hf hg.mem hname
    cases hrole.symm.trans hg.role
  constructor
  · obtain ⟨k, a, -, hk, hid⟩ := id_of_formed ht hm
    rw [hid]
    exact hne hk
  · intro v hv
    rcases version_of_formed ht hm with ⟨hnone, -⟩ | ⟨k, a, -, hk, -, hversion⟩
    · rw [hnone] at hv
      cases hv
    · obtain rfl := Option.some.inj (hversion.symm.trans hv)
      exact hne hk

theorem writesBack_of_reference (ht : t.Formed) (hf : f ∈ t.fields)
    (hrole : f.role = .reference exclusive place join)
    (hm : ofDescriptor schema t.descriptor = .ok m) (hshown : i.fieldValue f.name = some shown) :
    m.WritesBack i f.name join shown := by
  obtain ⟨d, kind, hd, hname, hr, hj⟩ := descriptor_of_reference hrole
  have hstored := mem_persistent_of_owning hm (mem_descriptor_fields hf hd) hr hj
  rw [hname] at hstored
  obtain ⟨hid, hversion⟩ := unkeyed_of_reference ht hf hrole hm
  constructor
  · have hcaptured := valueOf?_capture i hstored
    rw [hshown] at hcaptured
    exact hcaptured
  · intro j expected id plan hslot hplan
    obtain ⟨step, hstep, hu, -⟩ := ofCommand?_updateOf hplan
    have hwritten : (⟨f.name, join, true⟩ : PersistentField) ∈ m.updatable :=
      List.mem_filter.mpr ⟨hstored, bne_iff_ne.mpr hid⟩
    have hvalue : assignedValue step j.fieldValue ⟨f.name, join, true⟩ = shown := by
      have hsame : j.fieldValue f.name = some shown := by
        rw [← hshown, Instance.fieldValue, hslot, Instance.fieldValue]
      have hother : m.version.any (·.field == f.name) = false := by
        cases hv : m.version with
        | none => rfl
        | some v => exact beq_eq_false_iff_ne.mpr (hversion v hv).symm
      rw [assignedValue_of_versionStep hstep, hother, hsame]
      rfl
    exact ⟨_, hu, List.mem_map.mpr ⟨_, hwritten, by rw [hvalue]⟩⟩

end Metadata

namespace Gateway

variable {g : Gateway σ} {t target : EntityType} {r : Row} {i : Instance} {w v : Workspace σ}
  {f : EntityField} {exclusive : Bool} {place depth : Nat} {join : String}

/-- What a field shows is the value of the join column exactly if that is null, or it is the
identifier in the row that is found for it. -/
theorem LooksUp.kept_iff {held shown : Value} {found : Option Row}
    (h : g.LooksUp target w held found) (hshown : target.Identified found shown) :
    shown.identity = held.identity ↔ held.isNull = true ∨
      ∃ row ∈ found, ∃ id, target.Identified (some row) id ∧ id.identity = held.identity := by
  have hnull {v : Value} (hv : v.identity = .null) : v.isNull = true := by
    cases v <;> first | rfl | cases hv
  constructor
  · intro hkept
    cases found with
    | none =>
      cases hshown
      exact .inl (hnull hkept.symm)
    | some row => exact .inr ⟨row, rfl, shown, hshown, hkept⟩
  · rintro (hheld | ⟨row, rfl, id, hid, hkept⟩)
    -- A null is not looked for.
    · cases h with
      | unasked =>
        cases hshown
        cases held <;> first | rfl | cases hheld
      | asked hasked =>
        rw [hheld] at hasked
        cases hasked
    · rw [hshown.unique hid, hkept]

/-- An entity that is built from a row shows the identifier of the target that is found for its
join column, and null if none is found. That is the value of the join column if it is null or the
target has it as its identifier, and an UPDATE of other fields writes it back. -/
theorem reference_written_back (ht : t.Formed) (hf : f ∈ t.fields)
    (hrole : f.role = .reference exclusive place join)
    (hplace : g.catalogue[place]? = some target) (htarget : target.Formed) {k : EntityField}
    {a : FieldType} (hid : target.idField? = some k) (hk : target.HasColumn k a)
    (h : Instance.ofRow (g.linker (g.loadWithin depth)) t r w = (.ok i, v)) :
    ∃ held found shown, r.get? join = some held ∧ g.LooksUp target w held found ∧
      i.fieldValue f.name = some shown ∧ target.Identified found shown ∧
      (shown.identity = held.identity ↔ held.isNull = true ∨
        ∃ row ∈ found, ∃ id, target.Identified (some row) id ∧ id.identity = held.identity) ∧
      ∀ m, Metadata.ofDescriptor g.catalogue.schema t.descriptor = .ok m →
        m.WritesBack i f.name join shown := by
  obtain ⟨-, s, hslot, hs⟩ := resolves_of_ofRow ht hf h
  obtain ⟨held, found, o, hheld, hfound, hbuilds, rfl⟩ := hs _ _ _ _ hrole hplace
  have hshown : i.fieldValue f.name = some ((o.map Instance.idValue).getD .null) := by
    simp [Instance.fieldValue, hslot]
  have hidentified := EntityType.identified_of_builds htarget hid hk hbuilds
  exact ⟨held, found, _, hheld, hfound, hshown, hidentified, hfound.kept_iff hidentified,
    fun m hm => Metadata.writesBack_of_reference ht hf hrole hm hshown⟩

/-- Whatever row an entity is built from, and whatever the store has, a field shows the value of its
join column in the form that identifies entities. -/
def Restores (g : Gateway σ) (t : EntityType) (field join : String) : Prop :=
  ∀ (r : Row) (w : Workspace σ) i v, Instance.ofRow (g.linker g.load) t r w = (.ok i, v) →
    ∃ held shown, r.get? join = some held ∧ i.fieldValue field = some shown ∧
      shown.identity = held.identity

end Gateway

namespace SampleReferences

def gateway : Gateway Script :=
  ⟨Script.connection, SampleTypes.catalogue, false⟩

def five : Value :=
  .integer .big ⟨5, by decide⟩

/-- The row of a note whose join column has a given value. -/
def noteRow (held : Value) : Row :=
  .ofLists ["id", "title", "body", "person_id"]
    [.big 1 IntWidth.big.holds_one, .text "first", .null, held]

def personRow : List Value :=
  [five, .text "Ada", .text "Lovelace", five, .null]

/-- The store answers the next query with some persons. -/
def answering (persons : List (List Value)) : Workspace Script where
  store := Script.add {} { rows := some (["id", "fname", "last_name", "age", "male"], persons) }

def built (held : Value) (persons : List (List Value)) :
    Except Error Instance × Workspace Script :=
  Instance.ofRow (gateway.linker gateway.load) SampleTypes.note (noteRow held) (answering persons)

/-- A note shows the person that it refers to, and every UPDATE of it writes that back. -/
theorem reference_written_back_note : ∃ i v, built five [personRow] = (.ok i, v) ∧
    ∃ held found shown, (noteRow five).get? "person_id" = some held ∧
      gateway.LooksUp SampleTypes.person (answering [personRow]) held found ∧
      i.fieldValue "person" = some shown ∧ SampleTypes.person.Identified found shown ∧
      shown.identity = held.identity ∧
      ∀ m, Metadata.ofDescriptor gateway.catalogue.schema SampleTypes.note.descriptor = .ok m →
        m.WritesBack i "person" "person_id" shown := by
  have hperson : SampleTypes.reference "person" 0 "person_id" ∈ SampleTypes.note.fields := by decide
  have hid : SampleTypes.person.HasColumn SampleTypes.madeId (.optional (.integer .big)) :=
    ⟨by decide, rfl⟩
  obtain ⟨held, found, shown, hheld, hfound, hshown, hidentified, -, hback⟩ :=
    Gateway.reference_written_back ⟨by decide, by decide⟩ hperson rfl rfl ⟨by decide, by decide⟩
      rfl hid (rfl : built five [personRow] = (.ok _, _))
  refine ⟨_, _, rfl, held, found, shown, hheld, hfound, hshown, hidentified, ?_, hback⟩
  obtain rfl : five = held := Option.some.inj hheld
  obtain rfl : five = shown := Option.some.inj hshown
  rfl

/-- If the person is not there, the note shows null, and an UPDATE of its title clears the join
column. A person that is found by another form of its identifier is shown by its own form. -/
theorem reference_not_restored :
    (∃ i v m j plan u, built five [] = (.ok i, v) ∧ i.setValue "title" (.text "second") = .ok j ∧
      Metadata.ofDescriptor gateway.catalogue.schema SampleTypes.note.descriptor = .ok m ∧
      m.updateOf none (.big 1 IntWidth.big.holds_one) j.fieldValue = .ok plan ∧
      RowUpdate.ofCommand? plan.command = some u ∧
      (u.assigned.map fun a => (a.1, a.2.toText)) =
        [("body", "NULL"), ("person_id", "NULL"), ("title", "'second'")]) ∧
      (∃ i v, built (.text "5") [personRow] = (.ok i, v) ∧ i.fieldValue "person" = some five) ∧
      ¬ gateway.Restores SampleTypes.note "person" "person_id" := by
  refine ⟨⟨_, _, _, _, _, _, rfl, rfl, rfl, rfl, rfl, by decide +kernel⟩, ⟨_, _, rfl, rfl⟩,
    fun hall => ?_⟩
  obtain ⟨held, shown, hheld, hshown, hsame⟩ := hall (noteRow five) (answering []) _ _ rfl
  obtain rfl : five = held := Option.some.inj hheld
  obtain rfl : .null = shown := Option.some.inj hshown
  cases hsame

end SampleReferences

end EntityMapper
