import EntityMapper.Proofs.Entity.Validity
import EntityMapper.Proofs.Store.Fetching
import EntityMapper.Scenario.Catalogue
import EntityMapper.Store.Scripted
import Mathlib.Logic.Relation
/-! Collections: the field that owns a collection is stored in a column of its target, so that the
list is always found by one query. What follows it is only what the rows lead to. -/

namespace EntityMapper

variable {σ : Type}

namespace FieldDescriptor.OwnedBy

variable {schema : Schema} {owner target : EntityDescriptor} {f h : FieldDescriptor}

theorem mem (hf : f.OwnedBy schema owner target h) : h ∈ target.fields := by
  cases hf with
  | named _ hfields | only _ hfields =>
    rw [hfields]
    exact List.mem_append_right _ List.mem_cons_self

theorem refersTo (hf : f.OwnedBy schema owner target h) : h.RefersTo schema owner := by
  cases hf with
  | named _ _ _ _ hrefers => exact hrefers
  | only _ _ hrefers => exact hrefers

end FieldDescriptor.OwnedBy

namespace Metadata

variable {schema : Schema} {d : EntityDescriptor} {f : FieldDescriptor} {m mt : Metadata}
  {join : String}

/-- Where fields differ in their names, a search by an owning field compares its join column. -/
theorem filterColumn?_of_owning (hm : ofDescriptor schema d = .ok m)
    (hnames : (d.fields.map (·.name)).Nodup) (hf : f ∈ d.fields) {kind : RelationKind}
    (hr : f.relation = some kind) (hj : f.joinColumn = some join) :
    m.filterColumn? f.name = some join := by
  obtain ⟨p, hp⟩ : ∃ p, m.persistent.find? (·.field == f.name) = some p := by
    rw [← Option.isSome_iff_exists, List.find?_isSome]
    exact ⟨_, mem_persistent_of_owning hm hf hr hj, beq_self_eq_true f.name⟩
  have hname : p.field = f.name := by simpa using List.find?_some hp
  obtain ⟨h, hh, hhname, hplain | hjoin⟩ :=
    exists_of_mem_persistent hm (List.mem_of_find?_eq_some hp)
  all_goals
    obtain rfl : h = f := List.inj_on_of_nodup_map hnames hh hf (hhname.trans hname)
  · rw [hr] at hplain
    cases hplain.1
  · rw [filterColumn?, hp, Option.map_some, Option.some.inj (hjoin.symm.trans hj)]

/-- The field that a collection names is an owning field of the target that refers back, and a
search by it compares its join column. -/
theorem exists_owning {c : CollectionMapping} (hm : ofDescriptor schema d = .ok m)
    (hc : c ∈ m.collections) (hmt : ofDescriptor schema c.target = .ok mt)
    (hnames : (c.target.fields.map (·.name)).Nodup) :
    ∃ f ∈ c.target.fields, ∃ join, f.name = c.mappedBy ∧ f.RefersTo schema d ∧
      f.joinColumn = some join ∧ mt.filterColumn? c.mappedBy = some join := by
  obtain ⟨f, -, -, howning⟩ := exists_of_mem_collections hm hc
  obtain ⟨h, howned, hname⟩ | ⟨fault, -, hfault⟩ := owningField_cases schema d f c.target
  · obtain ⟨kind, -, hr, howner, -⟩ := howned.refersTo
    obtain ⟨id, version, fields, -, hfields, -⟩ := ofDescriptor_parts hmt
    obtain ⟨x, -, hx⟩ := exists_of_mapM hfields h howned.mem
    obtain ⟨join, hj⟩ :=
      Option.isSome_iff_exists.mp ((proper_of_mapField hx).1.owning kind hr howner)
    obtain hmapped : h.name = c.mappedBy := Except.ok.inj (hname.symm.trans howning)
    exact ⟨h, howned.mem, join, hmapped, howned.refersTo, hj,
      hmapped ▸ filterColumn?_of_owning hmt hnames howned.mem hr hj⟩
  · rw [howning] at hfault
    cases hfault

end Metadata

namespace Gateway

variable {g : Gateway σ} {target : EntityType}

/-- Owning fields of some rows of a type lead to another type, directly or through others. -/
def Reaches (g : Gateway σ) (t : EntityType) (rows : List Row) (u : EntityType) : Prop :=
  ∃ r ∈ rows, ∃ first, g.Leads t r first ∧ Relation.ReflTransGen g.Refers first u

theorem Reaches.mem {t u : EntityType} {rows : List Row} (h : g.Reaches t rows u) :
    u ∈ g.catalogue := by
  obtain ⟨r, -, first, hleads, hchain⟩ := h
  cases hchain with
  | refl => exact hleads.refers.mem
  | tail _ hlast => exact hlast.mem

/-- The search for the entities of a type sends a command, and then asks for nothing but single
entities that the rows of the answer lead to. It fails with a fault in a mapping only if one of
these has none or the store has answered so. -/
def Opens (g : Gateway σ) (target : EntityType) (c : Command) (w : Workspace σ)
    (r : Except Error (List Instance)) (v : Workspace σ) : Prop :=
  ∃ answer rest, answer = (g.connection.query c w.store).1 ∧
    v.transcript = w.transcript ++ .query c answer :: rest ∧
    (∀ x ∈ rest, ∃ rows u, answer = .ok rows ∧ g.Reaches target rows u ∧ g.AsksFor u x) ∧
    ∀ e, r = .error e → e.IsMapping →
      (∃ x ∈ .query c answer :: rest, x.FailsInMapping) ∨
        ∃ rows u, answer = .ok rows ∧ g.Reaches target rows u ∧ g.Unmapped u

/-- What rows are built into asks only for what the rows lead to. -/
theorem fetches_found (hpaths : g.PathsDiffer) (htarget : target ∈ g.catalogue) {mt : Metadata}
    (hmt : Metadata.ofDescriptor g.catalogue.schema target.descriptor = .ok mt) (rows : List Row) :
    Work.Fetches g (g.Reaches target rows) (hydrate (g.linker g.load) target rows)
      fun _ => True := by
  refine fetches_hydrate hpaths htarget hmt fun r hr u hu id => ?_
  refine fetches_loadWithin hpaths (fun _ h => h.mem) ?_ _ ⟨r, hr, u, hu, .refl⟩ id
  rintro u v ⟨r, hr, first, hleads, hchain⟩ hlast
  exact ⟨r, hr, first, hleads, hchain.tail hlast⟩

/-- A search by a field with a column sends one query, and follows the rows that it gives. -/
theorem opens_findAllBy (hpaths : g.PathsDiffer) (htarget : target ∈ g.catalogue) {mt : Metadata}
    (hmt : Metadata.ofDescriptor g.catalogue.schema target.descriptor = .ok mt)
    {field column : String} (hcolumn : mt.filterColumn? field = some column) (id : Value)
    {w : Workspace σ} (hw : w.Derives g) :
    g.Opens target ⟨.select mt.table column, [id]⟩ w (g.findAllBy target field id w).1
      (g.findAllBy target field id w).2 := by
  obtain ⟨j, hrun, hderives⟩ := resolve_of_derives hpaths htarget hw
  rw [findAllBy, bind_apply, hrun, hmt]
  simp only [hcolumn]
  rw [select, bind_apply, query_apply]
  cases hanswer : (g.connection.query ⟨mt.selectBy column, [id]⟩ w.store).1 with
  | error e =>
    refine ⟨_, [], hanswer.symm, rfl, by simp, ?_⟩
    rintro e' ⟨⟩ hmapping
    exact .inl ⟨_, List.mem_cons_self, _, e, rfl, Error.isMapping_of_withSql hmapping⟩
  | ok rows =>
    obtain ⟨hfetched, -⟩ := fetches_found hpaths htarget hmt rows
      ((g.announced { w with journal := j }).exchanged
        (.query ⟨mt.selectBy column, [id]⟩ (.ok rows))
        (g.connection.query ⟨mt.selectBy column, [id]⟩ w.store).2) hderives
    obtain ⟨rest, hrest, hall, hfails⟩ := hfetched.told
    refine ⟨.ok rows, rest, hanswer.symm, ?_, fun x hx => ?_, fun e he hmapping => ?_⟩
    · rw [Workspace.transcript_exchanged, List.append_assoc] at hrest
      exact hrest
    · obtain ⟨u, hu, hasks⟩ := hall x hx
      exact ⟨rows, u, rfl, hu, hasks⟩
    · rcases hfails e he hmapping with ⟨u, hu, hunmapped⟩ | ⟨x, hx, hanswered⟩
      · exact .inr ⟨rows, u, rfl, hu, hunmapped⟩
      · exact .inl ⟨x, List.mem_cons_of_mem _ hx, hanswered⟩

/-- A list that waits is filled by its search. -/
theorem force_pending {n : Nat} {s : CollectionSearch} {w : Workspace σ}
    (hs : w.list n = .pending s) :
    (g.force (some n) w).1 = (g.findAllBy s.target s.mappedBy s.owner
        (w.note .debug "Loading lazy collection")).1 ∧
      (g.force (some n) w).2.transcript = (g.findAllBy s.target s.mappedBy s.owner
        (w.note .debug "Loading lazy collection")).2.transcript := by
  have hforce : g.force (some n) w = (((w.list n).force g.runSearch w).1.1,
      { ((w.list n).force g.runSearch w).2 with
        lists := ((w.list n).force g.runSearch w).2.lists.set n
          ((w.list n).force g.runSearch w).1.2 }) := rfl
  rw [hforce, hs, LazyCell.force, state_bind_apply, runSearch, state_bind_apply,
    state_modify_apply, state_bind_apply, run_apply]
  rcases g.findAllBy s.target s.mappedBy s.owner (w.note .debug "Loading lazy collection") with
    ⟨e | is, v⟩
  · exact ⟨rfl, rfl⟩
  · exact ⟨rfl, rfl⟩

/-- For every collection of a type that has a mapping, with a target that has one too, the list of
an owner is made at once. Without identifier of the owner it is empty. Else it waits for the first
access, which asks for the rows of the target that hold the identifier in the join column of a
field that refers back, and then only for what these rows lead to. -/
theorem collection_loads (hpaths : g.PathsDiffer) {owner : EntityType}
    (howner : owner ∈ g.catalogue) (htarget : target ∈ g.catalogue) {m mt : Metadata}
    (hm : Metadata.ofDescriptor g.catalogue.schema owner.descriptor = .ok m)
    (hmt : Metadata.ofDescriptor g.catalogue.schema target.descriptor = .ok mt)
    (hnames : (target.descriptor.fields.map (·.name)).Nodup) {field : String}
    {c : CollectionMapping} (hc : m.collection? field = some c)
    (hct : c.target = target.descriptor) (id : Value) {w : Workspace σ} (hw : w.Derives g) :
    ∃ k v, g.collection owner field target id w = (.ok k, v) ∧ v.Derives g ∧
      v.transcript = w.transcript ∧ v.store = w.store ∧
      (id.isNull = true → k = none ∧ v.listOf k = .loaded []) ∧
      (id.isNull = false → ∃ n f join, k = some n ∧ (v.list n).isLoaded = false ∧
        f ∈ target.descriptor.fields ∧ f.name = c.mappedBy ∧
        f.RefersTo g.catalogue.schema owner.descriptor ∧ f.joinColumn = some join ∧
        (Statement.select mt.table join).text =
          "select * from " ++ mt.table ++ " where " ++ join ++ " = ?" ∧
        ∀ u : Workspace σ, u.Derives g → u.list n = v.list n →
          g.Opens target ⟨.select mt.table join, [id]⟩ u (g.force k u).1 (g.force k u).2) := by
  obtain ⟨j, hderives, hrun⟩ := collection_apply hpaths howner hm hc target id hw
  rw [hrun]
  cases hnull : id.isNull with
  | true => exact ⟨none, _, rfl, hderives, rfl, rfl, fun _ => ⟨rfl, rfl⟩, nofun⟩
  | false =>
    obtain ⟨f, hf, join, hname, hrefers, hjoin, hcolumn⟩ := Metadata.exists_owning hm
      (List.mem_of_find?_eq_some hc) (hct ▸ hmt) (hct ▸ hnames)
    refine ⟨some w.lists.length, _, rfl, hderives, rfl, rfl, nofun, fun _ => ?_⟩
    have hlist : Workspace.list (σ := σ) { w with
        journal := j, lists := w.lists ++ [.pending ⟨field, target, c.mappedBy, id⟩] }
        w.lists.length = .pending ⟨field, target, c.mappedBy, id⟩ := by
      simp [Workspace.list]
    refine ⟨_, f, join, rfl, by rw [hlist]; rfl, hct ▸ hf, hname, hrefers, hjoin, rfl,
      fun u hu hsame => ?_⟩
    obtain ⟨hanswer, htranscript⟩ := force_pending (g := g) (hsame.trans hlist)
    have hopens : g.Opens target ⟨.select mt.table join, [id]⟩
        (u.note .debug "Loading lazy collection") _ _ :=
      opens_findAllBy hpaths htarget hmt hcolumn id hu
    simp only [Opens] at hopens ⊢
    rw [hanswer, htranscript]
    exact hopens

/-- A first access sends one query and no more, and fails with no fault in a mapping. -/
def OpensAlone (w : Workspace σ) (r : Except Error (List Instance)) (v : Workspace σ) : Prop :=
  (∃ c answer, v.transcript = w.transcript ++ [.query c answer]) ∧
    ∀ e, r = .error e → ¬ e.IsMapping

/-- If no row of the answer refers to another entity, the access sends nothing but its query. -/
theorem Opens.opensAlone {c : Command} {w v : Workspace σ} {r : Except Error (List Instance)}
    (h : g.Opens target c w r v)
    (hfound : ∀ rows, (g.connection.query c w.store).1 = .ok rows →
      ∀ row ∈ rows, ∀ u, ¬ g.Leads target row u)
    (hanswer : ∀ e, (g.connection.query c w.store).1 = .error e → ¬ e.IsMapping) :
    OpensAlone w r v := by
  obtain ⟨answer, rest, rfl, htranscript, hrest, hfails⟩ := h
  have hnone {rows : List Row} {u : EntityType}
      (hrows : (g.connection.query c w.store).1 = .ok rows) : ¬ g.Reaches target rows u := by
    rintro ⟨row, hrow, first, hleads, -⟩
    exact hfound rows hrows row hrow first hleads
  have hempty : rest = [] := by
    refine List.eq_nil_iff_forall_not_mem.mpr fun x hx => ?_
    obtain ⟨rows, u, hrows, hreaches, -⟩ := hrest x hx
    exact hnone hrows hreaches
  subst hempty
  refine ⟨⟨c, _, htranscript⟩, fun e he hmapping => ?_⟩
  obtain ⟨x, hx, c', e', rfl, he'⟩ | ⟨rows, u, hrows, hreaches, -⟩ := hfails e he hmapping
  · obtain ⟨-, hanswered⟩ := Exchange.query.inj (List.mem_singleton.mp hx)
    exact hanswer e' hanswered.symm he'
  · exact hnone hrows hreaches

end Gateway

namespace SampleLists

open SampleTypes

def one : Value :=
  .big 1 IntWidth.big.holds_one

/-- Persons with their notes. -/
def persons : Gateway Script :=
  ⟨Script.connection, [person, note], false⟩

def noted : Workspace Script where
  store := ⟨[{ rows := some (["id", "title", "body", "person_id"],
      [[one, .text "first", .null, one]]) },
    { rows := some (["id", "fname", "last_name", "age", "male"],
      [[one, .text "Ada", .text "L", one, .null]]) }], 1⟩

/-- The list of notes of a person is made at once and found by one query, whatever follows it. -/
theorem collection_loads_notes : ∃ v,
    persons.collection person "notes" note one noted = (.ok (some 0), v) ∧
      (v.list 0).isLoaded = false ∧ v.transcript = [] ∧
      persons.Opens note ⟨.select "notes" "person_id", [one]⟩ v (persons.force (some 0) v).1
        (persons.force (some 0) v).2 := by
  have hderives : noted.Derives persons := fun _ _ _ h => by cases h
  obtain ⟨k, v, hrun, hkept, htranscript, -, -, hwaits⟩ :=
    Gateway.collection_loads (by decide) (by decide : person ∈ persons.catalogue)
      (by decide : note ∈ persons.catalogue) rfl rfl (by decide)
      (rfl : Metadata.collection? _ "notes" = some _) rfl one hderives
  obtain ⟨n, f, join, rfl, hwaiting, hf, hname, -, hjoin, -, hopens⟩ := hwaits rfl
  obtain rfl : 0 = n := Option.some.inj (Except.ok.inj (Prod.mk.inj hrun).1)
  have hjoins : ∀ f ∈ note.descriptor.fields, f.name = "person" →
      f.joinColumn = some "person_id" := by decide
  obtain rfl := Option.some.inj ((hjoins f hf hname).symm.trans hjoin)
  exact ⟨v, hrun, hwaiting, htranscript, hopens v hkept rfl⟩

/-- Shelves with books, whose authors have no identifier. -/
def shelf : EntityType where
  path := "Shelf"
  name := "Shelf"
  fields := [madeId, collection "books" 1]

def book : EntityType where
  path := "Book"
  name := "Book"
  fields := [madeId, reference "shelf" 0 "shelf_id", reference "author" 2 "author_id"]

def author : EntityType where
  path := "Author"
  name := "Author"
  fields := [column "name" (.required .text)]

def shelves : Gateway Script :=
  ⟨Script.connection, [shelf, book, author], false⟩

def shelved : Workspace Script where
  store := ⟨[{ rows := some (["id", "shelf_id", "author_id"], [[one, one, one]]) },
    { rows := some (["id"], [[one]]) }], 1⟩

/-- The first access to a list makes more than one query if the rows that it finds refer to others,
and it fails with a fault in a mapping if they refer to a type that has none. -/
theorem not_opensAlone :
    (∃ m mt c v, Metadata.ofDescriptor persons.catalogue.schema person.descriptor = .ok m ∧
      Metadata.ofDescriptor persons.catalogue.schema note.descriptor = .ok mt ∧
      (note.descriptor.fields.map (·.name)).Nodup ∧ m.collection? "notes" = some c ∧
      c.target = note.descriptor ∧
      persons.collection person "notes" note one noted = (.ok (some 0), v) ∧
      (persons.force (some 0) v).2.transcript.map (·.command.statement.text) =
        ["select * from notes where person_id = ?", "select * from persons where id = ?"] ∧
      ¬ Gateway.OpensAlone v (persons.force (some 0) v).1 (persons.force (some 0) v).2) ∧
    ∃ m mt c v e, Metadata.ofDescriptor shelves.catalogue.schema shelf.descriptor = .ok m ∧
      Metadata.ofDescriptor shelves.catalogue.schema book.descriptor = .ok mt ∧
      (book.descriptor.fields.map (·.name)).Nodup ∧ m.collection? "books" = some c ∧
      c.target = book.descriptor ∧
      shelves.collection shelf "books" book one shelved = (.ok (some 0), v) ∧
      (shelves.force (some 0) v).1 = .error e ∧ e.IsMapping ∧
      ¬ Gateway.OpensAlone v (shelves.force (some 0) v).1 (shelves.force (some 0) v).2 := by
  refine ⟨⟨_, _, _, _, rfl, rfl, by decide, rfl, rfl, rfl, rfl, ?_⟩,
    ⟨_, _, _, _, _, rfl, rfl, by decide, rfl, rfl, rfl, rfl, trivial, ?_⟩⟩
  · rintro ⟨⟨c, answer, hone⟩, -⟩
    have htwo := congrArg List.length hone
    cases htwo
  · rintro ⟨-, hnever⟩
    exact hnever _ rfl trivial

end SampleLists

end EntityMapper
