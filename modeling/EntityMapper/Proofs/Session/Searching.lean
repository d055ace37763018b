import EntityMapper.Proofs.Query.Growth
import EntityMapper.Proofs.Session.Queueing
import EntityMapper.Proofs.Store.Loading
import EntityMapper.Session.Search
/-! The operations of a session that give out instances, as moves with an event for each of them. -/

namespace EntityMapper

variable {σ : Type}

theorem Work.Steady.resolving {α : Type} {x : Resolving α} (hx : x.Steady) :
    Work.Steady (.resolving x : Work σ α) := by
  intro w
  have hj := hx w.journal w.journal (.refl _)
  refine .of_heap ?_ rfl
  unfold Work.resolving
  rw [run_apply]
  rcases hr : x w.journal with ⟨e | v, k⟩ <;> rw [hr] at hj <;> exact hj

/-- Instances that are given out, each for its key. -/
def SessionEvent.given (ks : List EntityKey) (hs : List Handle) : List SessionEvent :=
  (ks.zip hs).map fun p => .returned p.1 p.2

namespace Session

open Operation

variable (g : Gateway σ) {s : SessionState σ}

theorem find?_of_handle? {m : IdentityMap} {heap : Heap} {t : EntityType} {k : EntityKey}
    {h : Handle} (hh : m.handle? heap t k = some h) : ∃ e, m.find? k = some e ∧ e.handle = h := by
  unfold IdentityMap.handle? at hh
  obtain ⟨hmap, -⟩ := Option.filter_eq_some_iff.mp hh
  exact Option.map_eq_some_iff.mp hmap

/-- A key under which no instance of its type is found is not known. -/
theorem not_contains_of_handle? (hs : s.Valid) {t : EntityType} {k : EntityKey}
    (hk : k.path? = some t.path) (hh : s.session.map.handle? s.space.heap t k = none) :
    s.session.map.contains k = false := by
  cases hf : s.session.map.find? k with
  | none => simp [Assoc.contains, hf]
  | some e =>
    have hsound := hs.sound_of_find? hf
    have hkey := EntityKey.path?_eq_of_beq (hs.coherent.key_of_find? hf)
    have htype : (s.space.heap.get e.handle).isA t = true := by
      rw [hsound.path, hk] at hkey
      simpa [Instance.isA] using hkey
    simp [IdentityMap.handle?, hf, htype] at hh

/-- The known instance is given out. -/
theorem manage_known {i : Instance} {h : Handle}
    (hh : s.session.map.handle? s.space.heap i.type (.ofInstance i) = some h) :
    manage g i s = (.ok h, s) := by
  simp [manage, IdentityMap.getOrPut, hh]

/-- What was not known is kept with a snapshot of it. -/
theorem manage_unknown {i : Instance} {m : Metadata}
    (hh : s.session.map.handle? s.space.heap i.type (.ofInstance i) = none)
    (hm : s.space.journal.registry.find? i.type.path = some m) :
    manage g i s = (.ok s.space.heap.next,
      ⟨s.session.keep ⟨.ofInstance i, s.space.heap.next⟩ (.capture m i),
        { s.space with heap := s.space.heap.push i }⟩) := by
  have hres : g.resolve i.type { s.space with heap := s.space.heap.push i } =
      (.ok m, { s.space with heap := s.space.heap.push i }) := resolve_of_find? g hm
  simp [manage, IdentityMap.getOrPut, hh, Work.share, Except.map, hres, keep]

/-- What was loaded is known already, or it is kept with a snapshot of it. -/
theorem manage_cases (hs : s.Valid) {i : Instance} {m : Metadata}
    (hm : s.space.journal.registry.find? i.type.path = some m) :
    (∃ e, s.session.map.find? (.ofInstance i) = some e ∧ manage g i s = (.ok e.handle, s)) ∨
      s.session.map.contains (.ofInstance i) = false ∧
        manage g i s = (.ok s.space.heap.next,
          ⟨s.session.keep ⟨.ofInstance i, s.space.heap.next⟩ (.capture m i),
            { s.space with heap := s.space.heap.push i }⟩) := by
  cases hh : s.session.map.handle? s.space.heap i.type (.ofInstance i) with
  | some h =>
    obtain ⟨e, hf, rfl⟩ := find?_of_handle? hh
    exact .inl ⟨e, hf, manage_known g hh⟩
  | none =>
    exact .inr ⟨not_contains_of_handle? hs (k := .ofInstance i) rfl hh, manage_unknown g hh hm⟩

/-- What was loaded is known afterwards, and the instance of its key is given out. -/
theorem manage_apply (hs : s.Valid) (ho : s.session.closed = false) {i : Instance}
    (hi : ∃ m, s.space.journal.registry.find? i.type.path = some m) :
    ∃ h t, manage g i s = (.ok h, t) ∧ Move s [.returned (.ofInstance i) h] t ∧
      t.session.closed = false ∧ s.space.Grows t.space := by
  obtain ⟨m, hm⟩ := hi
  rcases manage_cases g hs hm with ⟨e, hf, hrun⟩ | ⟨hnew, hrun⟩
  · exact ⟨e.handle, s, hrun, .hit hf, ho, .refl _⟩
  · have hg := Workspace.Grows.push s.space i
    exact ⟨_, _, hrun, .adopt (.capture m i) ho hg (.push _ i) hnew, ho, hg⟩

theorem manageAll_apply (hs : s.Valid) (ho : s.session.closed = false) {is : List Instance}
    (hi : ∀ i ∈ is, ∃ m, s.space.journal.registry.find? i.type.path = some m) :
    ∃ hs t, manageAll g is s = (.ok hs, t) ∧ hs.length = is.length ∧
      Moves s (SessionEvent.given (is.map .ofInstance) hs) t ∧ t.session.closed = false := by
  induction is generalizing s with
  | nil => exact ⟨[], s, rfl, rfl, .refl, ho⟩
  | cons i is ih =>
    obtain ⟨h, t, hrun, hmove, htc, hg⟩ := manage_apply g hs ho (hi i List.mem_cons_self)
    obtain ⟨rest, u, hrest, hlen, hmoves, huc⟩ := ih (hmove.valid hs) htc fun j hj => by
      obtain ⟨m, hm⟩ := hi j (List.mem_cons_of_mem i hj)
      exact ⟨m, hg.journal _ _ hm⟩
    refine ⟨h :: rest, u, ?_, congrArg (· + 1) hlen, ?_, huc⟩
    · unfold manageAll at hrest ⊢
      rw [List.mapM_cons, bind_apply, hrun]
      dsimp only
      rw [bind_apply, hrest]
      rfl
    · exact (Moves.one hmove).trans hmoves

/-- The keys of the instances that work would load now. -/
def keysLoaded (x : Work σ (List Instance)) (s : SessionState σ) : List EntityKey :=
  ((x s.space).1.toOption.getD []).map .ofInstance

/-- From one state an operation, with its result and the state after it, gives out instances for
some of the keys, in their order, and changes nothing else. -/
structure Gives (s : SessionState σ) (ks : List EntityKey)
    (run : Except Error (List Handle) × SessionState σ) : Prop where
  moves : Moves s (SessionEvent.given ks (run.1.toOption.getD [])) run.2
  length : (run.1.toOption.getD []).length ≤ ks.length

/-- What is loaded is given out, all of it. -/
theorem gives_search (hs : s.Valid) (ho : s.session.closed = false) {t : EntityType}
    {x : Work σ (List Instance)} (hx : Gateway.Loads t x) :
    Gives s (keysLoaded x s) ((ofWork x >>= manageAll g) s) := by
  have hload := hx s.space s.space (.refl _)
  unfold keysLoaded
  rw [bind_apply, ofWork_apply]
  rcases hr : x s.space with ⟨e | is, w⟩ <;> rw [hr] at hload
  · exact ⟨.one (.work hload), Nat.le_refl _⟩
  · obtain ⟨hg, ⟨m, hm⟩, htype⟩ := hload
    have hmove : Move s [] { s with space := w } := .work hg
    obtain ⟨hs', t, hrun, hlen, hmoves, -⟩ := manageAll_apply g (hmove.valid hs) ho
      fun i hi => ⟨m, by rw [htype i hi]; exact hm⟩
    dsimp only
    rw [hrun]
    refine ⟨(Moves.one hmove).trans hmoves, ?_⟩
    simp [Except.toOption, hlen]

theorem toList_manageOption (x : Work σ (Option Instance)) :
    Option.toList <$> (ofWork x >>= manageOption g) =
      ofWork (Option.toList <$> x) >>= manageAll g := by
  funext s
  rw [map_apply, bind_apply, bind_apply, ofWork_apply, ofWork_apply, map_apply]
  rcases x s.space with ⟨e | o, w⟩
  · rfl
  · cases o with
    | none => rfl
    | some i =>
      simp only [manageOption, manageAll, Except.map, Option.toList, List.mapM_cons, List.mapM_nil,
        map_apply, bind_apply]
      rcases manage g i _ with ⟨e | h, t⟩ <;> rfl

theorem gives_findAllBy (hs : s.Valid) (ho : s.session.closed = false) (t : EntityType)
    (field : String) (v : Value) :
    Gives s (keysLoaded (g.findAllBy t field v) s) (findAllBy g t field v s) := by
  unfold findAllBy
  rw [bind_of_open ho]
  exact gives_search g hs ho (g.loads_findAllBy t field v)

theorem gives_nativeAll (hs : s.Valid) (ho : s.session.closed = false) (t : EntityType)
    (sql : String) (params : List Value) :
    Gives s (keysLoaded (g.nativeAll t sql params) s) (nativeAll g t sql params s) := by
  unfold nativeAll
  rw [bind_of_open ho]
  exact gives_search g hs ho (g.loads_nativeAll t sql params)

theorem toList_bind_of_open (ho : s.session.closed = false)
    (f : Unit → Operation σ (Option Handle)) :
    (Option.toList <$> (ensureOpen >>= f)) s = (Option.toList <$> f ()) s := by
  rw [map_apply, map_apply, bind_of_open ho]

theorem gives_findBy (hs : s.Valid) (ho : s.session.closed = false) (t : EntityType)
    (field : String) (v : Value) :
    Gives s (keysLoaded (Option.toList <$> g.findBy t field v) s)
      ((Option.toList <$> findBy g t field v) s) := by
  unfold findBy
  rw [toList_bind_of_open ho, toList_manageOption]
  exact gives_search g hs ho (g.loads_findBy t field v)

theorem gives_nativeBy (hs : s.Valid) (ho : s.session.closed = false) (t : EntityType)
    (sql : String) (params : List Value) :
    Gives s (keysLoaded (Option.toList <$> g.nativeBy t sql params) s)
      ((Option.toList <$> nativeBy g t sql params) s) := by
  unfold nativeBy
  rw [toList_bind_of_open ho, toList_manageOption]
  exact gives_search g hs ho (g.loads_nativeBy t sql params)

section Known

variable {t : EntityType} {id : Value} {i : Instance} {h : Handle}

theorem findById_known (ho : s.session.closed = false)
    (hh : s.session.map.handle? s.space.heap t (.of t id) = some h) :
    findById g t id s =
      (.ok (some h), { s with space := s.space.note .trace "Identity map hit" }) := by
  unfold findById
  rw [bind_of_open ho]
  simp [hh, Except.map]

theorem findById_unknown (ho : s.session.closed = false)
    (hh : s.session.map.handle? s.space.heap t (.of t id) = none) :
    findById g t id s = (ofWork (g.load t id.identity) >>= manageOption g) s := by
  unfold findById
  rw [bind_of_open ho]
  simp [hh]
  rfl

theorem merge_known (ho : s.session.closed = false)
    (hh : s.session.map.handle? s.space.heap i.type (.ofInstance i) = some h) :
    merge g i s = (.ok (some h), s) := by
  unfold merge
  rw [bind_of_open ho]
  simp [hh]

section Loading

variable (ho : s.session.closed = false)
  (hh : s.session.map.handle? s.space.heap i.type (.ofInstance i) = none) {w : Workspace σ}

include ho hh

theorem merge_of_error {e : Error}
    (hr : g.load i.type (EntityKey.ofInstance i).id s.space = (.error e, w)) :
    merge g i s = (.error e, { s with space := w }) := by
  unfold merge
  rw [bind_of_open ho]
  simp [hh, hr]

theorem merge_of_none
    (hr : g.load i.type (EntityKey.ofInstance i).id s.space = (.ok none, w)) :
    merge g i s = (.ok none, { s with space := w.note .debug "Merge target not found" }) := by
  unfold merge
  rw [bind_of_open ho]
  simp [hh, hr, Except.map]

/-- An instance whose row was loaded is known from then on, with a snapshot of the row. -/
theorem merge_of_some {loaded : Instance} {m : Metadata}
    (hr : g.load i.type (EntityKey.ofInstance i).id s.space = (.ok (some loaded), w))
    (hm : w.journal.registry.find? i.type.path = some m) :
    merge g i s = (.ok (some w.heap.next),
      ⟨s.session.keep ⟨.ofInstance i, w.heap.next⟩ (.capture m loaded),
        { w with heap := w.heap.push i }⟩) := by
  unfold merge
  rw [bind_of_open ho]
  simp [hh, hr, resolve_of_find? g hm, Work.share, Except.map, keep]

end Loading

end Known

theorem gives_findById (hs : s.Valid) (ho : s.session.closed = false) (t : EntityType)
    (id : Value) :
    Gives s (match s.session.map.handle? s.space.heap t (.of t id) with
        | some _ => [.of t id]
        | none => keysLoaded (Option.toList <$> g.load t id.identity) s)
      ((Option.toList <$> findById g t id) s) := by
  cases hh : s.session.map.handle? s.space.heap t (.of t id) with
  | some h =>
    obtain ⟨e, hf, rfl⟩ := find?_of_handle? hh
    rw [map_apply, findById_known g ho hh]
    refine ⟨?_, Nat.le_refl 1⟩
    exact (Moves.one (.hit hf)).tail (.work (grows_note _ _ _))
  | none =>
    rw [map_apply, findById_unknown g ho hh, ← map_apply, toList_manageOption]
    exact gives_search g hs ho (g.loads_load t _)

/-- An instance from outside is shared only when its row is there and its key is not known. -/
theorem gives_merge (hs : s.Valid) (ho : s.session.closed = false) (i : Instance) :
    Gives s [.ofInstance i] ((Option.toList <$> merge g i) s) := by
  rw [map_apply]
  cases hh : s.session.map.handle? s.space.heap i.type (.ofInstance i) with
  | some h =>
    obtain ⟨e, hf, rfl⟩ := find?_of_handle? hh
    rw [merge_known g ho hh]
    exact ⟨.one (.hit hf), Nat.le_refl 1⟩
  | none =>
    have hload := g.loads_load i.type (EntityKey.ofInstance i).id s.space s.space (.refl _)
    rw [map_apply] at hload
    have hnew := not_contains_of_handle? hs (k := .ofInstance i) rfl hh
    rcases hr : g.load i.type (EntityKey.ofInstance i).id s.space with ⟨e | o, w⟩ <;>
      rw [hr] at hload
    · rw [merge_of_error g ho hh hr]
      exact ⟨.one (.work hload), Nat.zero_le _⟩
    · obtain ⟨hg, ⟨m, hm⟩, -⟩ := hload
      cases o with
      | none =>
        rw [merge_of_none g ho hh hr]
        exact ⟨.one (.work (hg.trans (grows_note _ _ _))), Nat.zero_le _⟩
      | some loaded =>
        have hshared := hg.trans (.push w i)
        rw [merge_of_some g ho hh hr hm]
        exact ⟨.one (.adopt (.capture m loaded) ho hshared (.push w i) hnew), Nat.le_refl 1⟩

/-- Compiling a query is work on the store alone. -/
theorem compile_apply (ho : s.session.closed = false) (t : EntityType) (q : EntityQuery) :
    ∃ w, compile g t q s = ((compile g t q s).1, { s with space := w }) ∧ s.space.Grows w := by
  have hsteady : Work.Steady (σ := σ) (.resolving
      (q.compile g.catalogue.schema s.session.config.strictQueries t.descriptor)) :=
    .resolving (q.steady_compile _ _ _)
  refine ⟨_, ?_, hsteady s.space⟩
  unfold compile
  rw [bind_of_open ho, bind_apply, session_apply]
  rfl

theorem Gives.after {u : SessionState σ} {ks : List EntityKey}
    {run : Except Error (List Handle) × SessionState σ} (h : Gives u ks run)
    (m : Move s [] u) : Gives s ks run :=
  ⟨(Moves.one m).trans h.moves, h.length⟩

/-- The keys of the instances that a query would load now. -/
def keysQueried (x : CompiledQuery → Work σ (List Instance)) (t : EntityType) (q : EntityQuery)
    (s : SessionState σ) : List EntityKey :=
  match compile g t q s with
  | (.ok c, u) => keysLoaded (x c) u
  | (.error _, _) => []

theorem gives_queryAll (hs : s.Valid) (ho : s.session.closed = false) (t : EntityType)
    (q : EntityQuery) :
    Gives s (keysQueried g (fun c => g.nativeAll t c.sql c.params) t q s)
      (queryAll g t q s) := by
  obtain ⟨w, hrun, hg⟩ := compile_apply g ho t q
  have hmove : Move s [] { s with space := w } := .work hg
  unfold queryAll keysQueried
  rw [bind_apply, hrun]
  cases (compile g t q s).1 with
  | error e => exact ⟨.one hmove, Nat.zero_le _⟩
  | ok c => exact (gives_nativeAll g (hmove.valid hs) ho t c.sql c.params).after hmove

theorem gives_queryBy (hs : s.Valid) (ho : s.session.closed = false) (t : EntityType)
    (q : EntityQuery) :
    Gives s (keysQueried g (fun c => Option.toList <$> g.nativeBy t c.sql c.params) t q s)
      ((Option.toList <$> queryBy g t q) s) := by
  obtain ⟨w, hrun, hg⟩ := compile_apply g ho t q
  have hmove : Move s [] { s with space := w } := .work hg
  unfold queryBy keysQueried
  rw [map_apply, bind_apply, hrun]
  cases (compile g t q s).1 with
  | error e => exact ⟨.one hmove, Nat.zero_le _⟩
  | ok c =>
    have hgives := gives_nativeBy g (hmove.valid hs) ho t c.sql c.params
    rw [map_apply] at hgives
    exact hgives.after hmove

end Session

end EntityMapper
