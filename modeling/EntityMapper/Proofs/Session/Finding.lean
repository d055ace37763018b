import EntityMapper.Proofs.Session.Ending
import EntityMapper.Proofs.Session.Searching
import EntityMapper.Session.Call
/-! Finding: what every search of a session keeps, given what reading keeps and what becoming known
keeps. -/

namespace EntityMapper

variable {σ : Type}

open Session Operation

namespace Session

/-- All instances that work loads from a state with `P` have `Q` afterwards. -/
def Loaded (P : SessionState σ → Prop) (Q : Instance → SessionState σ → Prop)
    (x : Work σ (List Instance)) : Prop :=
  ∀ s, P s → ∀ is w, x s.space = (.ok is, w) → ∀ i ∈ is, Q i { s with space := w }

/-- Reading by allowed queries keeps `P`, and so does an instance with `Q` that becomes known; it
leaves `Q` with all others. -/
structure Keeper (g : Gateway σ) (ok : Command → Prop) (P : SessionState σ → Prop)
    (Q : Instance → SessionState σ → Prop) : Prop where
  select : Command.AllowsSelect ok
  read : ∀ s w, P s → s.space.Searched g.connection ok w → P { s with space := w }
  manage : ∀ s i, P s → Q i s → ∃ h t, Session.manage g i s = (.ok h, t) ∧ P t ∧
    ∀ j, Q j s → Q j t

/-- What every loader gives for types with `T` and for statements with `N` has `Q`. -/
structure Loader (g : Gateway σ) (T : EntityType → Prop) (N : EntityType → Command → Prop)
    (P : SessionState σ → Prop) (Q : Instance → SessionState σ → Prop) : Prop where
  load : ∀ t id, T t → Loaded P Q (Option.toList <$> g.load t id)
  findAllBy : ∀ t field v, T t → Loaded P Q (g.findAllBy t field v)
  nativeAll : ∀ t sql params, N t ⟨.native sql, params⟩ → Loaded P Q (g.nativeAll t sql params)

section Loaded

variable {P : SessionState σ → Prop} {Q : Instance → SessionState σ → Prop}

/-- The only instance found is one of those found. -/
theorem Loaded.atMostOne {t : EntityType} {x : Work σ (List Instance)} (hx : Loaded P Q x) :
    Loaded P Q (Option.toList <$> (x >>= fun found => liftM (EntityMapper.atMostOne t found))) := by
  intro s hs is w hw i hi
  rw [map_apply, bind_apply] at hw
  rcases hr : x s.space with ⟨e | found, u⟩ <;> rw [hr] at hw
  · cases hw
  · simp only [liftM_except_apply] at hw
    cases ho : EntityMapper.atMostOne t found with
    | error e =>
      rw [ho] at hw
      cases hw
    | ok r =>
      rw [ho] at hw
      obtain ⟨hlist, rfl⟩ := Prod.mk.inj hw
      have hfound : found = is :=
        (Gateway.toList_of_atMostOne ho).symm.trans (Except.ok.inj hlist)
      exact hx s hs found u hr i (hfound ▸ hi)

end Loaded

/-- The type of what was loaded is resolved. -/
theorem resolved_of_load (g : Gateway σ) {t : EntityType} {id : Value} {w v : Workspace σ}
    {loaded : Instance} (h : g.load t id w = (.ok (some loaded), v)) :
    ∃ m, v.journal.registry.find? t.path = some m :=
  ((g.loads_load t id w).ok (.refl _) (b := v) (v := [loaded]) (by rw [map_apply, h]; rfl)).2.1

namespace Keeper

variable {g : Gateway σ} {ok : Command → Prop} {P : SessionState σ → Prop}
  {Q : Instance → SessionState σ → Prop} (hk : Keeper g ok P Q)

include hk

theorem meets_ofWork {α : Type} {x : Work σ α} (hx : x.Reads g.connection ok) :
    Meets P (ofWork x) (fun _ => P) P := by
  intro s hs
  have hread := hk.read s (x s.space).2 hs (hx s.space)
  rw [ofWork_apply]
  rcases hr : x s.space with ⟨e | v, w⟩ <;> rw [hr] at hread <;> exact hread

theorem meets_note (level : Level) (message : String) :
    Meets P (note level message : Operation σ Unit) (fun _ => P) P :=
  hk.meets_ofWork (.note level message)

/-- What was loaded can always be given out. -/
theorem meets_manageAll (is : List Instance) :
    Meets (fun s => P s ∧ ∀ i ∈ is, Q i s) (manageAll g is) (fun _ => P) (fun _ => False) := by
  induction is with
  | nil => exact .pure fun s hs => hs.1
  | cons i is ih =>
    intro s ⟨hs, hq⟩
    obtain ⟨h, t, hrun, ht, hkeep⟩ := hk.manage s i hs (hq i List.mem_cons_self)
    have hrest := ih t ⟨ht, fun j hj => hkeep j (hq j (List.mem_cons_of_mem i hj))⟩
    unfold manageAll at hrest ⊢
    rw [List.mapM_cons, bind_apply, hrun]
    dsimp only
    rw [bind_apply]
    rcases hr : is.mapM (Session.manage g) t with ⟨e | hs', u⟩ <;> rw [hr] at hrest <;> exact hrest

/-- What a search loads becomes known. -/
theorem meets_search {x : Work σ (List Instance)} (hx : x.Reads g.connection ok)
    (hl : Loaded P Q x) : Meets P (ofWork x >>= manageAll g) (fun _ => P) P := by
  have hall (is : List Instance) : Meets (fun s => P s ∧ ∀ i ∈ is, Q i s) (manageAll g is)
      (fun _ => P) P :=
    (hk.meets_manageAll is).weaken (fun _ h => h) (fun _ _ h => h) fun _ h => h.elim
  refine Meets.bind (Q := fun is s => P s ∧ ∀ i ∈ is, Q i s) (fun s hs => ?_) hall
  have hread := hk.read s (x s.space).2 hs (hx s.space)
  rw [ofWork_apply]
  rcases hr : x s.space with ⟨e | is, w⟩ <;> rw [hr] at hread
  · exact hread
  · exact ⟨hread, hl s hs is w hr⟩

theorem meets_searchOption {x : Work σ (Option Instance)} (hx : x.Reads g.connection ok)
    (hl : Loaded P Q (Option.toList <$> x)) :
    Meets P (ofWork x >>= manageOption g) (fun _ => P) P := by
  intro s hs
  have hall := hk.meets_search hx.map hl s hs
  rw [← toList_manageOption, map_apply] at hall
  rcases hr : (ofWork x >>= manageOption g) s with ⟨e | v, t⟩ <;> rw [hr] at hall <;> exact hall

section Loader

variable {T : EntityType → Prop} {N : EntityType → Command → Prop} (hl : Loader g T N P Q)
  {t : EntityType}

include hl

theorem meets_findById (ht : T t) (id : Value) :
    Meets P (findById g t id) (fun _ => P) P := by
  refine meets_ensureOpen.bind fun _ => Meets.bind (Q := fun _ => P) (fun s hs => hs) fun u =>
    Meets.bind (Q := fun _ => P) (.get fun s hs => hs) fun v => ?_
  dsimp only
  split
  · exact (hk.meets_note _ _).bind fun _ => .pure fun _ hs => hs
  · exact hk.meets_searchOption (g.reads_load hk.select t _) (hl.load t _ ht)

theorem meets_nativeBy {sql : String} {params : List Value} (hc : ok ⟨.native sql, params⟩)
    (hn : N t ⟨.native sql, params⟩) : Meets P (nativeBy g t sql params) (fun _ => P) P :=
  meets_ensureOpen.bind fun _ => hk.meets_searchOption (g.reads_nativeBy hk.select t hc)
    (hl.nativeAll t sql params hn).atMostOne

theorem meets_nativeAll {sql : String} {params : List Value} (hc : ok ⟨.native sql, params⟩)
    (hn : N t ⟨.native sql, params⟩) : Meets P (nativeAll g t sql params) (fun _ => P) P :=
  meets_ensureOpen.bind fun _ => hk.meets_search (g.reads_nativeAll hk.select t hc)
    (hl.nativeAll t sql params hn)

end Loader

/-- Compiling a query gives one of its statements. -/
theorem meets_compile (t : EntityType) (q : EntityQuery) :
    Meets P (compile g t q) (fun c s => P s ∧ ∃ strict j,
      (q.compile g.catalogue.schema strict t.descriptor j).1 = .ok c) P := by
  refine meets_ensureOpen.bind fun _ => Meets.bind (Q := fun _ => P) (fun s hs => hs) fun u => ?_
  have hread := hk.meets_ofWork (x := .resolving
      (q.compile g.catalogue.schema u.config.strictQueries t.descriptor)) (.resolving fun j => by
    have hj := q.steady_compile g.catalogue.schema u.config.strictQueries t.descriptor j j (.refl j)
    rcases hr : q.compile g.catalogue.schema u.config.strictQueries t.descriptor j with
      ⟨e | v, k⟩ <;> rw [hr] at hj <;> exact hj)
  intro s hs
  have hkept := hread s hs
  rcases hr : ofWork (.resolving
      (q.compile g.catalogue.schema u.config.strictQueries t.descriptor)) s with ⟨e | c, v⟩ <;>
    rw [hr] at hkept
  · exact hkept
  · exact ⟨hkept, _, s.space.journal, congrArg Prod.fst hr⟩

/-- An instance from outside becomes known with a snapshot of what was loaded for it. -/
theorem meets_merge (i : Instance)
    (hadopt : ∀ s w loaded m, P s → s.session.closed = false →
      s.session.map.handle? s.space.heap i.type (.ofInstance i) = none →
      g.load i.type (EntityKey.ofInstance i).id s.space = (.ok (some loaded), w) →
      s.space.Searched g.connection ok w → w.journal.registry.find? i.type.path = some m →
      P ⟨s.session.keep ⟨.ofInstance i, w.heap.next⟩ (.capture m loaded),
        { w with heap := w.heap.push i }⟩) :
    Meets P (merge g i) (fun _ => P) P := by
  intro s hs
  cases hc : s.session.closed with
  | true =>
    unfold merge
    rwa [bind_of_closed hc]
  | false =>
    cases hh : s.session.map.handle? s.space.heap i.type (.ofInstance i) with
    | some h => rwa [merge_known g hc hh]
    | none =>
      have hread := g.reads_load hk.select i.type (EntityKey.ofInstance i).id s.space
      rcases hr : g.load i.type (EntityKey.ofInstance i).id s.space with ⟨e | o, w⟩ <;>
        rw [hr] at hread
      · rw [merge_of_error g hc hh hr]
        exact hk.read s w hs hread
      · cases o with
        | none =>
          rw [merge_of_none g hc hh hr]
          exact hk.read ⟨s.session, w⟩ _ (hk.read s w hs hread) (Work.Reads.note _ _ w)
        | some loaded =>
          obtain ⟨m, hm⟩ := resolved_of_load g hr
          rw [merge_of_some g hc hh hr hm]
          exact hadopt s w loaded m hs hc hh hr hread hm

end Keeper

end Session

namespace SessionCall

/-- The type that a search of an operation looks for. -/
def searched? : SessionCall → Option EntityType
  | findById t _ | findBy t _ _ | findAllBy t _ _ | nativeBy t _ _ | nativeAll t _ _ | queryBy t _
  | queryAll t _ => some t
  | _ => none

/-- An operation searches for entities of a type with `T`, or by a statement with `N`. -/
def Searches (g : Gateway σ) (T : EntityType → Prop) (N : EntityType → Command → Prop) :
    SessionCall → Prop
  | findById t _ | findBy t _ _ | findAllBy t _ _ => T t
  | nativeBy t sql params | nativeAll t sql params => N t ⟨.native sql, params⟩
  | queryBy t q | queryAll t q => ∀ strict j c,
    (q.compile g.catalogue.schema strict t.descriptor j).1 = .ok c → N t ⟨.native c.sql, c.params⟩
  | _ => False

theorem searches_of_searched? (g : Gateway σ) {c : SessionCall} {t : EntityType}
    (hc : c.searched? = some t) : c.Searches g (fun _ => True) (fun _ _ => True) := by
  cases c <;> first | exact trivial | exact fun _ _ _ _ => trivial | cases hc

/-- Every search keeps what reading keeps and what becoming known keeps. -/
theorem meets_searched {g : Gateway σ} {ok : Command → Prop} {T : EntityType → Prop}
    {N : EntityType → Command → Prop} {P : SessionState σ → Prop}
    {Q : Instance → SessionState σ → Prop} (hk : Keeper g ok P Q) (hl : Loader g T N P Q)
    (hn : ∀ t c, N t c → ok c) {c : SessionCall} (hc : c.Searches g T N) :
    Meets P (c.run g) (fun _ => P) P := by
  cases c with
  | findById t id => exact (hk.meets_findById hl hc id).map
  | findBy t field v =>
    exact (meets_ensureOpen.bind fun _ =>
      hk.meets_searchOption (g.reads_findBy hk.select t field v)
        (hl.findAllBy t field v hc).atMostOne).map
  | findAllBy t field v =>
    exact (meets_ensureOpen.bind fun _ =>
      hk.meets_search (g.reads_findAllBy hk.select t field v) (hl.findAllBy t field v hc)).map
  | nativeBy t sql params => exact (hk.meets_nativeBy hl (hn _ _ hc) hc).map
  | nativeAll t sql params => exact (hk.meets_nativeAll hl (hn _ _ hc) hc).map
  | queryBy t q =>
    refine ((hk.meets_compile t q).bind fun statement s hs => ?_).map
    obtain ⟨hs, strict, j, hcompiled⟩ := hs
    have hasks := hc strict j statement hcompiled
    exact hk.meets_nativeBy hl (hn _ _ hasks) hasks s hs
  | queryAll t q =>
    refine ((hk.meets_compile t q).bind fun statement s hs => ?_).map
    obtain ⟨hs, strict, j, hcompiled⟩ := hs
    have hasks := hc strict j statement hcompiled
    exact hk.meets_nativeAll hl (hn _ _ hasks) hasks s hs
  | _ => exact hc.elim

end SessionCall

end EntityMapper
