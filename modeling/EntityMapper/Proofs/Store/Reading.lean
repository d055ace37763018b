import EntityMapper.Proofs.Store.Growth
/-! Reading: searches make no statements but queries, and they leave shared instances alone. Which
queries those may be is told by a predicate: every selection of rows, and what the caller asks
for. -/

namespace EntityMapper

variable {σ α β : Type}

/-- The second state of a store comes from the first by allowed queries. -/
inductive Connection.Queried (c : Connection σ) (ok : Command → Prop) (s : σ) : σ → Prop
  | refl : Queried c ok s s
  | query {t} (h : Queried c ok s t) {cmd : Command} (hcmd : ok cmd) :
    Queried c ok s (c.query cmd t).2

/-- Rows may be selected by any column of any table. -/
def Command.AllowsSelect (ok : Command → Prop) : Prop :=
  ∀ table column params, ok ⟨.select table column, params⟩

theorem Command.allowsSelect_any : AllowsSelect fun _ => True :=
  fun _ _ _ => trivial

namespace Connection.Queried

variable {c : Connection σ} {ok : Command → Prop} {s t u : σ}

theorem trans (h : c.Queried ok s t) (h' : c.Queried ok t u) : c.Queried ok s u := by
  induction h' with
  | refl => exact h
  | query _ hcmd ih => exact ih.query hcmd

/-- What no allowed query changes is the same afterwards. -/
theorem keeps {f : σ → α} (hf : ∀ cmd s, ok cmd → f (c.query cmd s).2 = f s)
    (h : c.Queried ok s t) : f t = f s := by
  induction h with
  | refl => rfl
  | query _ hcmd ih => exact (hf _ _ hcmd).trans ih

end Connection.Queried

/-- The second workspace comes from the first by reading. -/
structure Workspace.Read (c : Connection σ) (ok : Command → Prop) (w v : Workspace σ) : Prop where
  heap : v.heap = w.heap
  journal : w.journal.Grows v.journal
  store : c.Queried ok w.store v.store

namespace Workspace.Read

variable {c : Connection σ} {ok : Command → Prop} {u v w : Workspace σ}

theorem refl (w : Workspace σ) : Read c ok w w :=
  ⟨rfl, .refl _, .refl⟩

theorem trans (huv : Read c ok u v) (hvw : Read c ok v w) : Read c ok u w :=
  ⟨hvw.heap.trans huv.heap, huv.journal.trans hvw.journal, huv.store.trans hvw.store⟩

theorem grows (h : Read c ok w v) : w.Grows v :=
  .of_heap h.journal h.heap

end Workspace.Read

/-- A statement is an allowed query. -/
def Exchange.Queries (ok : Command → Prop) : Exchange → Prop
  | query c _ => ok c
  | _ => False

/-- The second workspace comes from the first by reading, and tells of it in its transcript. -/
structure Workspace.Searched (c : Connection σ) (ok : Command → Prop) (w v : Workspace σ) : Prop
    extends Workspace.Read c ok w v where
  told : ∃ xs, v.transcript = w.transcript ++ xs ∧ ∀ x ∈ xs, x.Queries ok

namespace Workspace.Searched

variable {c : Connection σ} {ok : Command → Prop} {u v w : Workspace σ}

/-- Reading without a statement. -/
theorem of_read (h : Read c ok w v) (ht : v.transcript = w.transcript) : Searched c ok w v :=
  ⟨h, [], by rw [ht, List.append_nil], by simp⟩

theorem refl (w : Workspace σ) : Searched c ok w w :=
  of_read (.refl w) rfl

theorem trans (huv : Searched c ok u v) (hvw : Searched c ok v w) : Searched c ok u w := by
  obtain ⟨xs, hxs, hall⟩ := huv.told
  obtain ⟨ys, hys, hall'⟩ := hvw.told
  exact ⟨huv.toRead.trans hvw.toRead, xs ++ ys, by rw [hys, hxs, List.append_assoc],
    List.forall_mem_append.mpr ⟨hall, hall'⟩⟩

end Workspace.Searched

/-- Whatever comes of it, the work only reads. -/
def Work.Reads (c : Connection σ) (ok : Command → Prop) (x : Work σ α) : Prop :=
  ∀ w : Workspace σ, w.Searched c ok (x w).2

namespace Work.Reads

variable {c : Connection σ} {ok : Command → Prop} {x : Work σ α} {f : α → Work σ β}

theorem steady (hx : Reads c ok x) : x.Steady :=
  fun w => (hx w).grows

theorem pure (v : α) : Reads c ok (Pure.pure v : Work σ α) :=
  fun w => .refl w

theorem throw (e : Error) : Reads c ok (MonadExcept.throw e : Work σ α) :=
  fun w => .refl w

theorem bind (hx : Reads c ok x) (hf : ∀ v, Reads c ok (f v)) : Reads c ok (x >>= f) := by
  intro w
  have hw := hx w
  rw [bind_apply]
  rcases hr : x w with ⟨e | v, u⟩ <;> rw [hr] at hw
  · exact hw
  · exact hw.trans (hf v u)

theorem map {g : α → β} (hx : Reads c ok x) : Reads c ok (g <$> x) := by
  intro w
  rw [map_apply]
  exact hx w

theorem adapt {g : Error → Error} (hx : Reads c ok x) : Reads c ok (x.adapt g) := by
  intro w
  rw [adapt_apply]
  exact hx w

theorem lift (y : Except Error α) : Reads c ok (liftM y : Work σ α) := by
  intro w
  rw [liftM_except_apply]
  exact .refl w

theorem mapM {g : β → Work σ α} (hg : ∀ b, Reads c ok (g b)) (l : List β) :
    Reads c ok (l.mapM g) := by
  induction l with
  | nil => exact pure []
  | cons b l ih =>
    rw [List.mapM_cons]
    exact (hg b).bind fun v => ih.bind fun vs => pure (v :: vs)

theorem note (level : Level) (message : String) :
    Reads c ok (Work.note level message : Work σ Unit) :=
  fun _ => .of_read ⟨rfl, fun _ _ h => h, .refl⟩ rfl

theorem newList (s : CollectionSearch) : Reads c ok (Work.newList s : Work σ Nat) :=
  fun _ => .of_read ⟨rfl, .refl _, .refl⟩ rfl

theorem resolving {y : Resolving α} (hy : ∀ j : Journal, j.Grows (y j).2) :
    Reads c ok (.resolving y : Work σ α) :=
  fun w => .of_read ⟨rfl, hy w.journal, .refl⟩ rfl

end Work.Reads

open Work (Reads)

/-- Finding what relations hold only reads. -/
structure Linker.Reads (c : Connection σ) (ok : Command → Prop)
    (l : Linker (StateM (Workspace σ))) : Prop where
  reference : ∀ target id, Work.Reads c ok (l.reference target id)
  collection : ∀ owner field target id, Work.Reads c ok (l.collection owner field target id)

namespace Instance

variable {c : Connection σ} {ok : Command → Prop} {l : Linker (StateM (Workspace σ))}
  (hl : l.Reads c ok) (t : EntityType) (r : Row)

include hl

theorem reads_readSlot (f : EntityField) :
    Reads c ok (readSlot l t r f : Work σ (Slot Instance)) := by
  unfold readSlot
  split
  · exact (Reads.lift _).bind fun _ => .pure _
  · exact (Reads.lift _).bind fun _ => (hl.reference _ _).bind fun _ => .pure _
  · exact (Reads.lift _).bind fun _ => (hl.collection _ _ _ _).bind fun _ => .pure _
  · exact .pure _

theorem reads_ofRow : Reads c ok (ofRow l t r : Work σ Instance) :=
  (Reads.mapM (fun f => (reads_readSlot hl t r f).bind fun _ => .pure _) _).bind fun _ => .pure _

end Instance

namespace Gateway

variable (g : Gateway σ) {ok : Command → Prop}

theorem reads_resolve (t : EntityType) : Reads g.connection ok (g.resolve t) :=
  .resolving (Journal.resolve_grows _ _)

theorem reads_query {c : Command} (hc : ok c) : Reads g.connection ok (g.query c) :=
  (Reads.note _ _).bind fun _ _ =>
    ⟨⟨rfl, .refl _, .query .refl hc⟩, [_], rfl, List.forall_mem_singleton.mpr hc⟩

theorem reads_hydrate {l : Linker (StateM (Workspace σ))} (hl : l.Reads g.connection ok)
    (t : EntityType) (rows : List Row) : Reads g.connection ok (hydrate l t rows) :=
  .mapM (fun r => (Instance.reads_ofRow hl t r).adapt) rows

theorem reads_collection (owner : EntityType) (field : String) (target : EntityType)
    (id : Value) : Reads g.connection ok (g.collection owner field target id) := by
  refine (g.reads_resolve owner).bind fun m => ?_
  split
  · exact .throw _
  · split
    · exact .pure _
    · exact .map (.newList _)

theorem reads_typeAt (place : Nat) : Reads g.connection ok (g.typeAt place) := by
  unfold typeAt
  split
  · exact .pure _
  · exact .throw _

theorem reads_linker {load : EntityType → Value → Work σ (Option Instance)}
    (hload : ∀ t id, Reads g.connection ok (load t id)) :
    (g.linker load).Reads g.connection ok := by
  constructor
  · intro target id
    unfold linker
    dsimp only
    split
    · exact .pure _
    · exact (g.reads_typeAt target).bind fun t => hload t id
  · intro owner field target id
    exact (g.reads_typeAt target).bind fun t => g.reads_collection owner field t id

section Selecting

variable (hok : Command.AllowsSelect ok)

include hok

theorem reads_loadWithin (depth : Nat) (t : EntityType) (id : Value) :
    Reads g.connection ok (g.loadWithin depth t id) := by
  induction depth generalizing t id with
  | zero => exact .throw _
  | succ depth ih =>
    exact (g.reads_resolve t).bind fun m => (g.reads_query (hok _ _ _)).bind fun rows =>
      (g.reads_hydrate (g.reads_linker ih) t rows).bind fun found => .lift _

theorem reads_load (t : EntityType) (id : Value) : Reads g.connection ok (g.load t id) :=
  g.reads_loadWithin hok _ t id

theorem reads_select (t : EntityType) {c : Command} (hc : ok c) :
    Reads g.connection ok (g.select t c) :=
  (g.reads_query hc).bind fun rows => g.reads_hydrate (g.reads_linker (g.reads_load hok)) t rows

theorem reads_findAllBy (t : EntityType) (field : String) (v : Value) :
    Reads g.connection ok (g.findAllBy t field v) := by
  refine (g.reads_resolve t).bind fun m => ?_
  split
  · exact .throw _
  · exact g.reads_select hok t (hok _ _ _)

theorem reads_findBy (t : EntityType) (field : String) (v : Value) :
    Reads g.connection ok (g.findBy t field v) :=
  (g.reads_findAllBy hok t field v).bind fun _ => .lift _

theorem reads_nativeAll (t : EntityType) {sql : String} {params : List Value}
    (hc : ok ⟨.native sql, params⟩) : Reads g.connection ok (g.nativeAll t sql params) :=
  (g.reads_resolve t).bind fun _ => g.reads_select hok t hc

theorem reads_nativeBy (t : EntityType) {sql : String} {params : List Value}
    (hc : ok ⟨.native sql, params⟩) : Reads g.connection ok (g.nativeBy t sql params) :=
  (g.reads_nativeAll hok t hc).bind fun _ => .lift _

end Selecting

end Gateway

end EntityMapper
