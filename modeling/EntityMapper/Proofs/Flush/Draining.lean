import EntityMapper.Proofs.Flush.Performing
import EntityMapper.Proofs.Store.Growth
/-! Draining a queue: what is written, what is left, and what the workspace keeps. -/

namespace EntityMapper

namespace Entry

variable {σ : Type}

/-- The instance of the entry is shared, and of the type of the key. -/
structure Sound (e : Entry) (w : Workspace σ) : Prop where
  lt : e.handle < w.heap.next
  path : e.key.path? = some (w.heap.get e.handle).type.path

/-- The entry is sound, and the type of its instance is resolved. -/
structure Ready (e : Entry) (w : Workspace σ) : Prop extends e.Sound w where
  resolved : ∃ m, w.journal.registry.find? (w.heap.get e.handle).type.path = some m

variable {e : Entry} {w v : Workspace σ}

theorem Sound.mono (h : e.Sound w) (hg : w.Grows v) : e.Sound v :=
  ⟨Nat.lt_of_lt_of_le h.lt hg.next, by rw [hg.types _ h.lt, h.path]⟩

/-- An instance that has just been shared has an entry with its key. -/
theorem Sound.push (w : Workspace σ) (i : Instance) :
    Sound ⟨.ofInstance i, w.heap.next⟩ { w with heap := w.heap.push i } :=
  ⟨Nat.lt_succ_self _, by rw [Heap.get_push_self]; rfl⟩

theorem Ready.mono (h : e.Ready w) (hg : w.Grows v) : e.Ready v := by
  obtain ⟨m, hm⟩ := h.resolved
  refine ⟨h.toSound.mono hg, m, ?_⟩
  rw [hg.types _ h.lt]
  exact hg.journal _ _ hm

end Entry

namespace Action

def inserts : Action → Option Handle
  | persist h _ => some h
  | _ => none

def updates : Action → Option Entry
  | merge e _ => some e
  | _ => none

def deletes : Action → Option EntityKey
  | remove e => some e.key
  | _ => none

theorem mem_inserts_iff {as : List Action} {h : Handle} :
    h ∈ as.filterMap inserts ↔ ∃ instant, persist h instant ∈ as := by
  rw [List.mem_filterMap]
  constructor
  · rintro ⟨a, ha, hah⟩
    cases a with
    | persist l instant =>
      cases hah
      exact ⟨instant, ha⟩
    | _ => cases hah
  · rintro ⟨instant, ha⟩
    exact ⟨_, ha, rfl⟩

theorem mem_updates_iff {as : List Action} {e : Entry} :
    e ∈ as.filterMap updates ↔ ∃ version, merge e version ∈ as := by
  rw [List.mem_filterMap]
  constructor
  · rintro ⟨a, ha, hae⟩
    cases a with
    | merge f version =>
      cases hae
      exact ⟨version, ha⟩
    | _ => cases hae
  · rintro ⟨version, ha⟩
    exact ⟨_, ha, rfl⟩

theorem mem_deletes_iff {as : List Action} {k : EntityKey} :
    k ∈ as.filterMap deletes ↔ ∃ e, remove e ∈ as ∧ e.key = k := by
  rw [List.mem_filterMap]
  constructor
  · rintro ⟨a, ha, hak⟩
    cases a with
    | remove e => exact ⟨e, ha, Option.some.inj hak⟩
    | _ => cases hak
  · rintro ⟨e, ha, rfl⟩
    exact ⟨_, ha, rfl⟩

variable {σ : Type}

/-- The instance that is written is shared, and of the type of its key. -/
def Sound (w : Workspace σ) : Action → Prop
  | persist h _ => h < w.heap.next
  | merge e _ => e.Sound w
  | remove e => e.Sound w

theorem Sound.mono {a : Action} {w v : Workspace σ} (h : a.Sound w) (hg : w.Grows v) :
    a.Sound v := by
  cases a with
  | persist k instant => exact Nat.lt_of_lt_of_le h hg.next
  | merge e expected => exact Entry.Sound.mono h hg
  | remove e => exact Entry.Sound.mono h hg

end Action

namespace Gateway

open Work (Steady)

variable {σ : Type} (g : Gateway σ)

theorem steady_save (i : Instance) : Steady (g.save i) := by
  refine (g.steady_resolve i.type).bind fun m => (g.steady_insert _).bind fun id => ?_
  split
  · exact .throw _
  · exact (Steady.note _ _).bind fun _ => .pure id

theorem steady_resolveKey (k : EntityKey) : Steady (g.resolveKey k) := by
  unfold resolveKey
  split
  · exact g.steady_resolve _
  · exact .throw _

theorem steady_update (e : Entry) (expected : Value) : Steady (g.update e expected) := by
  refine (g.steady_resolveKey e.key).bind fun m => Steady.get.bind fun w => ?_
  dsimp only
  split
  · exact .throw _
  · refine (g.steady_execute _).bind fun n => ?_
    split
    · exact (Steady.throw _).bind fun _ => .pure _
    · exact .pure _

theorem steady_remove (k : EntityKey) : Steady (g.remove k) := by
  refine (g.steady_resolveKey k).bind fun m => (g.steady_execute _).bind fun n => ?_
  split
  · exact .throw _
  · exact .pure _

theorem steady_persist (h : Handle) : Steady (g.persist h) :=
  Steady.get.bind fun _ => (g.steady_save _).bind fun _ => (g.steady_resolve _).bind fun _ =>
    (Steady.setValue _ _ _).bind fun _ => Steady.get.bind fun _ => .pure _

theorem steady_writeVersion (e : Entry) (next : Option Value) :
    Steady (writeVersion e next : Work σ Unit) := by
  cases next with
  | none => exact .pure _
  | some v =>
    refine Steady.get.bind fun w => ?_
    split
    · exact .pure _
    · exact .setValue _ _ _

theorem steady_perform (a : Action) (o : Outcome) (w : Workspace σ) :
    w.Grows (g.perform a o w).2 := by
  cases a with
  | persist h instant =>
    have hp := g.steady_persist h w
    rw [perform_persist_apply]
    rcases hr : g.persist h w with ⟨e | entry, v⟩ <;> rw [hr] at hp <;> exact hp
  | merge entry expected =>
    have hu := g.steady_update entry expected w
    rw [perform_merge_apply]
    rcases hr : g.update entry expected w with ⟨e | next, v⟩ <;> rw [hr] at hu
    · exact hu
    · exact hu.trans (steady_writeVersion entry next v)
  | remove entry =>
    have hd := g.steady_remove entry.key w
    rw [perform_remove_apply]
    rcases hr : g.remove entry.key w with ⟨e | u, v⟩ <;> rw [hr] at hd <;> exact hd

section Cons

variable {a : Action} {o written : Outcome} {w v : Workspace σ} {e : Error}

theorem performAll_of_error (h : g.perform a o w = ((.error e, written), v)) (rest : List Action) :
    g.performAll (a :: rest) o w =
      (⟨.error e, if written.size = o.size then a :: rest else rest, written⟩,
        v.note .warn "Action failed; remaining actions stay queued") := by
  simp [performAll, h]

theorem performAll_of_ok (h : g.perform a o w = ((.ok (), written), v)) (rest : List Action) :
    g.performAll (a :: rest) o w = g.performAll rest written v := by
  simp [performAll, h]

end Cons

/-- A drain that succeeds leaves nothing. -/
theorem left_of_ok {as : List Action} {o : Outcome} {w : Workspace σ}
    (h : (g.performAll as o w).1.result = .ok ()) : (g.performAll as o w).1.left = [] := by
  induction as generalizing o w with
  | nil => rfl
  | cons a rest ih =>
    rcases hr : g.perform a o w with ⟨⟨e | u, written⟩, v⟩
    · rw [g.performAll_of_error hr] at h
      cases h
    · rw [g.performAll_of_ok hr] at h ⊢
      exact ih h

theorem steady_performAll (as : List Action) (o : Outcome) (w : Workspace σ) :
    w.Grows (g.performAll as o w).2 := by
  induction as generalizing o w with
  | nil => exact .refl w
  | cons a rest ih =>
    have hg := g.steady_perform a o w
    rcases hr : g.perform a o w with ⟨⟨e | u, written⟩, v⟩ <;> rw [hr] at hg
    · rw [g.performAll_of_error hr]
      exact hg.trans (.of_heap (fun _ _ h => h) rfl)
    · rw [g.performAll_of_ok hr]
      exact hg.trans (ih written v)

/-- The entry of a row that was added is that of the instance, ready to be taken note of. -/
theorem ready_of_persist {h : Handle} {w v : Workspace σ} {e : Entry} (hh : h < w.heap.next)
    (hp : g.persist h w = (.ok e, v)) : e.handle = h ∧ e.Ready v := by
  rw [persist_apply] at hp
  rcases hr : g.resolve (w.heap.get h).type w with ⟨f | m, u⟩ <;> rw [hr] at hp
  · cases hp
  dsimp only at hp
  split at hp
  · cases hp
  split at hp
  · cases hp
  split at hp
  · cases hp
  rename_i i hset
  cases hp
  have htype := Instance.type_of_setValue hset
  rw [resolve_apply] at hr
  obtain ⟨hm, hu⟩ := Prod.mk.inj hr
  have hfind := Journal.find?_resolve (Prod.ext hm (congrArg Workspace.journal hu))
  have hget : ((w.heap.set h i).get h).type = (w.heap.get h).type := by
    rw [Heap.get_set_self, htype]
  refine ⟨rfl, ⟨hh, ?_⟩, m, ?_⟩
  · simp [EntityKey.path?, EntityKey.ofInstance, EntityKey.of]
  · dsimp only
    rw [hget]
    exact hfind

/-- An entry whose row was written is ready to be taken note of. -/
theorem ready_of_update {e : Entry} {expected : Value} {w v : Workspace σ} {next : Option Value}
    (he : e.Sound w) (hu : g.update e expected w = (.ok next, v)) : e.Ready v := by
  have hg := g.steady_update e expected w
  rw [hu] at hg
  refine ⟨he.mono hg, ?_⟩
  rw [hg.types _ he.lt]
  rw [update_apply] at hu
  rcases hr : g.resolveKey e.key w with ⟨f | m, u⟩ <;> rw [hr] at hu
  · cases hu
  have hfind : u.journal.registry.find? (w.heap.get e.handle).type.path = some m := by
    unfold resolveKey at hr
    cases ht : e.key.type with
    | none =>
      rw [ht] at hr
      cases hr
    | some t =>
      have hpath : some t.path = some (w.heap.get e.handle).type.path := by
        rw [← he.path, EntityKey.path?, ht]
        rfl
      rw [ht] at hr
      dsimp only at hr
      rw [resolve_apply] at hr
      obtain ⟨hm, hu⟩ := Prod.mk.inj hr
      rw [← Option.some.inj hpath]
      exact Journal.find?_resolve (Prod.ext hm (congrArg Workspace.journal hu))
  dsimp only at hu
  split at hu
  · cases hu
  split at hu
  · cases hu
  split at hu
  · cases hu
  · cases hu
    exact ⟨m, hfind⟩

end Gateway

/-- An outcome after actions were carried out, in a workspace in which all that they wrote is ready
to be taken note of. -/
structure Outcome.Records {σ : Type} (o : Outcome) (done : List Action) (w : Workspace σ)
    (out : Outcome) : Prop where
  persisted : ∃ es, out.persisted = o.persisted ++ es ∧
    es.map (·.handle) = done.filterMap Action.inserts ∧ ∀ e ∈ es, e.Ready w
  merged : out.merged = o.merged ++ done.filterMap Action.updates
  ready : ∀ e ∈ done.filterMap Action.updates, e.Ready w
  removed : out.removed = o.removed ++ done.filterMap Action.deletes

namespace Outcome.Records

variable {σ : Type} {o p out : Outcome} {as bs : List Action} {w v : Workspace σ}

theorem nil (o : Outcome) (w : Workspace σ) : o.Records [] w o :=
  ⟨⟨[], by simp⟩, by simp, by simp, by simp⟩

theorem append (ha : o.Records as w p) (hg : w.Grows v) (hb : p.Records bs v out) :
    o.Records (as ++ bs) v out := by
  obtain ⟨es, hes, hhandles, hready⟩ := ha.persisted
  obtain ⟨fs, hfs, hhandles', hready'⟩ := hb.persisted
  refine ⟨⟨es ++ fs, ?_, ?_, fun e he => ?_⟩, ?_, fun e he => ?_, ?_⟩
  · rw [hfs, hes, List.append_assoc]
  · rw [List.map_append, List.filterMap_append, hhandles, hhandles']
  · rcases List.mem_append.mp he with he | he
    · exact (hready e he).mono hg
    · exact hready' e he
  · rw [hb.merged, ha.merged, List.filterMap_append, List.append_assoc]
  · rw [List.filterMap_append] at he
    rcases List.mem_append.mp he with he | he
    · exact (ha.ready e he).mono hg
    · exact hb.ready e he
  · rw [hb.removed, ha.removed, List.filterMap_append, List.append_assoc]

theorem size_singleton {a : Action} (h : o.Records [a] w out) : out.size ≠ o.size := by
  obtain ⟨es, hes, hhandles, -⟩ := h.persisted
  have hlen := congrArg List.length hhandles
  have hpersisted := congrArg List.length hes
  have hmerged := congrArg List.length h.merged
  have hremoved := congrArg List.length h.removed
  simp only [List.length_map, List.length_append] at hlen hpersisted hmerged hremoved
  unfold Outcome.size
  cases a <;> simp [Action.inserts, Action.updates, Action.deletes] at hlen hmerged hremoved <;>
    omega

end Outcome.Records

namespace Gateway

variable {σ : Type} (g : Gateway σ)

/-- An action that is performed either fails and leaves the outcome alone, or is recorded. -/
theorem perform_records {a : Action} {w : Workspace σ} (ha : a.Sound w) (o : Outcome) :
    ((∃ e, (g.perform a o w).1.1 = .error e) ∧ (g.perform a o w).1.2 = o) ∨
      o.Records [a] (g.perform a o w).2 (g.perform a o w).1.2 := by
  cases a with
  | persist h instant =>
    rw [perform_persist_apply]
    rcases hr : g.persist h w with ⟨e | entry, v⟩
    · exact .inl ⟨⟨e, rfl⟩, rfl⟩
    · obtain ⟨hh, hready⟩ := g.ready_of_persist ha hr
      refine .inr
        ⟨⟨[entry], rfl, by simp [Action.inserts, hh], by simpa using hready⟩, ?_, ?_, ?_⟩ <;>
        simp [Action.updates, Action.deletes]
  | merge entry expected =>
    rw [perform_merge_apply]
    rcases hr : g.update entry expected w with ⟨e | next, v⟩
    · exact .inl ⟨⟨e, rfl⟩, rfl⟩
    · have hready := (g.ready_of_update ha hr).mono (steady_writeVersion entry next v)
      refine .inr ⟨⟨[], by simp, by simp [Action.inserts], by simp⟩, rfl, ?_, ?_⟩
      · simpa [Action.updates] using hready
      · simp [Action.deletes]
  | remove entry =>
    rw [perform_remove_apply]
    rcases hr : g.remove entry.key w with ⟨e | u, v⟩
    · exact .inl ⟨⟨e, rfl⟩, rfl⟩
    · refine .inr ⟨⟨[], by simp, by simp [Action.inserts], by simp⟩, ?_, ?_, rfl⟩ <;>
        simp [Action.updates]

/-- What a drain leaves of actions: some of them were recorded and the others are left, in order. -/
structure Drains (as : List Action) (o : Outcome) (d : Drained) (v : Workspace σ) : Prop where
  recorded : ∃ done, as = done ++ d.left ∧ o.Records done v d.outcome
  all : d.result = .ok () → d.left = []

theorem performAll_drains {as : List Action} {w : Workspace σ} (has : ∀ a ∈ as, a.Sound w)
    (o : Outcome) : Drains as o (g.performAll as o w).1 (g.performAll as o w).2 := by
  induction as generalizing o w with
  | nil => exact ⟨⟨[], rfl, .nil o w⟩, fun _ => rfl⟩
  | cons a rest ih =>
    have hg := g.steady_perform a o w
    have hrec := g.perform_records (has a List.mem_cons_self) o
    rcases hr : g.perform a o w with ⟨⟨e | u, written⟩, v⟩ <;> rw [hr] at hg hrec
    · rw [g.performAll_of_error hr]
      have hnote : v.Grows (v.note .warn "Action failed; remaining actions stay queued") :=
        .of_heap (fun _ _ h => h) rfl
      rcases hrec with ⟨-, hw⟩ | hrec
      · subst hw
        exact ⟨⟨[], by simp, .nil _ _⟩, fun h => by cases h⟩
      · have hsize : ¬ written.size = o.size := hrec.size_singleton
        refine ⟨⟨[a], by simp [hsize], ?_⟩, fun h => by cases h⟩
        simpa using hrec.append hnote (.nil written _)
    · rw [g.performAll_of_ok hr]
      rcases hrec with ⟨⟨e, he⟩, -⟩ | hrec
      · cases he
      · have hrest := ih (fun b hb => (has b (List.mem_cons_of_mem a hb)).mono hg) written
        obtain ⟨done, hdone, hrecs⟩ := hrest.recorded
        exact ⟨⟨a :: done, congrArg (a :: ·) hdone,
          hrec.append (g.steady_performAll rest written v) hrecs⟩, hrest.all⟩

end Gateway

end EntityMapper
