import EntityMapper.Proofs.Store.Exchanges
/-! What work on a store leaves alone: mappings stay resolved, and shared instances keep their
types. -/

namespace EntityMapper

theorem Instance.type_of_setValue {i j : Instance} {name : String} {v : Value}
    (h : i.setValue name v = .ok j) : j.type = i.type := by
  unfold setValue at h
  split at h
  · rename_i t _
    cases hr : t.read v with
    | error e => simp [hr, Except.map] at h
    | ok u =>
      simp only [hr, Except.map, Except.ok.injEq] at h
      rw [← h]
      rfl
  · cases h
    rfl

namespace Workspace

variable {σ : Type}

/-- The second workspace knows all mappings of the first, and shares its instances, each still of
its type. -/
structure Grows (w v : Workspace σ) : Prop where
  journal : w.journal.Grows v.journal
  next : w.heap.next ≤ v.heap.next
  types : ∀ h < w.heap.next, (v.heap.get h).type = (w.heap.get h).type

namespace Grows

variable {u v w : Workspace σ}

theorem refl (w : Workspace σ) : w.Grows w :=
  ⟨.refl _, Nat.le_refl _, fun _ _ => rfl⟩

theorem trans (huv : u.Grows v) (hvw : v.Grows w) : u.Grows w := by
  refine ⟨huv.journal.trans hvw.journal, Nat.le_trans huv.next hvw.next, fun h hh => ?_⟩
  rw [hvw.types h (Nat.lt_of_lt_of_le hh huv.next), huv.types h hh]

/-- Instances are the same, and no mapping is lost. -/
theorem of_heap (hj : w.journal.Grows v.journal) (hh : v.heap = w.heap) : w.Grows v :=
  ⟨hj, Nat.le_of_eq (by rw [hh]), fun h _ => by rw [hh]⟩

theorem push (w : Workspace σ) (i : Instance) : w.Grows { w with heap := w.heap.push i } :=
  ⟨.refl _, Nat.le_succ _, fun h hh => by rw [w.heap.get_push_of_ne i (Nat.ne_of_lt hh)]⟩

theorem set (w : Workspace σ) {h : Handle} {i : Instance} (hi : i.type = (w.heap.get h).type) :
    w.Grows { w with heap := w.heap.set h i } := by
  refine ⟨.refl _, Nat.le_refl _, fun l _ => ?_⟩
  by_cases hl : l = h
  · rw [hl, Heap.get_set_self, hi]
  · rw [w.heap.get_set_of_ne i hl]

end Grows

end Workspace

/-- Whatever comes of it, the work leaves a grown workspace. -/
def Work.Steady {σ α : Type} (x : Work σ α) : Prop :=
  ∀ w : Workspace σ, w.Grows (x w).2

namespace Work.Steady

variable {σ α β : Type} {x : Work σ α} {f : α → Work σ β}

theorem pure (v : α) : Steady (Pure.pure v : Work σ α) :=
  fun w => .refl w

theorem throw (e : Error) : Steady (MonadExcept.throw e : Work σ α) :=
  fun w => .refl w

theorem get : Steady (MonadState.get : Work σ (Workspace σ)) :=
  fun w => .refl w

theorem bind (hx : Steady x) (hf : ∀ v, Steady (f v)) : Steady (x >>= f) := by
  intro w
  have hw := hx w
  rw [bind_apply]
  rcases hr : x w with ⟨e | v, u⟩ <;> rw [hr] at hw
  · exact hw
  · exact hw.trans (hf v u)

theorem adapt {g : Error → Error} (hx : Steady x) : Steady (x.adapt g) := by
  intro w
  rw [adapt_apply]
  exact hx w

theorem note (level : Level) (message : String) : Steady (Work.note level message : Work σ Unit) :=
  fun _ => .of_heap (fun _ _ h => h) rfl

theorem setValue (h : Handle) (field : String) (v : Value) :
    Steady (Work.setValue h field v : Work σ Unit) := by
  intro w
  unfold Work.setValue
  cases hs : (w.heap.get h).setValue field v with
  | error e => exact .refl w
  | ok i => exact .set w (Instance.type_of_setValue hs)

end Work.Steady

namespace Gateway

open Work (Steady)

variable {σ : Type} (g : Gateway σ)

theorem steady_resolve (t : EntityType) : Steady (g.resolve t) :=
  fun _ => .of_heap (Journal.resolve_grows _ _ _) rfl

theorem steady_announce : Steady g.announce :=
  .note _ _

theorem steady_execute (c : Command) : Steady (g.execute c) :=
  g.steady_announce.bind fun _ _ => .of_heap (.refl _) rfl

theorem steady_insert (c : Command) : Steady (g.insert c) :=
  g.steady_announce.bind fun _ _ => .of_heap (.refl _) rfl

theorem steady_transact (step : TransactionStep) : Steady (g.transact step) := by
  refine g.steady_announce.bind fun _ w => ?_
  dsimp only
  split <;> exact .of_heap (fun _ _ h => h) rfl

end Gateway

end EntityMapper
