import EntityMapper.Proofs.Flush.Carrying
/-! Accepted updates: what is left of a drain of nothing but UPDATEs when the store carries out all
of them. It is told entity by entity, whatever the order of the UPDATEs. -/

namespace EntityMapper

variable {σ : Type}

/-- The instance with the version that its row has now, if its type has a version. -/
def Instance.advanced (i : Instance) (next : Option Value) : Except Error Instance :=
  match next, i.type.versionField? with
  | some v, some f => i.setValue f.name v
  | _, _ => .ok i

namespace Workspace

/-- An UPDATE that the store carries out: its statement, and what its instance is then or why it
cannot be that. -/
def carriedOut? (w : Workspace σ) (e : Entry) (expected : Value) :
    Option (Command × Except Error Instance) :=
  (w.journal.registry.find? (w.heap.get e.handle).type.path).bind fun m =>
    (m.updateOf (some expected) e.key.id (w.heap.get e.handle).fieldValue).toOption.map fun plan =>
      (plan.command, (w.heap.get e.handle).advanced plan.nextVersion)

variable {w v : Workspace σ} {e : Entry} {x : Value}

/-- It depends on nothing but the instance and what is resolved. -/
theorem carriedOut?_congr (hheap : v.heap.get e.handle = w.heap.get e.handle)
    (hregistry : v.journal.registry = w.journal.registry) :
    v.carriedOut? e x = w.carriedOut? e x := by
  unfold carriedOut?
  rw [hheap, hregistry]

end Workspace

namespace Gateway

/-- A version is put into an instance as it advances. -/
theorem writeVersion_advanced (e : Entry) (next : Option Value) (w : Workspace σ) :
    (writeVersion e next w).1 = ((w.heap.get e.handle).advanced next).map (fun _ => ()) ∧
      (writeVersion e next w).2.heap.get e.handle =
        ((w.heap.get e.handle).advanced next).toOption.getD (w.heap.get e.handle) ∧
      (writeVersion e next w).2.journal = w.journal := by
  rw [writeVersion_apply]
  unfold Instance.advanced
  cases next with
  | none => exact ⟨rfl, rfl, rfl⟩
  | some v =>
    cases (w.heap.get e.handle).type.versionField? with
    | none => exact ⟨rfl, rfl, rfl⟩
    | some f =>
      dsimp only
      rw [setValue_apply]
      cases (w.heap.get e.handle).setValue f.name v with
      | error fault => exact ⟨rfl, rfl, rfl⟩
      | ok i => exact ⟨rfl, Heap.get_set_self _ _ _, rfl⟩

variable (g : Gateway σ)

/-- An UPDATE was carried out: it was sent, it is recorded, and its instance has the version of the
row, or the drain fails because it cannot have it. -/
structure CarriedOut (w : Workspace σ) (o : Outcome) (e : Entry) (y : Exchange) (c : Command)
    (b : Except Error Instance) (run : (Except Error Unit × Outcome) × Workspace σ) : Prop where
  sent : run.2.transcript = w.transcript ++ [y]
  command : y.command = c
  accepted : y.isAcceptedWrite = true
  result : run.1 = (b.map fun _ => (), { o with merged := o.merged ++ [e] })
  written : run.2.heap.get e.handle = b.toOption.getD (w.heap.get e.handle)
  registry : run.2.journal.registry = w.journal.registry

/-- An UPDATE fails without any statement that is carried out, or it is carried out. -/
theorem failed_or_carriedOut {e : Entry} {w : Workspace σ} (he : e.Ready w) (x : Value)
    (o : Outcome) :
    (∃ f xs, (g.perform (.merge e x) o w).1 = (.error f, o) ∧
      (g.perform (.merge e x) o w).2.transcript = w.transcript ++ xs ∧
      ∀ y ∈ xs, y.isAcceptedWrite = false) ∨
    ∃ y c b, w.carriedOut? e x = some (c, b) ∧
      CarriedOut w o e y c b (g.perform (.merge e x) o w) := by
  obtain ⟨m, hm⟩ := he.resolved
  rw [perform_merge_apply, update_apply, he.toSound.resolveKey g hm]
  unfold Workspace.carriedOut?
  rw [hm, Option.bind_some]
  dsimp only
  cases m.updateOf (some x) e.key.id (w.heap.get e.handle).fieldValue with
  | error fault => exact .inl ⟨_, [], rfl, (List.append_nil _).symm, by simp⟩
  | ok plan =>
    dsimp only
    have hsent := g.transcript_sent (w := w) rfl
    cases (g.connection.execute plan.command w.store).1 with
    | error f => exact .inl ⟨_, _, rfl, hsent _ _, by simp [Exchange.isAcceptedWrite]⟩
    | ok n =>
      dsimp only
      by_cases hn : n = 0
      · simp only [hn, if_true]
        exact .inl ⟨_, _, rfl, hsent _ _, by simp [Exchange.isAcceptedWrite]⟩
      · simp only [hn, if_false]
        obtain ⟨hresult, hwritten, hjournal⟩ := writeVersion_advanced e plan.nextVersion
          ((g.announced w).exchanged (.execute plan.command (.ok n))
            (g.connection.execute plan.command w.store).2)
        refine .inr ⟨.execute plan.command (.ok n), _, _, rfl, ?_, rfl,
          decide_eq_true (Nat.pos_of_ne_zero hn), Prod.ext hresult rfl, hwritten,
          (congrArg Journal.registry hjournal).trans rfl⟩
        rw [transcript_writeVersion]
        exact hsent _ _

/-- All UPDATEs of a drain were carried out. It fails only as one of them cannot put the version of
its row into its instance. -/
structure AllCarriedOut (w : Workspace σ) (dirty : List (Entry × Value)) (o : Outcome)
    (xs : List Exchange) (d : Drained) (v : Workspace σ) : Prop where
  commands : xs.map (some ·.command) =
    dirty.map fun p => (w.carriedOut? p.1 p.2).map Prod.fst
  failed : ∀ f, d.result = .error f ↔ ∃ p ∈ dirty, ∃ c, w.carriedOut? p.1 p.2 = some (c, .error f)
  left : d.left = []
  outcome : d.outcome = { o with merged := o.merged ++ dirty.map (·.1) }
  written : ∀ p ∈ dirty, v.heap.get p.1.handle =
    ((w.carriedOut? p.1 p.2).bind fun b => b.2.toOption).getD (w.heap.get p.1.handle)
  registry : v.journal.registry = w.journal.registry

/-- A drain says more than was said before. -/
theorem prefix_performAll (as : List Action) (o : Outcome) (w : Workspace σ) :
    w.transcript <+: (g.performAll as o w).2.transcript := by
  induction as generalizing o w with
  | nil => exact List.prefix_refl _
  | cons a rest ih =>
    have hsaid : w.transcript <+: (g.perform a o w).2.transcript := by
      rw [g.transcript_perform_request]
      exact List.prefix_append _ _
    rcases hr : g.perform a o w with ⟨⟨e | u, written⟩, v⟩ <;> rw [hr] at hsaid
    · rw [g.performAll_of_error hr]
      exact hsaid
    · rw [g.performAll_of_ok hr]
      exact hsaid.trans (ih written v)

namespace AllCarriedOut

variable {w v u : Workspace σ} {p : Entry × Value} {dirty : List (Entry × Value)} {o : Outcome}
  {y : Exchange} {c : Command} {ys : List Exchange} {d : Drained}

/-- The first UPDATE was carried out and its instance left alone afterwards, and so were the
others, which are of other instances. -/
theorem cons {i : Instance} (hb : w.carriedOut? p.1 p.2 = some (c, .ok i))
    (hfirst : CarriedOut w o p.1 y c (.ok i) ((.ok (), { o with merged := o.merged ++ [p.1] }), v))
    (hothers : ∀ q ∈ dirty, v.heap.get q.1.handle = w.heap.get q.1.handle)
    (hstays : u.heap.get p.1.handle = v.heap.get p.1.handle)
    (hrest : AllCarriedOut v dirty { o with merged := o.merged ++ [p.1] } ys d u) :
    AllCarriedOut w (p :: dirty) o (y :: ys) d u := by
  have hsame : ∀ q ∈ dirty, v.carriedOut? q.1 q.2 = w.carriedOut? q.1 q.2 := fun q hq =>
    Workspace.carriedOut?_congr (hothers q hq) hfirst.registry
  refine ⟨?_, fun f => ?_, hrest.left, ?_, List.forall_mem_cons.mpr ⟨?_, fun q hq => ?_⟩,
    hrest.registry.trans hfirst.registry⟩
  · rw [List.map_cons, List.map_cons, hrest.commands, hb, ← hfirst.command]
    refine congrArg _ (List.map_congr_left fun q hq => ?_)
    rw [hsame q hq]
  · rw [hrest.failed, List.exists_mem_cons_iff, or_iff_right (by simp [hb])]
    refine exists_congr fun q => and_congr_right fun hq => ?_
    rw [hsame q hq]
  · rw [hrest.outcome, List.map_cons, List.append_assoc]
    rfl
  · rw [hb, hstays]
    exact hfirst.written
  · rw [hrest.written q hq, hsame q hq, hothers q hq]

/-- The only UPDATE was carried out, but its instance cannot have the version of the row. -/
theorem stop {f : Error} (hb : w.carriedOut? p.1 p.2 = some (c, .error f))
    (hfirst : CarriedOut w o p.1 y c (.error f)
      ((.error f, { o with merged := o.merged ++ [p.1] }), v)) (level : Level) (message : String) :
    AllCarriedOut w [p] o [y] ⟨.error f, [], { o with merged := o.merged ++ [p.1] }⟩
      (v.note level message) := by
  refine ⟨by simp [hb, hfirst.command], fun f' => by simp [hb, eq_comm], rfl, rfl, ?_,
    hfirst.registry⟩
  exact List.forall_mem_singleton.mpr (by rw [hb]; exact hfirst.written)

/-- What was carried out does not depend on the order. -/
theorem perm {dirty' : List (Entry × Value)} {w' v' : Workspace σ} {o' : Outcome}
    {xs : List Exchange} {d' : Drained} (h : AllCarriedOut w dirty o ys d v)
    (h' : AllCarriedOut w' dirty' o' xs d' v') (hperm : dirty.Perm dirty')
    (hsame : ∀ q : Entry × Value, w.carriedOut? q.1 q.2 = w'.carriedOut? q.1 q.2) :
    (ys.map (·.command)).Perm (xs.map (·.command)) ∧ d.result = d'.result := by
  constructor
  · have hcommands := hperm.map fun q => (w.carriedOut? q.1 q.2).map Prod.fst
    rw [← h.commands] at hcommands
    simp only [hsame] at hcommands
    rw [← h'.commands] at hcommands
    refine (List.map_perm_map_iff fun _ _ => Option.some.inj).mp ?_
    rw [List.map_map, List.map_map]
    exact hcommands
  · have hfailed (f : Error) : d.result = .error f ↔ d'.result = .error f := by
      rw [h.failed, h'.failed]
      simp only [hperm.mem_iff, hsame]
    rcases hr : d.result with f | u
    · exact ((hfailed f).mp hr).symm
    · rcases hr' : d'.result with f | u'
      · cases ((hfailed f).mpr hr').symm.trans hr
      · rfl

end AllCarriedOut

/-- A drain of which every statement is accepted, and that sends one, carries out the UPDATE that it
begins with. -/
theorem carriedOut_of_accepted {e : Entry} {x : Value} {as : List Action} {o : Outcome}
    {w : Workspace σ} (he : e.Ready w) {xs : List Exchange}
    (hxs : (g.performAll (.merge e x :: as) o w).2.transcript = w.transcript ++ xs)
    (hne : xs ≠ []) (haccepted : ∀ y ∈ xs, y.isAcceptedWrite = true) :
    ∃ y c b, w.carriedOut? e x = some (c, b) ∧
      CarriedOut w o e y c b (g.perform (.merge e x) o w) := by
  rcases g.failed_or_carriedOut he x o with ⟨f, ys, hfailed, hys, hrefused⟩ | hcarried
  · rcases hr : g.perform (.merge e x) o w with ⟨⟨r, written⟩, v⟩
    rw [hr] at hfailed hys
    obtain ⟨rfl, rfl⟩ := Prod.mk.inj hfailed
    rw [g.performAll_of_error hr] at hxs
    obtain rfl := List.append_cancel_left (hxs.symm.trans hys)
    obtain ⟨y, hy⟩ := List.exists_mem_of_ne_nil xs hne
    exact absurd (haccepted y hy) (by simp [hrefused y hy])
  · exact hcarried

/-- When the store carries out as many UPDATEs as there are, it carries out all of them. -/
theorem allCarriedOut_performAll {dirty : List (Entry × Value)}
    (hdistinct : (dirty.map (·.1.handle)).Nodup) {o : Outcome} {w : Workspace σ}
    (hready : ∀ p ∈ dirty, p.1.Ready w) {xs : List Exchange}
    (hxs : (g.performAll (dirty.map fun p => .merge p.1 p.2) o w).2.transcript =
      w.transcript ++ xs)
    (hlength : xs.length = dirty.length) (haccepted : ∀ x ∈ xs, x.isAcceptedWrite = true) :
    AllCarriedOut w dirty o xs (g.performAll (dirty.map fun p => .merge p.1 p.2) o w).1
      (g.performAll (dirty.map fun p => .merge p.1 p.2) o w).2 := by
  induction dirty generalizing o w xs with
  | nil =>
    obtain rfl := List.eq_nil_of_length_eq_zero hlength
    exact ⟨rfl, fun f => ⟨nofun, by simp⟩, rfl, by simp [performAll], by simp, rfl⟩
  | cons p dirty ih =>
    obtain ⟨hp, hdirty⟩ := List.forall_mem_cons.mp hready
    obtain ⟨hnot, hdistinct⟩ := List.nodup_cons.mp hdistinct
    have hg := g.steady_perform (.merge p.1 p.2) o w
    rw [List.map_cons] at hxs ⊢
    obtain ⟨y, c, b, hb, hcarried⟩ := g.carriedOut_of_accepted hp hxs
      (List.ne_nil_of_length_pos (hlength ▸ Nat.succ_pos _)) haccepted
    have hothers : ∀ q ∈ dirty, (g.perform (.merge p.1 p.2) o w).2.heap.get q.1.handle =
        w.heap.get q.1.handle := fun q hq =>
      g.get_perform_of_ne (a := .merge p.1 p.2)
        (fun heq => hnot (List.mem_map.mpr ⟨q, hq, (Option.some.inj heq).symm⟩)) o w
    rcases hr : g.perform (.merge p.1 p.2) o w with ⟨⟨r, written⟩, v⟩
    rw [hr] at hg hcarried hothers
    obtain ⟨rfl, rfl⟩ := Prod.mk.inj hcarried.result
    have hsent : v.transcript = w.transcript ++ [y] := hcarried.sent
    cases b with
    | error f =>
      -- The drain ends here, so that nothing else waited.
      rw [g.performAll_of_error (e := f) hr] at hxs ⊢
      obtain rfl := List.append_cancel_left (hxs.symm.trans hsent)
      obtain rfl := List.eq_nil_of_length_eq_zero (Nat.succ.inj hlength).symm
      rw [List.map_nil, if_neg (by simp [Outcome.size])]
      exact .stop hb hcarried _ _
    | ok i =>
      rw [g.performAll_of_ok hr] at hxs ⊢
      obtain ⟨ys, hys⟩ := g.prefix_performAll (dirty.map fun p => .merge p.1 p.2)
        { o with merged := o.merged ++ [p.1] } v
      obtain rfl : xs = y :: ys := by
        refine List.append_cancel_left (hxs.symm.trans (hys.symm.trans ?_))
        rw [hsent, List.append_assoc]
        rfl
      have hrest := ih hdistinct (fun q hq => (hdirty q hq).mono hg) hys.symm
        (Nat.succ.inj hlength) fun x hx => haccepted x (List.mem_cons_of_mem y hx)
      refine .cons hb hcarried hothers (g.get_performAll_of_ne (fun a ha heq => ?_) _ v) hrest
      obtain ⟨q, hq, rfl⟩ := List.mem_map.mp ha
      exact hnot (List.mem_map.mpr ⟨q, hq, Option.some.inj heq⟩)

end Gateway

end EntityMapper
