import EntityMapper.Proofs.Flush.Storing
/-! Touching: an action that is performed changes no shared instance but its own, and that one goes
on holding what its type shows. -/

namespace EntityMapper

/-- Instances go on holding what their types show when a value is put into a field of one. -/
theorem Heap.Fits.setValue {c : Catalogue} {h : Heap} (hf : h.Fits c) (hc : c.Formed) {k : Handle}
    {field : String} {v : Value} {i : Instance} (hi : (h.get k).setValue field v = .ok i) :
    (h.set k i).Fits c := by
  intro l hl
  obtain ⟨htype, hfits⟩ := hf l hl
  by_cases hk : l = k
  · subst hk
    rw [Heap.get_set_self, Instance.type_of_setValue hi]
    exact ⟨htype, Instance.fits_of_setValue (hc.types _ htype) hfits hi⟩
  · rw [Heap.get_set_of_ne h i hk]
    exact ⟨htype, hfits⟩

namespace Gateway

variable {σ : Type} (g : Gateway σ) {l : Handle}

theorem get_persist_of_ne {h : Handle} (hl : l ≠ h) (w : Workspace σ) :
    (g.persist h w).2.heap.get l = w.heap.get l := by
  rw [persist_apply]
  rcases hr : g.resolve (w.heap.get h).type w with ⟨e | m, v⟩ <;>
    obtain ⟨-, rfl⟩ := Prod.mk.inj hr
  · rfl
  dsimp only
  split
  · rfl
  split
  · rfl
  split
  · rfl
  · exact Heap.get_set_of_ne _ _ hl

theorem heap_update (e : Entry) (expected : Value) (w : Workspace σ) :
    (g.update e expected w).2.heap = w.heap := by
  obtain ⟨hframe, -⟩ := g.resolveKey_frame e.key w
  rw [update_apply]
  rcases hr : g.resolveKey e.key w with ⟨f | m, v⟩ <;> rw [hr] at hframe
  · exact hframe
  dsimp only
  split
  · exact hframe
  split
  · exact hframe
  split
  · exact hframe
  · exact hframe

theorem heap_remove (k : EntityKey) (w : Workspace σ) : (g.remove k w).2.heap = w.heap := by
  obtain ⟨hframe, -⟩ := g.resolveKey_frame k w
  rw [remove_apply]
  rcases hr : g.resolveKey k w with ⟨f | m, v⟩ <;> rw [hr] at hframe
  · exact hframe
  dsimp only
  split
  · exact hframe
  split
  · exact hframe
  · exact hframe

theorem get_writeVersion_of_ne {e : Entry} (hl : l ≠ e.handle) (next : Option Value)
    (w : Workspace σ) : (writeVersion e next w).2.heap.get l = w.heap.get l := by
  rw [writeVersion_apply]
  split
  · rw [setValue_apply]
    split
    · exact Heap.get_set_of_ne _ _ hl
    · rfl
  · rfl

/-- What is not the instance of an action stays as it is when the action is performed. -/
theorem get_perform_of_ne {a : Action} (hl : a.handle? ≠ some l) (o : Outcome) (w : Workspace σ) :
    (g.perform a o w).2.heap.get l = w.heap.get l := by
  cases a with
  | persist h instant =>
    have hget := g.get_persist_of_ne (fun heq => hl (congrArg some heq.symm)) w (h := h)
    rw [perform_persist_apply]
    rcases hr : g.persist h w with ⟨e | entry, v⟩ <;> rw [hr] at hget <;> exact hget
  | merge entry expected =>
    have hheap := g.heap_update entry expected w
    rw [perform_merge_apply]
    rcases hr : g.update entry expected w with ⟨e | next, v⟩ <;> rw [hr] at hheap
    · exact congrArg (·.get l) hheap
    · dsimp only
      rw [get_writeVersion_of_ne fun heq => hl (congrArg some heq.symm)]
      exact congrArg (·.get l) hheap
  | remove entry =>
    have hheap := g.heap_remove entry.key w
    rw [perform_remove_apply]
    rcases hr : g.remove entry.key w with ⟨e | u, v⟩ <;> rw [hr] at hheap <;>
      exact congrArg (·.get l) hheap

/-- A drain changes no instances but those of its actions. -/
theorem get_performAll_of_ne {as : List Action} (hl : ∀ a ∈ as, a.handle? ≠ some l) (o : Outcome)
    (w : Workspace σ) : (g.performAll as o w).2.heap.get l = w.heap.get l := by
  induction as generalizing o w with
  | nil => rfl
  | cons a rest ih =>
    have hget := g.get_perform_of_ne (hl a List.mem_cons_self) o w
    rcases hr : g.perform a o w with ⟨⟨e | u, written⟩, v⟩ <;> rw [hr] at hget
    · rw [g.performAll_of_error hr]
      exact hget
    · rw [g.performAll_of_ok hr]
      exact (ih (fun b hb => hl b (List.mem_cons_of_mem a hb)) written v).trans hget

section Fitting

variable (hc : g.catalogue.Formed) {w : Workspace σ} (hw : w.heap.Fits g.catalogue)

include hc hw

theorem fits_setValue (h : Handle) (field : String) (v : Value) :
    (Work.setValue h field v w).2.heap.Fits g.catalogue := by
  rw [setValue_apply]
  split
  · rename_i i hi
    exact hw.setValue hc hi
  · exact hw

theorem fits_persist (h : Handle) : (g.persist h w).2.heap.Fits g.catalogue := by
  rw [persist_apply]
  rcases hr : g.resolve (w.heap.get h).type w with ⟨e | m, v⟩ <;>
    obtain ⟨-, rfl⟩ := Prod.mk.inj hr
  · exact hw
  dsimp only
  split
  · exact hw
  split
  · exact hw
  split
  · exact hw
  · rename_i i hi
    exact hw.setValue hc hi

theorem fits_writeVersion (e : Entry) (next : Option Value) :
    (writeVersion e next w).2.heap.Fits g.catalogue := by
  rw [writeVersion_apply]
  split
  · exact g.fits_setValue hc hw _ _ _
  · exact hw

/-- Performing an action leaves all instances within their types. -/
theorem fits_perform (a : Action) (o : Outcome) :
    (g.perform a o w).2.heap.Fits g.catalogue := by
  cases a with
  | persist h instant =>
    have hfits := g.fits_persist hc hw h
    rw [perform_persist_apply]
    rcases hr : g.persist h w with ⟨e | entry, v⟩ <;> rw [hr] at hfits <;> exact hfits
  | merge entry expected =>
    have hheap := g.heap_update entry expected w
    rw [perform_merge_apply]
    rcases hr : g.update entry expected w with ⟨e | next, v⟩ <;> rw [hr] at hheap
    · rw [show v.heap = w.heap from hheap]
      exact hw
    · exact g.fits_writeVersion hc (by rw [show v.heap = w.heap from hheap]; exact hw) entry next
  | remove entry =>
    have hheap := g.heap_remove entry.key w
    rw [perform_remove_apply]
    rcases hr : g.remove entry.key w with ⟨e | u, v⟩ <;> rw [hr] at hheap <;>
      exact (congrArg (·.Fits g.catalogue) hheap).mpr hw

omit hw in
/-- So does a drain. -/
theorem fits_performAll (as : List Action) (o : Outcome) {w : Workspace σ}
    (hw : w.heap.Fits g.catalogue) : (g.performAll as o w).2.heap.Fits g.catalogue := by
  induction as generalizing o w with
  | nil => exact hw
  | cons a rest ih =>
    have hfits := g.fits_perform hc hw a o
    rcases hr : g.perform a o w with ⟨⟨e | u, written⟩, v⟩ <;> rw [hr] at hfits
    · rw [g.performAll_of_error hr]
      exact hfits
    · rw [g.performAll_of_ok hr]
      exact ih written hfits

end Fitting

end Gateway

end EntityMapper
