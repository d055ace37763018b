import EntityMapper.Entity.Metadata
import EntityMapper.Proofs.Text.ByteOrder
import Mathlib.Data.List.Sort
/-! Ordering by name: what a list is that was ordered by the bytes of names. -/

namespace EntityMapper

variable {α : Type} {name : α → String} {l : List α}

/-- The second list has the elements of the first one, ordered by the bytes of their names. Those
with one name are in the order of the first list. -/
structure OrderedByName (name : α → String) (l ordered : List α) : Prop where
  perm : ordered.Perm l
  sorted : ordered.Pairwise fun a b => ¬ Text.bytes (name b) < Text.bytes (name a)
  stable : ∀ n, ordered.filter (name · == n) = l.filter (name · == n)

/-- The first of two elements need not come after the second one. -/
def NotAfter (name : α → String) (a b : α) : Prop :=
  ¬ name b < name a

instance (name : α → String) : DecidableRel (NotAfter name) :=
  fun a b => inferInstanceAs (Decidable (¬ name b < name a))

instance (name : α → String) : Std.Total (NotAfter name) :=
  ⟨fun a b => String.le_total (name a) (name b)⟩

instance (name : α → String) : IsTrans α (NotAfter name) :=
  ⟨fun _ _ _ hab hbc => String.le_trans hab hbc⟩

theorem insertByName_eq (a : α) (l : List α) :
    insertByName name a l = l.orderedInsert (NotAfter name) a := by
  induction l with
  | nil => rfl
  | cons b l ih =>
    rw [insertByName, List.orderedInsert_cons, ih]
    by_cases h : name b < name a
    · rw [if_pos h, if_neg (fun hnot : NotAfter name a b => hnot h)]
    · rw [if_neg h, if_pos (show NotAfter name a b from h)]

theorem sortByName_eq (l : List α) : sortByName name l = l.insertionSort (NotAfter name) := by
  induction l with
  | nil => rfl
  | cons a l ih => rw [sortByName, List.insertionSort_cons, insertByName_eq, ih]

/-- Elements of one name keep their order when another element is put among them. -/
theorem filter_insertByName (a : α) (l : List α) (n : String) :
    (insertByName name a l).filter (name · == n) = (a :: l).filter (name · == n) := by
  induction l with
  | nil => rfl
  | cons b l ih =>
    unfold insertByName
    split
    · rename_i hba
      -- An element that is passed over has another name.
      have hne : name b ≠ name a := fun heq => String.lt_irrefl _ (heq ▸ hba)
      by_cases hb : name b = n
      · have ha : (name a == n) = false := by
          rw [beq_eq_false_iff_ne, ← hb]
          exact hne.symm
        simp [ih, hb, ha]
      · simp [ih, List.filter_cons, hb]
    · rfl

theorem orderedByName_sortByName (name : α → String) (l : List α) :
    OrderedByName name l (sortByName name l) where
  perm := by
    rw [sortByName_eq]
    exact List.perm_insertionSort _ l
  sorted := by
    rw [sortByName_eq]
    refine (List.pairwise_insertionSort (NotAfter name) l).imp fun h => ?_
    rw [Text.bytes_lt_iff]
    exact h
  stable n := by
    induction l with
    | nil => rfl
    | cons a l ih => rw [sortByName, filter_insertByName, List.filter_cons, List.filter_cons, ih]

end EntityMapper
