/-! Finite maps as lists of pairs, in the order in which the keys came. -/

namespace EntityMapper

/-- A finite map. Of two pairs with equal keys only the first one counts. -/
structure Assoc (κ : Type) (α : Type) where
  entries : List (κ × α) := []
  deriving Inhabited

namespace Assoc

variable {κ α : Type} [BEq κ]

def empty : Assoc κ α := ⟨[]⟩

def find? (m : Assoc κ α) (k : κ) : Option α :=
  (m.entries.find? (·.1 == k)).map (·.2)

def contains (m : Assoc κ α) (k : κ) : Bool :=
  (m.find? k).isSome

/-- The pairs with the value of a key put in its place, or at the end. -/
def insertEntry (k : κ) (a : α) : List (κ × α) → List (κ × α)
  | [] => [(k, a)]
  | (l, b) :: rest => if l == k then (l, a) :: rest else (l, b) :: insertEntry k a rest

def insert (m : Assoc κ α) (k : κ) (a : α) : Assoc κ α :=
  ⟨insertEntry k a m.entries⟩

/-- Gives a key a value unless it has one. -/
def insertNew (m : Assoc κ α) (k : κ) (a : α) : Assoc κ α :=
  if m.contains k then m else ⟨m.entries ++ [(k, a)]⟩

def erase (m : Assoc κ α) (k : κ) : Assoc κ α :=
  ⟨m.entries.eraseP (·.1 == k)⟩

def keys (m : Assoc κ α) : List κ :=
  m.entries.map (·.1)

def values (m : Assoc κ α) : List α :=
  m.entries.map (·.2)

def size (m : Assoc κ α) : Nat :=
  m.entries.length

@[simp] theorem find?_empty (k : κ) : (empty : Assoc κ α).find? k = none := rfl

theorem find?_insertEntry_self (k : κ) (a : α) (hk : (k == k) = true) (es : List (κ × α)) :
    ((insertEntry k a es).find? (·.1 == k)).map (·.2) = some a := by
  induction es with
  | nil => simp [insertEntry, hk]
  | cons e es ih =>
    obtain ⟨l, b⟩ := e
    by_cases h : (l == k) = true
    · simp [insertEntry, h]
    · simpa [insertEntry, h, List.find?_cons] using ih

/-- A key just given a value has that value. -/
theorem find?_insert_self (m : Assoc κ α) (k : κ) (a : α) (hk : (k == k) = true) :
    (m.insert k a).find? k = some a :=
  find?_insertEntry_self k a hk m.entries

theorem find?_insertEntry_of_ne (k k' : κ) (a : α) (hne : ∀ l : κ, (l == k) = true →
    (l == k') = false) (hk : (k == k') = false) (es : List (κ × α)) :
    (insertEntry k a es).find? (·.1 == k') = es.find? (·.1 == k') := by
  induction es with
  | nil => simp [insertEntry, hk]
  | cons e es ih =>
    obtain ⟨l, b⟩ := e
    by_cases h : (l == k) = true
    · simp [insertEntry, h, hne l h]
    · simp only [insertEntry, h, Bool.false_eq_true, if_false, List.find?_cons]
      cases hl : l == k' <;> simp [ih]

/-- Other keys keep their values. -/
theorem find?_insert_of_ne [LawfulBEq κ] (m : Assoc κ α) {k k' : κ} (hkk' : k ≠ k') {a : α} :
    (m.insert k a).find? k' = m.find? k' := by
  unfold find? insert
  rw [find?_insertEntry_of_ne]
  · intro l hl
    simpa [eq_of_beq hl] using hkk'
  · simpa using hkk'

end Assoc

end EntityMapper
