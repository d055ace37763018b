/-! Signed integers of the four widths that a column can hold. -/

namespace EntityMapper

/-- A power is the one its type computes, also where the power of a monoid is in scope. -/
@[default_instance 20000]
instance (priority := 20000) computedPow {α : Type} [NatPow α] : Pow α Nat :=
  instPowNat

/-- The width of a signed integer. -/
inductive IntWidth where
  | tiny
  | small
  | medium
  | big
  deriving DecidableEq, Repr

namespace IntWidth

def bits : IntWidth → Nat
  | tiny => 8
  | small => 16
  | medium => 32
  | big => 64

/-- The least number above the range of a width. -/
def bound (w : IntWidth) : Int :=
  2 ^ (w.bits - 1)

/-- A number lies in the range of a width. -/
def Holds (w : IntWidth) (n : Int) : Prop :=
  -w.bound ≤ n ∧ n < w.bound

instance (w : IntWidth) : DecidablePred w.Holds :=
  fun _ => inferInstanceAs (Decidable (_ ∧ _))

theorem holds_zero (w : IntWidth) : w.Holds 0 := by
  cases w <;> decide

theorem holds_one (w : IntWidth) : w.Holds 1 := by
  cases w <;> decide

theorem holds_least : big.Holds (-9223372036854775808) := by
  decide

theorem holds_greatest : big.Holds 9223372036854775807 := by
  decide

theorem bound_le_big (w : IntWidth) : w.bound ≤ big.bound := by
  cases w <;> decide

theorem Holds.big {w : IntWidth} {n : Int} (h : w.Holds n) : big.Holds n := by
  have := bound_le_big w
  exact ⟨by have := h.1; omega, by have := h.2; omega⟩

end IntWidth

/-- An integer in the range of a width. -/
structure SizedInt (w : IntWidth) where
  val : Int
  holds : w.Holds val
  deriving DecidableEq

namespace SizedInt

/-- A number as an integer of a width, if it lies in the range. -/
def ofInt? (w : IntWidth) (n : Int) : Option (SizedInt w) :=
  if h : w.Holds n then some ⟨n, h⟩ else none

def widen {w : IntWidth} (n : SizedInt w) : SizedInt .big :=
  ⟨n.val, n.holds.big⟩

/-- The number one above, unless the range ends there. -/
def succ? {w : IntWidth} (n : SizedInt w) : Option (SizedInt w) :=
  ofInt? w (n.val + 1)

theorem ofInt?_eq_some_iff {w : IntWidth} {n : Int} {m : SizedInt w} :
    ofInt? w n = some m ↔ m.val = n := by
  unfold ofInt?
  split
  · rename_i h
    constructor
    · rintro ⟨⟩; rfl
    · rintro rfl; rfl
  · rename_i h
    simp only [false_iff, reduceCtorEq]
    rintro rfl
    exact h m.holds

@[simp] theorem ofInt?_val {w : IntWidth} (m : SizedInt w) : ofInt? w m.val = some m :=
  ofInt?_eq_some_iff.2 rfl

theorem ofInt?_eq_none_iff {w : IntWidth} {n : Int} : ofInt? w n = none ↔ ¬ w.Holds n := by
  unfold ofInt?
  split <;> simp [*]

@[simp] theorem widen_val {w : IntWidth} (n : SizedInt w) : n.widen.val = n.val := rfl

theorem succ?_eq_some_iff {w : IntWidth} {n m : SizedInt w} :
    n.succ? = some m ↔ m.val = n.val + 1 :=
  ofInt?_eq_some_iff

example : ofInt? .tiny 128 = none := by decide
example : (SizedInt.mk 127 (by decide) : SizedInt .tiny).succ? = none := by decide

end SizedInt

end EntityMapper
