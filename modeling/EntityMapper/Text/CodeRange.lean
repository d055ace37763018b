/-! Sets of code points given as lists of closed ranges. -/

namespace EntityMapper.Text

/-- A closed range of code points. -/
structure CodeRange where
  first : Nat
  last : Nat

/-- Builds the ranges of a table from the pairs of their ends. -/
def CodeRange.ofPairs (pairs : List (Nat × Nat)) : List CodeRange :=
  pairs.map fun p => ⟨p.1, p.2⟩

/-- Whether a code point lies in one of the ranges. -/
def CodeRange.covers (ranges : List CodeRange) (code : Nat) : Bool :=
  ranges.any fun r => r.first ≤ code && code ≤ r.last

theorem CodeRange.covers_iff (ranges : List CodeRange) (code : Nat) :
    CodeRange.covers ranges code = true ↔ ∃ r ∈ ranges, r.first ≤ code ∧ code ≤ r.last := by
  simp [CodeRange.covers]

end EntityMapper.Text
