/-! Comparing texts without regard to the case of ASCII letters. -/

namespace EntityMapper.Text

/-- Two texts are alike when they differ at most in the case of ASCII letters. -/
def alike (a b : List Char) : Bool :=
  a.map Char.toLower == b.map Char.toLower

/-- `alike` on strings. -/
def alikeText (a b : String) : Bool :=
  alike a.toList b.toList

@[simp] theorem alike_refl (a : List Char) : alike a a = true := by
  simp [alike]

theorem alike_comm (a b : List Char) : alike a b = alike b a := by
  simp [alike, Bool.beq_comm]

theorem alike_trans {a b c : List Char} (hab : alike a b = true) (hbc : alike b c = true) :
    alike a c = true := by
  simp only [alike, beq_iff_eq] at *
  rw [hab, hbc]

example : alikeText "Where" "wHERE" = true := by decide
example : alikeText "É" "é" = false := by decide

end EntityMapper.Text
