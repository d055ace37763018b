/-! Blank characters and the words between them. -/

namespace EntityMapper.Text

/-- White space in the sense of the Unicode property of that name. -/
def isBlank (c : Char) : Bool :=
  let n := c.toNat
  (9 ≤ n && n ≤ 13) || n == 0x20 || n == 0x85 || n == 0xa0 || n == 0x1680
    || (0x2000 ≤ n && n ≤ 0x200a) || n == 0x2028 || n == 0x2029 || n == 0x202f
    || n == 0x205f || n == 0x3000

/-- Whether a text begins with a character that is not blank. -/
def beginsWord : List Char → Bool
  | [] => false
  | c :: _ => !isBlank c

/-- The longest runs of characters that are not blank, in order. -/
def words : List Char → List (List Char)
  | [] => []
  | c :: rest =>
    if isBlank c then words rest
    else if beginsWord rest then (words rest).modifyHead (c :: ·)
    else [c] :: words rest

theorem words_ne_nil_of_beginsWord {cs : List Char} (h : beginsWord cs = true) :
    words cs ≠ [] := by
  induction cs with
  | nil => simp [beginsWord] at h
  | cons c rest ih =>
    simp only [beginsWord, Bool.not_eq_true'] at h
    by_cases hr : beginsWord rest = true
    · have := ih hr
      cases hw : words rest with
      | nil => exact absurd hw this
      | cons w ws => simp [words, h, hr, hw]
    · simp [words, h, hr]

/-- Words hold no blank character, and none is empty. -/
theorem ne_nil_and_unblank_of_mem_words {cs : List Char} :
    ∀ w ∈ words cs, w ≠ [] ∧ ∀ c ∈ w, isBlank c = false := by
  induction cs with
  | nil => simp [words]
  | cons c rest ih =>
    intro w hw
    by_cases hb : isBlank c = true
    · simp only [words, hb, if_true] at hw
      exact ih w hw
    · have hb' : isBlank c = false := by simpa using hb
      by_cases hr : beginsWord rest = true
      · cases hws : words rest with
        | nil => exact absurd hws (words_ne_nil_of_beginsWord hr)
        | cons v vs =>
          simp only [words, hb', hr, hws, if_true, List.modifyHead_cons, List.mem_cons,
            Bool.false_eq_true, if_false] at hw
          rcases hw with rfl | hw
          · have hv := ih v (by simp [hws])
            exact ⟨by simp, by simpa [hb'] using hv.2⟩
          · exact ih w (by simp [hws, hw])
      · simp only [words, hb', hr, if_false, Bool.false_eq_true, List.mem_cons] at hw
        rcases hw with rfl | hw
        · exact ⟨by simp, by simp [hb']⟩
        · exact ih w hw

example : words "  a bc\t d ".toList = [['a'], ['b', 'c'], ['d']] := by decide

end EntityMapper.Text
