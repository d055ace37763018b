import EntityMapper.Text.Ascii
/-! Tokens of a query: the punctuation around them and the segments of a path. -/

namespace EntityMapper

abbrev Token := List Char

namespace Token

/-- A token in three parts: opening parentheses, a core, and commas and closing parentheses. -/
structure Parts where
  before : Token
  core : Token
  after : Token
  deriving DecidableEq

def closes (c : Char) : Bool :=
  c == ',' || c == ')'

def parts (t : Token) : Parts :=
  let rest := t.dropWhile (· == '(')
  { before := t.takeWhile (· == '(')
    core := (rest.reverse.dropWhile closes).reverse
    after := (rest.reverse.takeWhile closes).reverse }

def withCore (t : Token) (core : Token) : Token :=
  t.parts.before ++ core ++ t.parts.after

def segments : Token → List Token
  | [] => [[]]
  | c :: rest => if c = '.' then [] :: segments rest else (segments rest).modifyHead (c :: ·)

/-- The parts of a token make up the token. -/
theorem parts_join (t : Token) : t.parts.before ++ t.parts.core ++ t.parts.after = t := by
  have h : ∀ l : List Char, (l.reverse.dropWhile closes).reverse ++
      (l.reverse.takeWhile closes).reverse = l := by
    intro l
    rw [← List.reverse_append, List.takeWhile_append_dropWhile, List.reverse_reverse]
  simp only [parts, List.append_assoc, h, List.takeWhile_append_dropWhile]

@[simp] theorem withCore_core (t : Token) : t.withCore t.parts.core = t :=
  parts_join t

theorem segments_ne_nil (t : Token) : segments t ≠ [] := by
  induction t with
  | nil => simp [segments]
  | cons c rest ih =>
    by_cases h : c = '.'
    · simp [segments, h]
    · cases hs : segments rest with
      | nil => exact absurd hs ih
      | cons s ss => simp [segments, h, hs]

/-- The segments with dots between them make up the path. -/
theorem intercalate_segments (t : Token) : List.intercalate ['.'] (segments t) = t := by
  induction t with
  | nil => simp [segments, List.intercalate]
  | cons c rest ih =>
    by_cases h : c = '.'
    · subst h
      cases hs : segments rest with
      | nil => exact absurd hs (segments_ne_nil rest)
      | cons s ss =>
        rw [hs] at ih
        simp [segments, hs, List.intercalate, List.intersperse_cons_cons] at ih ⊢
        exact ih
    · cases hs : segments rest with
      | nil => exact absurd hs (segments_ne_nil rest)
      | cons s ss =>
        rw [hs] at ih
        cases ss with
        | nil => simpa [segments, h, hs, List.intercalate] using ih
        | cons u us =>
          simp [segments, h, hs, List.intercalate, List.intersperse_cons_cons] at ih ⊢
          exact ih

example : parts "(p.name)),".toList = ⟨"(".toList, "p.name".toList, ")),".toList⟩ := by decide
example : segments "a..b".toList = [['a'], [], ['b']] := by decide

end Token

end EntityMapper
