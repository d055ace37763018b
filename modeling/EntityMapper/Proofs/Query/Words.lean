import EntityMapper.Text.Blank
import Mathlib.Data.List.Infix
/-! Words of the parts of a text: where a text may be cut, and which texts are their words with
single blanks between them. -/

namespace EntityMapper.Text

def Unblank (t : List Char) : Prop :=
  ∀ c ∈ t, isBlank c = false

@[simp] theorem unblank_cons (c : Char) (t : List Char) :
    Unblank (c :: t) ↔ isBlank c = false ∧ Unblank t :=
  List.forall_mem_cons

theorem modifyHead_append {α : Type} (f : α → α) {l : List α} (h : l ≠ []) (m : List α) :
    (l ++ m).modifyHead f = l.modifyHead f ++ m := by
  cases l with
  | nil => exact absurd rfl h
  | cons a l => rfl

theorem words_cons_of_blank {c : Char} (hc : isBlank c = true) (t : List Char) :
    words (c :: t) = words t := by
  simp [words, hc]

/-- A text may be cut before a blank and at its end. -/
theorem words_append_of_not_beginsWord {t : List Char} (ht : beginsWord t = false) (s : List Char) :
    words (s ++ t) = words s ++ words t := by
  induction s with
  | nil => rfl
  | cons c s ih =>
    have hbegins : beginsWord (s ++ t) = beginsWord s := by
      cases s with
      | nil => exact ht
      | cons d s => rfl
    rw [List.cons_append, words, words, hbegins, ih]
    split
    · rfl
    · split
      · rename_i hs
        exact modifyHead_append _ (words_ne_nil_of_beginsWord hs) _
      · rfl

theorem words_of_unblank {t : List Char} (ht : Unblank t) (hne : t ≠ []) : words t = [t] := by
  induction t with
  | nil => exact absurd rfl hne
  | cons c t ih =>
    obtain ⟨hc, hrest⟩ := (unblank_cons c t).mp ht
    cases t with
    | nil => simp [words, hc, beginsWord]
    | cons d t =>
      have hd : beginsWord (d :: t) = true := by
        simp [beginsWord, ((unblank_cons d t).mp hrest).1]
      rw [words, if_neg (by simp [hc]), if_pos hd, ih hrest (by simp)]
      rfl

/-- Every text is cut before the word that it breaks off in: what comes before has the same words
whatever follows. -/
theorem exists_cut_before_last (s : List Char) :
    ∃ s₀ a, s = s₀ ++ a ∧ Unblank a ∧ ∀ t, words (s₀ ++ t) = words s₀ ++ words t := by
  induction s with
  | nil => exact ⟨[], [], rfl, by simp [Unblank], fun t => rfl⟩
  | cons c s ih =>
    obtain ⟨s₀, a, rfl, ha, hcut⟩ := ih
    by_cases hc : isBlank c = true
    · exact ⟨c :: s₀, a, rfl, ha, fun t => by
        rw [List.cons_append, words_cons_of_blank hc, words_cons_of_blank hc, hcut]⟩
    · cases s₀ with
      | nil => exact ⟨[], c :: a, rfl, by simpa using ⟨by simpa using hc, ha⟩, fun t => rfl⟩
      | cons d s₀ =>
        refine ⟨c :: d :: s₀, a, rfl, ha, fun t => ?_⟩
        have hbegins : beginsWord (d :: s₀ ++ t) = beginsWord (d :: s₀) := rfl
        rw [List.cons_append, words, words, hbegins, hcut]
        split
        · rfl
        · split
          · rename_i hs
            exact modifyHead_append _ (words_ne_nil_of_beginsWord hs) _
          · rfl

/-- Every text is cut behind the word that it goes on with. -/
theorem exists_cut_after_first (s : List Char) :
    ∃ b s₁, s = b ++ s₁ ∧ Unblank b ∧ beginsWord s₁ = false := by
  induction s with
  | nil => exact ⟨[], [], rfl, by simp [Unblank], rfl⟩
  | cons c s ih =>
    by_cases hc : isBlank c = true
    · exact ⟨[], c :: s, rfl, by simp [Unblank], by simp [beginsWord, hc]⟩
    · obtain ⟨b, s₁, rfl, hb, hs₁⟩ := ih
      exact ⟨c :: b, s₁, rfl, by simpa using ⟨by simpa using hc, hb⟩, hs₁⟩

/-- What makes the last word of a text longer makes no new word. -/
theorem length_words_append {c : Char} (hc : isBlank c = false) {b : List Char} (hb : Unblank b)
    (s : List Char) : (words (s ++ c :: b)).length = (words (s ++ [c])).length := by
  induction s with
  | nil =>
    rw [List.nil_append, words_of_unblank ((unblank_cons c b).mpr ⟨hc, hb⟩) (by simp)]
    simp [words, hc, beginsWord]
  | cons d s ih =>
    have hbegins : beginsWord (s ++ c :: b) = beginsWord (s ++ [c]) := by
      cases s <;> rfl
    rw [List.cons_append, List.cons_append, words, words, hbegins]
    split
    · exact ih
    · split
      · rw [List.length_modifyHead, List.length_modifyHead, ih]
      · rw [List.length_cons, List.length_cons, ih]

/-- Whether the white space of a text is single spaces, each with a word behind it. -/
def singleSpaced : List Char → Bool
  | [] => true
  | c :: rest => (!isBlank c || (c == ' ' && beginsWord rest)) && singleSpaced rest

theorem singleSpaced_append_left {a t : List Char} (ha : Unblank a)
    (ht : singleSpaced t = true) : singleSpaced (a ++ t) = true := by
  induction a with
  | nil => exact ht
  | cons c a ih =>
    obtain ⟨hc, hrest⟩ := (unblank_cons c a).mp ha
    simp [singleSpaced, hc, ih hrest]

theorem singleSpaced_append_right {t b : List Char} (ht : singleSpaced t = true)
    (hb : Unblank b) : singleSpaced (t ++ b) = true := by
  induction t with
  | nil => simpa using singleSpaced_append_left hb (t := []) rfl
  | cons c t ih =>
    simp only [singleSpaced, Bool.and_eq_true, Bool.or_eq_true, Bool.not_eq_true'] at ht
    obtain ⟨hc, hrest⟩ := ht
    have hbegins (h : beginsWord t = true) : beginsWord (t ++ b) = true := by
      cases t with
      | nil => cases h
      | cons d t => exact h
    simp only [List.cons_append, singleSpaced, Bool.and_eq_true, Bool.or_eq_true,
      Bool.not_eq_true']
    exact ⟨hc.imp_right fun h => ⟨h.1, hbegins h.2⟩, ih hrest⟩

theorem intercalate_modifyHead (c : Char) {ws : List (List Char)} (hws : ws ≠ []) :
    List.intercalate [' '] (ws.modifyHead (c :: ·)) = c :: List.intercalate [' '] ws := by
  rcases ws with _ | ⟨w, _ | ⟨v, vs⟩⟩
  · exact absurd rfl hws
  · simp
  · simp [List.intercalate_cons_cons]

theorem dropWhile_isBlank_of_beginsWord {t : List Char} (ht : beginsWord t = true) :
    t.dropWhile isBlank = t := by
  cases t with
  | nil => rfl
  | cons c t => exact List.dropWhile_cons_of_neg (by simpa [beginsWord] using ht)

/-- Words with single blanks between them make up the text again. -/
theorem intercalate_words {t : List Char} (ht : singleSpaced t = true) :
    List.intercalate [' '] (words t) = t.dropWhile isBlank := by
  induction t with
  | nil => rfl
  | cons c t ih =>
    have hrest : singleSpaced t = true := (Bool.and_eq_true_iff.mp ht).2
    have hwords := ih hrest
    by_cases hc : isBlank c = true
    · rw [words_cons_of_blank hc, hwords, List.dropWhile_cons_of_pos hc]
    rw [List.dropWhile_cons_of_neg hc, words, if_neg hc]
    by_cases hbegins : beginsWord t = true
    · rw [if_pos hbegins, intercalate_modifyHead c (words_ne_nil_of_beginsWord hbegins), hwords,
        dropWhile_isBlank_of_beginsWord hbegins]
    rw [if_neg hbegins]
    cases t with
    | nil => rfl
    | cons d t =>
      -- The word ends before a single space.
      have hd : isBlank d = true := by simpa [beginsWord] using hbegins
      obtain ⟨rfl, hnext⟩ : d = ' ' ∧ beginsWord t = true := by
        simpa [hd] using (Bool.and_eq_true_iff.mp hrest).1
      have hne : words (' ' :: t) ≠ [] := by
        rw [words_cons_of_blank hd]
        exact words_ne_nil_of_beginsWord hnext
      rw [List.intercalate_cons_of_ne_nil hne, hwords, List.dropWhile_cons_of_pos hd,
        dropWhile_isBlank_of_beginsWord hnext]
      rfl

theorem intercalate_isPrefix (vs ws : List (List Char)) :
    List.intercalate [' '] vs <+: List.intercalate [' '] (vs ++ ws) := by
  induction vs with
  | nil => exact List.nil_prefix
  | cons v vs ih =>
    by_cases hvs : vs = []
    · subst hvs
      cases ws with
      | nil => exact List.prefix_refl _
      | cons w ws =>
        rw [List.cons_append, List.nil_append, List.intercalate_singleton,
          List.intercalate_cons_cons, List.append_assoc]
        exact List.prefix_append _ _
    · rw [List.cons_append, List.intercalate_cons_of_ne_nil hvs,
        List.intercalate_cons_of_ne_nil (by simp [hvs])]
      exact (List.prefix_append_right_inj _).mpr ih

theorem intercalate_isSuffix (vs ws : List (List Char)) :
    List.intercalate [' '] ws <:+ List.intercalate [' '] (vs ++ ws) := by
  induction vs with
  | nil => exact List.suffix_refl _
  | cons v vs ih =>
    by_cases hws : vs ++ ws = []
    · rw [(List.append_eq_nil_iff.mp hws).2]
      exact List.nil_suffix
    · rw [List.cons_append, List.intercalate_cons_of_ne_nil hws]
      exact ih.trans (List.suffix_append _ _)

/-- Words in a row, joined by blanks, stand in the text that all the words make up. -/
theorem intercalate_isInfix {vs ws : List (List Char)} (h : vs <:+: ws) :
    List.intercalate [' '] vs <:+: List.intercalate [' '] ws := by
  obtain ⟨before, after, rfl⟩ := h
  rw [List.append_assoc]
  exact (intercalate_isPrefix vs after).isInfix.trans (intercalate_isSuffix before _).isInfix

end EntityMapper.Text
