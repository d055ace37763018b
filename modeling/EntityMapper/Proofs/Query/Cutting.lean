import EntityMapper.Proofs.Query.Pieces
import Mathlib.Data.List.Induction
/-! Cutting words into punctuation and segments. A word is cut alike before and after places are put
for its parameters: no parameter goes over a cut. -/

namespace EntityMapper

open Text

namespace Piece

theorem scan_ne_nil (free : Bool) (c : Char) (t : Token) : scan free (c :: t) ≠ [] := by
  unfold scan
  split <;> simp

theorem head_of_plain {free : Bool} {t : Token} {c : Char}
    (h : (scan free t).head? = some (plain c)) : t.head? = some c := by
  cases t with
  | nil => cases h
  | cons d rest =>
    unfold scan at h
    split at h <;> cases h
    rfl

/-- The last piece of a token, also behind a name, is a parameter or the last character. -/
theorem getLast_of_plain (t : Token) (c : Char) :
    (∀ free, (scan free t).getLast? = some (plain c) → t.getLast? = some c) ∧
      ((skipName t).getLast? = some (plain c) → t.getLast? = some c) := by
  induction t with
  | nil => simp [scan, skipName]
  | cons d rest ih =>
    have hlonger (h : rest.getLast? = some c) : (d :: rest).getLast? = some c := by
      rw [List.getLast?_cons, h, Option.getD_some]
    have hplain (h : (plain d :: scan (admits d) rest).getLast? = some (plain c)) :
        (d :: rest).getLast? = some c := by
      cases rest with
      | nil =>
        cases h
        rfl
      | cons e rest =>
        rw [List.getLast?_cons_of_ne_nil (scan_ne_nil _ _ _)] at h
        exact hlonger (ih.1 _ h)
    refine ⟨fun free h => ?_, fun h => ?_⟩
    · unfold scan at h
      split at h
      · cases hskip : skipName rest with
        | nil =>
          rw [hskip] at h
          cases h
        | cons p ps =>
          rw [hskip, List.getLast?_cons_of_ne_nil (by simp), ← hskip] at h
          exact hlonger (ih.2 h)
      · exact hplain h
    · unfold skipName at h
      split at h
      · exact hlonger (ih.2 h)
      · exact hplain h

theorem filterMap_scan_of_not_mem {free : Bool} {t : Token} (h : ':' ∉ t) :
    (scan free t).filterMap name? = [] := by
  induction t generalizing free with
  | nil => rfl
  | cons c rest ih =>
    obtain ⟨hc, hrest⟩ := not_or.mp (List.mem_cons.not.mp h)
    rw [scan, if_neg (by simp [Ne.symm hc]), filterMap_plain]
    exact ih hrest

end Piece

namespace Token

theorem withPlaces_of_not_mem {t : Token} (h : ':' ∉ t) : t.withPlaces = t :=
  Piece.placed_scan (Piece.filterMap_scan_of_not_mem h)

theorem withPlaces_of_isName {t : Token} (h : isName t = true) : t.withPlaces = t := by
  refine withPlaces_of_not_mem fun hcolon => ?_
  cases t with
  | nil => cases hcolon
  | cons c rest =>
    obtain ⟨hstart, hall⟩ := Bool.and_eq_true_iff.mp h
    have hword : isWordChar ':' = true := by
      rcases List.mem_cons.mp hcolon with rfl | hmem
      · exact isWordChar_of_isNameStart hstart
      · exact List.all_eq_true.mp hall _ hmem
    revert hword
    decide

theorem withPlaces_cons {c : Char} (hc : Piece.admits c = true) (t : Token) :
    withPlaces (c :: t) = c :: withPlaces t :=
  withPlaces_append hc [] t

/-- What a token with places has, the token itself has, unless it is a place. -/
theorem mem_of_mem_withPlaces {t : Token} {c : Char} (h : c ∈ t.withPlaces) (hc : c ≠ '?') :
    c ∈ t := by
  obtain ⟨p, hp, rfl⟩ := List.mem_map.mp h
  cases p with
  | plain c => exact (Piece.mem_of_plain_mem t c).1 true hp
  | parameter name => exact absurd rfl hc

theorem head_of_withPlaces {t : Token} {c : Char} (h : t.withPlaces.head? = some c)
    (hc : c ≠ '?') : t.head? = some c := by
  rw [withPlaces, List.head?_map] at h
  obtain ⟨p, hp, rfl⟩ := Option.map_eq_some_iff.mp h
  cases p with
  | plain c => exact Piece.head_of_plain hp
  | parameter name => exact absurd rfl hc

theorem getLast_of_withPlaces {t : Token} {c : Char} (h : t.withPlaces.getLast? = some c)
    (hc : c ≠ '?') : t.getLast? = some c := by
  rw [withPlaces, List.getLast?_map] at h
  obtain ⟨p, hp, rfl⟩ := Option.map_eq_some_iff.mp h
  cases p with
  | plain c => exact (Piece.getLast_of_plain t c).1 true hp
  | parameter name => exact absurd rfl hc

section Punctuation

variable {p : Char → Bool} (hp : ∀ c, p c = true → Piece.admits c = true ∧ c ≠ '?')

include hp

/-- Punctuation in front of a token is cut off alike. -/
theorem cut_front_withPlaces (t : Token) :
    t.withPlaces.takeWhile p = t.takeWhile p ∧
      t.withPlaces.dropWhile p = withPlaces (t.dropWhile p) := by
  induction t with
  | nil => exact ⟨rfl, rfl⟩
  | cons c rest ih =>
    by_cases hc : p c = true
    · rw [withPlaces_cons (hp c hc).1, List.takeWhile_cons_of_pos hc, List.takeWhile_cons_of_pos hc,
        List.dropWhile_cons_of_pos hc, List.dropWhile_cons_of_pos hc, ih.1]
      exact ⟨rfl, ih.2⟩
    · rw [List.takeWhile_cons_of_neg hc, List.dropWhile_cons_of_neg hc]
      cases hplaced : withPlaces (c :: rest) with
      | nil => exact ⟨rfl, rfl⟩
      | cons d ds =>
        have hd : ¬ p d = true := by
          intro h
          have hhead := head_of_withPlaces (by rw [hplaced]; rfl) (hp d h).2
          cases hhead
          exact hc h
        exact ⟨List.takeWhile_cons_of_neg hd, List.dropWhile_cons_of_neg hd⟩

/-- Punctuation behind a token is cut off alike. -/
theorem cut_back_withPlaces (t : Token) :
    t.withPlaces.reverse.takeWhile p = t.reverse.takeWhile p ∧
      (t.withPlaces.reverse.dropWhile p).reverse =
        withPlaces (t.reverse.dropWhile p).reverse := by
  induction t using List.reverseRecOn with
  | nil => exact ⟨rfl, rfl⟩
  | append_singleton rest c ih =>
    by_cases hc : p c = true
    · have hlast : withPlaces (rest ++ [c]) = withPlaces rest ++ [c] :=
        withPlaces_append (hp c hc).1 rest []
      rw [hlast, List.reverse_concat, List.reverse_concat, List.takeWhile_cons_of_pos hc,
        List.takeWhile_cons_of_pos hc, List.dropWhile_cons_of_pos hc, List.dropWhile_cons_of_pos hc,
        ih.1]
      exact ⟨rfl, ih.2⟩
    · rw [List.reverse_concat, List.takeWhile_cons_of_neg hc, List.dropWhile_cons_of_neg hc,
        ← List.reverse_concat, List.reverse_reverse]
      cases hplaced : (withPlaces (rest ++ [c])).reverse with
      | nil =>
        rw [List.reverse_eq_nil_iff.mp hplaced]
        exact ⟨rfl, rfl⟩
      | cons d ds =>
        have hd : ¬ p d = true := by
          intro h
          have hlast : (withPlaces (rest ++ [c])).getLast? = some d := by
            rw [← List.head?_reverse, hplaced]
            rfl
          have hc' := getLast_of_withPlaces hlast (hp d h).2
          rw [List.getLast?_concat] at hc'
          cases hc'
          exact hc h
        rw [List.takeWhile_cons_of_neg hd, List.dropWhile_cons_of_neg hd, ← hplaced,
          List.reverse_reverse]
        exact ⟨rfl, rfl⟩

end Punctuation

/-- Only the core of a word can have parameters. -/
theorem parts_withPlaces (t : Token) :
    t.withPlaces.parts = ⟨t.parts.before, t.parts.core.withPlaces, t.parts.after⟩ := by
  have hopen (c : Char) (h : (c == '(') = true) : Piece.admits c = true ∧ c ≠ '?' := by
    rw [beq_iff_eq.mp h]
    decide
  have hclose (c : Char) (h : closes c = true) : Piece.admits c = true ∧ c ≠ '?' := by
    rcases Bool.or_eq_true_iff.mp h with h | h <;> rw [beq_iff_eq.mp h] <;> decide
  obtain ⟨hbefore, hrest⟩ := cut_front_withPlaces hopen t
  obtain ⟨hafter, hcore⟩ := cut_back_withPlaces hclose (t.dropWhile (· == '('))
  simp only [parts, hbefore, hrest, hafter, hcore]

theorem segments_of_not_mem {t : Token} (h : '.' ∉ t) : t.segments = [t] := by
  induction t with
  | nil => rfl
  | cons c rest ih =>
    obtain ⟨hc, hrest⟩ := not_or.mp (List.mem_cons.not.mp h)
    rw [segments, if_neg (Ne.symm hc), ih hrest]
    rfl

theorem segments_append {s : Token} (h : '.' ∉ s) (t : Token) :
    segments (s ++ '.' :: t) = s :: t.segments := by
  induction s with
  | nil => simp [segments]
  | cons c rest ih =>
    obtain ⟨hc, hrest⟩ := not_or.mp (List.mem_cons.not.mp h)
    rw [List.cons_append, segments, if_neg (Ne.symm hc), ih hrest]
    rfl

theorem not_mem_of_mem_segments {t s : Token} (h : s ∈ t.segments) : '.' ∉ s := by
  induction t generalizing s with
  | nil =>
    obtain rfl := List.mem_singleton.mp h
    simp
  | cons c rest ih =>
    rw [segments] at h
    split at h
    · rcases List.mem_cons.mp h with rfl | h
      · simp
      · exact ih h
    · rename_i hc
      cases hs : segments rest with
      | nil => exact absurd hs (segments_ne_nil rest)
      | cons u us =>
        rw [hs] at h ih
        rcases List.mem_cons.mp h with rfl | h
        · exact List.mem_cons.not.mpr (not_or.mpr ⟨Ne.symm hc, ih List.mem_cons_self⟩)
        · exact ih (List.mem_cons_of_mem u h)

/-- Texts without dots are the segments of the path that they make up. -/
theorem segments_intercalate {ss : List Token} (hne : ss ≠ []) (h : ∀ s ∈ ss, '.' ∉ s) :
    segments (List.intercalate ['.'] ss) = ss := by
  induction ss with
  | nil => exact absurd rfl hne
  | cons s rest ih =>
    have hs := h s List.mem_cons_self
    cases rest with
    | nil => rw [List.intercalate_singleton, segments_of_not_mem hs]
    | cons u us =>
      rw [List.intercalate_cons_cons, List.append_assoc, List.singleton_append, segments_append hs,
        ih (by simp) fun v hv => h v (List.mem_cons_of_mem s hv)]

/-- A path is cut into the same segments after places are put. -/
theorem segments_withPlaces (t : Token) :
    t.withPlaces.segments = t.segments.map withPlaces := by
  have hdot : Piece.admits '.' = true := by decide
  conv_lhs => rw [← t.intercalate_segments, ← intercalate_withPlaces hdot]
  refine segments_intercalate (by simp [segments_ne_nil]) fun s hs hmem => ?_
  obtain ⟨u, hu, rfl⟩ := List.mem_map.mp hs
  exact not_mem_of_mem_segments hu (mem_of_mem_withPlaces hmem (by decide))

/-- A word with a path of several segments has a dot. -/
theorem mem_of_segments {t a : Token} {rest : List Token} (hrest : rest ≠ [])
    (h : t.parts.core.segments = a :: rest) : '.' ∈ t := by
  have hcore : '.' ∈ t.parts.core := by
    by_contra hnot
    rw [segments_of_not_mem hnot] at h
    cases h
    exact hrest rfl
  rw [← t.parts_join]
  simp [hcore]

end Token

end EntityMapper
