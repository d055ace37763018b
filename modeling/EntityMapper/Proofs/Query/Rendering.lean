import EntityMapper.Proofs.Query.Pieces
/-! Texts that stand for the words of a query, with the places of its parameters marked. -/

namespace EntityMapper

open Text

/-- The texts that stand for words of a query, in order, with other texts in between. -/
inductive Rendered : List Token → List (List Piece) → Prop
  | nil : Rendered [] []
  /-- A word with places for its parameters. -/
  | kept {ws parts} (w : Token) (h : Rendered ws parts) :
    Rendered (w :: ws) (Piece.ofToken w :: parts)
  /-- A word without parameters in other words. -/
  | resolved {ws parts} (w t : Token) (hw : Piece.names [w] = []) (ht : Unmarked t)
    (h : Rendered ws parts) : Rendered (w :: ws) (Piece.ofText t :: parts)
  /-- A text that stands for no word. -/
  | made {ws parts} (t : Token) (ht : Unmarked t) (h : Rendered ws parts) :
    Rendered ws (Piece.ofText t :: parts)

namespace Rendered

variable {vs ws : List Token} {as bs : List (List Piece)}

theorem append (hv : Rendered vs as) (hw : Rendered ws bs) : Rendered (vs ++ ws) (as ++ bs) := by
  induction hv with
  | nil => exact hw
  | kept w _ ih => exact .kept w ih
  | resolved w t hn ht _ ih => exact .resolved w t hn ht ih
  | made t ht _ ih => exact .made t ht ih

theorem ofTexts {ts : List Token} (h : ∀ t ∈ ts, Unmarked t) :
    Rendered [] (ts.map Piece.ofText) := by
  induction ts with
  | nil => exact .nil
  | cons t ts ih =>
    exact .made t (h t List.mem_cons_self) (ih fun u hu => h u (List.mem_cons_of_mem t hu))

/-- The parameters of the texts are those of the words. -/
theorem names_eq (h : Rendered ws as) : as.flatten.filterMap Piece.name? = Piece.names ws := by
  induction h with
  | nil => rfl
  | kept w _ ih => simp [ih]
  | resolved w t hn _ _ ih =>
    have hw : (Piece.ofToken w).filterMap Piece.name? = [] := by simpa using hn
    simp [ih, hw]
  | made t _ _ ih => simp [ih]

/-- No character of the texts looks like a place. -/
theorem ne_mark_of_plain (h : Rendered ws as) (hws : ∀ w ∈ ws, Unmarked w) {c : Char}
    (hc : Piece.plain c ∈ as.flatten) : c ≠ '?' := by
  induction h with
  | nil => cases hc
  | kept w _ ih =>
    rcases List.mem_append.mp hc with hc | hc
    · exact Piece.unmarked_of_plain_mem (hws w List.mem_cons_self) hc
    · exact ih (fun v hv => hws v (List.mem_cons_of_mem w hv)) hc
  | resolved w t _ ht _ ih =>
    rcases List.mem_append.mp hc with hc | hc
    · rintro rfl
      exact ht (Piece.plain_mem_ofText.mp hc)
    · exact ih (fun v hv => hws v (List.mem_cons_of_mem w hv)) hc
  | made t ht _ ih =>
    rcases List.mem_append.mp hc with hc | hc
    · rintro rfl
      exact ht (Piece.plain_mem_ofText.mp hc)
    · exact ih hws hc

end Rendered

namespace Piece

/-- The text of pieces that stand for words: one blank between any two. -/
def joined (parts : List (List Piece)) : List Piece :=
  List.intercalate [plain ' '] parts

@[simp] theorem joined_nil : joined [] = [] := rfl

@[simp] theorem joined_singleton (a : List Piece) : joined [a] = a := by
  simp [joined]

@[simp] theorem joined_cons_cons (a b : List Piece) (rest : List (List Piece)) :
    joined (a :: b :: rest) = a ++ plain ' ' :: joined (b :: rest) := by
  simp [joined, List.intercalate_cons_cons]

theorem map_joined (parts : List (List Piece)) :
    (joined parts).map placed = List.intercalate [' '] (parts.map (·.map placed)) := by
  induction parts with
  | nil => rfl
  | cons a rest ih =>
    cases rest with
    | nil => simp
    | cons b rest => simp [ih, List.intercalate_cons_cons, placed]

theorem filterMap_joined (parts : List (List Piece)) :
    (joined parts).filterMap name? = parts.flatten.filterMap name? := by
  induction parts with
  | nil => rfl
  | cons a rest ih =>
    cases rest with
    | nil => simp
    | cons b rest => simp [ih]

theorem mem_joined {parts : List (List Piece)} {p : Piece} (h : p ∈ joined parts) :
    p = plain ' ' ∨ p ∈ parts.flatten := by
  induction parts with
  | nil => exact .inr h
  | cons a rest ih =>
    cases rest with
    | nil => exact .inr (by simpa using h)
    | cons b rest =>
      rw [joined_cons_cons] at h
      rw [List.flatten_cons]
      rcases List.mem_append.mp h with h | h
      · exact .inr (List.mem_append_left _ h)
      · rcases List.mem_cons.mp h with h | h
        · exact .inl h
        · exact (ih h).imp_right (List.mem_append_right a)

end Piece

namespace QueryPlan

/-- The words of a query that its statement keeps: not the entity name, and of a SELECT not what
it selects. -/
def standing (p : QueryPlan) (ws : List Token) : List Token :=
  (if p.kind = .select then ws.take 1 ++ (ws.take p.entitySlot).drop (p.entitySlot - 1)
    else ws.take p.entitySlot) ++ ws.drop (p.entitySlot + 1)

/-- The words of a query that its statement leaves out. -/
def dropped (p : QueryPlan) (ws : List Token) : List Token :=
  (if p.kind = .select then (ws.take (p.entitySlot - 1)).drop 1 else []) ++
    (ws.drop p.entitySlot).take 1

/-- The words fall into those before, those left out and those that follow. -/
theorem words_split (ws : List Token) (slot : Nat) :
    ws = ws.take slot ++ (ws.drop slot).take 1 ++ ws.drop (slot + 1) := by
  rw [List.append_assoc, ← List.drop_drop, List.take_append_drop, List.take_append_drop]

theorem take_split (ws : List Token) {slot : Nat} (hslot : 2 ≤ slot) :
    ws.take slot = ws.take 1 ++ (ws.take (slot - 1)).drop 1 ++ (ws.take slot).drop (slot - 1) := by
  have hone : ws.take 1 = (ws.take (slot - 1)).take 1 := by
    rw [List.take_take, Nat.min_eq_left (by omega)]
  have hmost : ws.take (slot - 1) = (ws.take slot).take (slot - 1) := by
    rw [List.take_take, Nat.min_eq_left (by omega)]
  rw [hone, List.take_append_drop, hmost, List.take_append_drop]

theorem mem_of_mem_standing {p : QueryPlan} {ws : List Token} {w : Token}
    (h : w ∈ p.standing ws) : w ∈ ws := by
  unfold standing at h
  rcases List.mem_append.mp h with h | h
  · split at h
    · rcases List.mem_append.mp h with h | h
      · exact List.mem_of_mem_take h
      · exact List.mem_of_mem_take (List.mem_of_mem_drop h)
    · exact List.mem_of_mem_take h
  · exact List.mem_of_mem_drop h

variable {p : QueryPlan} (hslot : p.kind = .select → 2 ≤ p.entitySlot) (ws : List Token)

include hslot

/-- The parameters of a query are those of the words that stand and those of the others. -/
theorem length_names_add :
    (Piece.names (p.standing ws)).length + (Piece.names (p.dropped ws)).length =
      (Piece.names ws).length := by
  have hws := congrArg (fun vs => (Piece.names vs).length) (words_split ws p.entitySlot)
  unfold standing dropped
  by_cases hk : p.kind = .select
  · have htake := congrArg (fun vs => (Piece.names vs).length) (take_split ws (hslot hk))
    simp only [Piece.names_append, List.length_append, hk, if_true] at hws htake ⊢
    omega
  · simp only [Piece.names_append, List.length_append, hk, if_false, Piece.names_nil,
      List.length_nil] at hws ⊢
    omega

theorem names_standing (h : Piece.names (p.dropped ws) = []) :
    Piece.names (p.standing ws) = Piece.names ws := by
  have hws := congrArg Piece.names (words_split ws p.entitySlot)
  unfold standing
  unfold dropped at h
  by_cases hk : p.kind = .select
  · have htake := congrArg Piece.names (take_split ws (hslot hk))
    simp only [Piece.names_append, hk, if_true, List.append_eq_nil_iff] at hws htake h ⊢
    rw [hws, htake, h.1, h.2]
    simp
  · simp only [Piece.names_append, hk, if_false, List.append_eq_nil_iff] at hws h ⊢
    rw [hws, h.2]
    simp

end QueryPlan

end EntityMapper
