import EntityMapper.Assoc
/-! Finite maps whose keys are compared by a relation that can be turned round and chained: which
keys there are, and what they find. -/

namespace EntityMapper

namespace Assoc

variable {κ α β : Type} [BEq κ]

/-- No two keys of the map find each other. -/
def Distinct (m : Assoc κ α) : Prop :=
  m.keys.Pairwise fun k l => (k == l) = false

theorem keys_insertEntry (k : κ) (a : α) (es : List (κ × α)) :
    (insertEntry k a es).map (·.1) =
      if (es.map (·.1)).any (· == k) then es.map (·.1) else es.map (·.1) ++ [k] := by
  induction es with
  | nil => rfl
  | cons e es ih =>
    obtain ⟨l, b⟩ := e
    by_cases hl : (l == k) = true
    · simp [insertEntry, hl]
    · simp only [insertEntry, hl, List.map_cons, ih, List.any_cons, Bool.false_or,
        Bool.false_eq_true, if_false]
      split <;> rfl

/-- Giving a key a value adds at most that key. -/
theorem keys_insert (m : Assoc κ α) (k : κ) (a : α) :
    (m.insert k a).keys = if m.keys.any (· == k) then m.keys else m.keys ++ [k] :=
  keys_insertEntry k a m.entries

theorem keys_insert_congr {m : Assoc κ α} {n : Assoc κ β} (h : m.keys = n.keys) (k : κ) (a : α)
    (b : β) : (m.insert k a).keys = (n.insert k b).keys := by
  rw [keys_insert, keys_insert, h]

theorem keys_erase (m : Assoc κ α) (k : κ) : (m.erase k).keys = m.keys.eraseP (· == k) := by
  simp [keys, erase, List.eraseP_map, Function.comp_def]

theorem keys_erase_congr {m : Assoc κ α} {n : Assoc κ β} (h : m.keys = n.keys) (k : κ) :
    (m.erase k).keys = (n.erase k).keys := by
  rw [keys_erase, keys_erase, h]

theorem mem_insertEntry {k : κ} {a : α} {es : List (κ × α)} {p : κ × α}
    (h : p ∈ insertEntry k a es) : p ∈ es ∨ p.2 = a ∧ (p.1 = k ∨ (p.1 == k) = true) := by
  induction es with
  | nil =>
    rw [List.mem_singleton.mp h]
    exact .inr ⟨rfl, .inl rfl⟩
  | cons e es ih =>
    obtain ⟨l, b⟩ := e
    unfold insertEntry at h
    split at h
    · rename_i hl
      rcases List.mem_cons.mp h with rfl | h
      · exact .inr ⟨rfl, .inr hl⟩
      · exact .inl (List.mem_cons_of_mem _ h)
    · rcases List.mem_cons.mp h with rfl | h
      · exact .inl List.mem_cons_self
      · exact (ih h).imp_left (List.mem_cons_of_mem _)

/-- What is in the map afterwards was there before, or is the value just given. -/
theorem mem_insert {m : Assoc κ α} {k : κ} {a : α} {p : κ × α} (h : p ∈ (m.insert k a).entries) :
    p ∈ m.entries ∨ p.2 = a ∧ (p.1 = k ∨ (p.1 == k) = true) :=
  mem_insertEntry h

theorem mem_of_find? {m : Assoc κ α} {k : κ} {a : α} (h : m.find? k = some a) :
    ∃ l, (l, a) ∈ m.entries ∧ (l == k) = true := by
  obtain ⟨p, hp, rfl⟩ := Option.map_eq_some_iff.mp h
  have hk := List.find?_some hp
  exact ⟨p.1, List.mem_of_find?_eq_some hp, hk⟩

/-- A value that a key has already changes nothing. -/
theorem insert_of_find? {m : Assoc κ α} {k : κ} {a : α} (h : m.find? k = some a) :
    m.insert k a = m := by
  obtain ⟨es⟩ := m
  refine congrArg Assoc.mk ?_
  simp only [find?] at h
  induction es with
  | nil => cases h
  | cons e es ih =>
    obtain ⟨l, b⟩ := e
    by_cases hl : (l == k) = true
    · simpa [insertEntry, hl, eq_comm] using h
    · simp only [insertEntry, hl, Bool.false_eq_true, if_false]
      rw [ih (by simpa [List.find?_cons, hl] using h)]

theorem contains_iff {m : Assoc κ α} {k : κ} :
    m.contains k = true ↔ ∃ l ∈ m.keys, (l == k) = true := by
  simp [contains, find?, keys]

theorem keys_insertNew (m : Assoc κ α) (k : κ) (a : α) :
    (m.insertNew k a).keys = (m.insert k a).keys := by
  have hany : m.contains k = m.keys.any (· == k) := by
    rw [Bool.eq_iff_iff, contains_iff, List.any_eq_true]
  rw [keys_insert, insertNew, hany]
  split
  · rfl
  · simp [keys]

theorem contains_congr {m : Assoc κ α} {n : Assoc κ β} (h : m.keys = n.keys) (k : κ) :
    m.contains k = n.contains k := by
  rw [Bool.eq_iff_iff, contains_iff, contains_iff, h]

theorem distinct_insert {m : Assoc κ α} (h : m.Distinct) (k : κ) (a : α) :
    (m.insert k a).Distinct := by
  unfold Distinct
  rw [keys_insert]
  split
  · exact h
  · rename_i hk
    refine List.pairwise_append.mpr ⟨h, List.pairwise_singleton _ k, fun l hl k' hk' => ?_⟩
    rw [List.mem_singleton.mp hk']
    have hany := List.any_eq_false.mp (by simpa using hk) l hl
    simpa using hany

theorem distinct_insertNew {m : Assoc κ α} (h : m.Distinct) (k : κ) (a : α) :
    (m.insertNew k a).Distinct := by
  unfold Distinct
  rw [keys_insertNew]
  exact distinct_insert h k a

theorem distinct_erase {m : Assoc κ α} (h : m.Distinct) (k : κ) : (m.erase k).Distinct := by
  unfold Distinct
  rw [keys_erase]
  exact h.sublist (List.eraseP_sublist)

theorem contains_erase_false {m : Assoc κ α} {k l : κ} (h : m.contains l = false) :
    (m.erase k).contains l = false := by
  cases hc : (m.erase k).contains l with
  | false => rfl
  | true =>
    obtain ⟨l', hmem, hl'⟩ := contains_iff.mp hc
    rw [keys_erase] at hmem
    have hin := contains_iff.mpr ⟨l', List.mem_of_mem_eraseP hmem, hl'⟩
    rw [h] at hin
    cases hin

variable [PartialEquivBEq κ]

/-- Among distinct keys the one that finds a key has its value. -/
theorem find?_of_mem {m : Assoc κ α} (h : m.Distinct) {k l : κ} {a : α} (hp : (l, a) ∈ m.entries)
    (hk : (l == k) = true) : m.find? k = some a := by
  obtain ⟨es⟩ := m
  simp only [find?, Distinct, keys] at h hp ⊢
  induction es with
  | nil => cases hp
  | cons e es ih =>
    obtain ⟨l', b⟩ := e
    obtain ⟨hne, hes⟩ := List.pairwise_cons.mp h
    rcases List.mem_cons.mp hp with heq | hp
    · cases heq
      simp [hk]
    · have hl : (l' == k) = false := by
        rw [← BEq.congr_right hk]
        exact hne l (List.mem_map.mpr ⟨(l, a), hp, rfl⟩)
      simpa [List.find?_cons, hl] using ih hes hp

theorem find?_insert_of_beq (m : Assoc κ α) {k l : κ} (hkl : (k == l) = true) (a : α) :
    (m.insert k a).find? l = some a := by
  obtain ⟨es⟩ := m
  simp only [find?, insert]
  induction es with
  | nil => simp [insertEntry, hkl]
  | cons e es ih =>
    obtain ⟨l', b⟩ := e
    have hsame : (l' == l) = (l' == k) := (BEq.congr_right hkl).symm
    by_cases hl : (l' == k) = true
    · simp [insertEntry, hl, hsame]
    · simpa [insertEntry, hl, hsame, List.find?_cons] using ih

theorem find?_insert_of_not_beq (m : Assoc κ α) {k l : κ} (hkl : (k == l) = false) (a : α) :
    (m.insert k a).find? l = m.find? l := by
  unfold find? insert
  rw [find?_insertEntry_of_ne k l a _ hkl]
  intro k' hk'
  rw [BEq.congr_left hk', hkl]

theorem find?_erase_of_not_beq (m : Assoc κ α) {k l : κ} (hkl : (k == l) = false) :
    (m.erase k).find? l = m.find? l := by
  obtain ⟨es⟩ := m
  simp only [find?, erase]
  induction es with
  | nil => rfl
  | cons e es ih =>
    obtain ⟨l', b⟩ := e
    by_cases hl : (l' == k) = true
    · have hne : (l' == l) = false := by rw [BEq.congr_left hl, hkl]
      simp [hl, hne]
    · cases hl' : l' == l <;> simp_all

theorem contains_insert (m : Assoc κ α) {k l : κ} (a : α) (h : m.contains l = true) :
    (m.insert k a).contains l = true := by
  unfold contains at h ⊢
  cases hkl : k == l with
  | true => rw [find?_insert_of_beq m hkl]; rfl
  | false => rwa [find?_insert_of_not_beq m hkl]

theorem contains_erase_of_not_beq (m : Assoc κ α) {k l : κ} (hkl : (k == l) = false)
    (h : m.contains l = true) : (m.erase k).contains l = true := by
  unfold contains at h ⊢
  rwa [find?_erase_of_not_beq m hkl]

/-- Equal keys find the same. -/
theorem find?_congr (m : Assoc κ α) {k l : κ} (hkl : (k == l) = true) :
    m.find? k = m.find? l := by
  unfold find?
  congr 2
  funext p
  exact BEq.congr_right hkl

/-- A key that has a value keeps it, and of the others only the one just given finds the new
value. -/
theorem find?_insertNew (m : Assoc κ α) (k l : κ) (a : α) :
    (m.insertNew k a).find? l = (m.find? l).or (if k == l then some a else none) := by
  unfold insertNew
  split
  · rename_i hk
    cases hkl : k == l with
    | false => simp
    | true =>
      obtain ⟨b, hb⟩ := Option.isSome_iff_exists.mp hk
      rw [← find?_congr m hkl, hb]
      rfl
  · rw [find?, List.find?_append, Option.map_or, List.find?_singleton]
    cases k == l <;> rfl

theorem contains_of_beq {m : Assoc κ α} {k l : κ} (hkl : (k == l) = true)
    (h : m.contains k = true) : m.contains l = true := by
  unfold contains at h ⊢
  rwa [← find?_congr m hkl]

/-- Among distinct keys one that was taken out finds nothing any more. -/
theorem contains_erase_of_beq {m : Assoc κ α} (h : m.Distinct) {k l : κ} (hkl : (k == l) = true) :
    (m.erase k).contains l = false := by
  cases hc : (m.erase k).contains l with
  | false => rfl
  | true =>
    obtain ⟨l', hmem, hl'⟩ := contains_iff.mp hc
    rw [keys_erase] at hmem
    have hk : (l' == k) = true := BEq.trans hl' (BEq.symm hkl)
    obtain ⟨k', pre, post, hpre, hk', heq, herase⟩ :=
      List.exists_of_eraseP (p := (· == k)) (List.mem_of_mem_eraseP hmem) hk
    rw [Distinct, heq, List.pairwise_append, List.pairwise_cons] at h
    rw [herase] at hmem
    rcases List.mem_append.mp hmem with hmem | hmem
    · exact absurd hk (hpre l' hmem)
    · have hne := h.2.1.1 l' hmem
      rw [BEq.trans hk' (BEq.symm hk)] at hne
      cases hne

/-- A key that finds something finds itself. -/
theorem beq_self_of_contains {m : Assoc κ α} {k : κ} (h : m.contains k = true) :
    (k == k) = true := by
  obtain ⟨l, -, hl⟩ := contains_iff.mp h
  exact BEq.trans (BEq.symm hl) hl

end Assoc

end EntityMapper
