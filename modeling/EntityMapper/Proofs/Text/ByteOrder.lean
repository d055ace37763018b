import Mathlib.Data.List.Lex
import Mathlib.Tactic.SplitIfs
/-! The order of texts: by code point, which is also the order of their bytes. -/

namespace EntityMapper

namespace Text

/-- The bytes that a text is stored as. -/
def bytes (s : String) : List UInt8 :=
  s.toUTF8.data.toList

theorem bytes_eq (s : String) : bytes s = s.toList.flatMap String.utf8EncodeChar := by
  conv => lhs; rw [← String.ofList_toList (s := s)]
  rw [bytes, String.toUTF8_eq_toByteArray, String.toByteArray_ofList, List.utf8Encode,
    List.data_toByteArray]

theorem byte_lt_iff {a b : Nat} (ha : a < 256) (hb : b < 256) :
    UInt8.ofNat a < UInt8.ofNat b ↔ a < b := by
  rw [UInt8.lt_iff_toNat_lt, UInt8.toNat_ofNat_of_lt' ha, UInt8.toNat_ofNat_of_lt' hb]

theorem byte_eq_iff {a b : Nat} (ha : a < 256) (hb : b < 256) :
    UInt8.ofNat a = UInt8.ofNat b ↔ a = b := by
  rw [← UInt8.toNat_inj, UInt8.toNat_ofNat_of_lt' ha, UInt8.toNat_ofNat_of_lt' hb]

/-- The bytes of the smaller one of two characters are smaller, whatever follows. -/
theorem encode_append_lt {c d : Char} (h : c < d) (u v : List UInt8) :
    String.utf8EncodeChar c ++ u < String.utf8EncodeChar d ++ v := by
  have h : c.val.toNat < d.val.toNat := h
  have hd : d.val.toNat < 0x110000 := by
    have hvalid : d.val.toNat < 0xd800 ∨ 0xdfff < d.val.toNat ∧ d.val.toNat < 0x110000 := d.valid
    omega
  unfold String.utf8EncodeChar
  generalize c.val.toNat = m at *
  generalize d.val.toNat = n at *
  dsimp only
  by_cases hm : m ≤ 0xffff
  · split_ifs <;>
      simp (disch := omega) only [List.cons_append, List.nil_append, List.cons_lt_cons_iff,
        byte_lt_iff, byte_eq_iff] <;> omega
  · -- Both have four bytes: the first digit in which they differ decides.
    have hfour {k : Nat} (hk : m ≤ k) : ¬ k ≤ 0x7f ∧ ¬ k ≤ 0x7ff ∧ ¬ k ≤ 0xffff := by omega
    obtain ⟨h1, h2, h3⟩ := hfour le_rfl
    obtain ⟨k1, k2, k3⟩ := hfour h.le
    rw [if_neg h1, if_neg h2, if_neg h3, if_neg k1, if_neg k2, if_neg k3]
    simp (disch := omega) only [List.cons_append, List.nil_append, List.cons_lt_cons_iff,
      byte_lt_iff, byte_eq_iff]
    have hlead {k : Nat} (hk : k ≤ n) : k / 262144 % 8 = k / 262144 := by omega
    rw [hlead h.le, hlead le_rfl]
    rcases (Nat.div_le_div_right (c := 262144) h.le).lt_or_eq with d3 | d3
    · exact .inl (by omega)
    rcases (Nat.div_le_div_right (c := 4096) h.le).lt_or_eq with d2 | d2
    · exact .inr ⟨by omega, .inl (by omega)⟩
    rcases (Nat.div_le_div_right (c := 64) h.le).lt_or_eq with d1 | d1
    · exact .inr ⟨by omega, .inr ⟨by omega, .inl (by omega)⟩⟩
    · exact .inr ⟨by omega, .inr ⟨by omega, .inr ⟨by omega, .inl (by omega)⟩⟩⟩

theorem encode_ne_nil (c : Char) : String.utf8EncodeChar c ≠ [] := by
  unfold String.utf8EncodeChar
  dsimp only
  split_ifs <;> exact List.cons_ne_nil _ _

theorem flatMap_encode_lt {a b : List Char} (h : a < b) :
    a.flatMap String.utf8EncodeChar < b.flatMap String.utf8EncodeChar := by
  induction a generalizing b with
  | nil =>
    cases b with
    | nil => exact absurd h (List.lt_irrefl _)
    | cons d b =>
      rw [List.flatMap_cons]
      obtain ⟨x, xs, hx⟩ := List.exists_cons_of_ne_nil (encode_ne_nil d)
      rw [hx]
      exact List.nil_lt_cons _ _
  | cons c a ih =>
    cases b with
    | nil => exact absurd h (List.not_lt_nil _)
    | cons d b =>
      rw [List.flatMap_cons, List.flatMap_cons]
      rcases List.cons_lt_cons_iff.mp h with hcd | ⟨rfl, hab⟩
      · exact encode_append_lt hcd _ _
      · exact List.append_left_lt (ih hab)

/-- One text is before another exactly if its bytes are. -/
theorem bytes_lt_iff (s t : String) : bytes s < bytes t ↔ s < t := by
  have hmono {s t : String} (h : s < t) : bytes s < bytes t := by
    rw [bytes_eq, bytes_eq]
    exact flatMap_encode_lt h
  refine ⟨fun h => ?_, hmono⟩
  by_contra hst
  by_cases hts : t < s
  · exact List.lt_asymm h (hmono hts)
  · obtain rfl : s = t := String.le_antisymm hts hst
    exact List.lt_irrefl _ h

end Text

end EntityMapper
