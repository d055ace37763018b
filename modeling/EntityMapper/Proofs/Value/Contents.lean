import EntityMapper.Proofs.Entity.Typing
/-! Contents: what fields of each type hold, the values that stand for it, and the numbers that are
read into integers. -/

namespace EntityMapper

/-- The number of a truth value or of an integer; no other value is a number. -/
inductive Value.IsNumber : Value → Int → Prop
  | no : IsNumber (.bool false) 0
  | yes : IsNumber (.bool true) 1
  | integer {w : IntWidth} (n : SizedInt w) : IsNumber (.integer w n) n.val

namespace Value

theorem asInteger_eq_some_iff {v : Value} {n : SizedInt .big} :
    v.asInteger = some n ↔ v.IsNumber n.val := by
  constructor
  · intro h
    cases v with
    | bool b => cases b <;> cases h <;> constructor
    | integer w m =>
      cases h
      exact .integer m
    | _ => cases h
  · intro h
    obtain ⟨n, hn⟩ := n
    cases h <;> rfl

theorem IsNumber.holds {v : Value} {n : Int} (h : v.IsNumber n) : IntWidth.big.Holds n := by
  cases h with
  | no => exact IntWidth.big.holds_zero
  | yes => exact IntWidth.big.holds_one
  | integer m => exact m.holds.big

theorem IsNumber.unique {v : Value} {m n : Int} (hm : v.IsNumber m) (hn : v.IsNumber n) :
    m = n := by
  cases hm <;> cases hn <;> rfl

@[simp] theorem isNumber_integer_iff {w : IntWidth} {m : SizedInt w} {n : Int} :
    (integer w m).IsNumber n ↔ m.val = n :=
  ⟨fun h => (IsNumber.integer m).unique h, fun h => h ▸ .integer m⟩

end Value

theorem SizedInt.eq_of_val {w : IntWidth} {m n : SizedInt w} (h : m.val = n.val) : m = n := by
  cases m
  cases n
  cases h
  rfl

/-- A number from `0` to `2 ^ 32 - 1` is in the range of the greatest width. -/
theorem holds_count (n : UInt32) : IntWidth.big.Holds n.toNat := by
  have hlt : n.toNat < 4294967296 := n.toNat_lt
  change -9223372036854775808 ≤ (n.toNat : Int) ∧ (n.toNat : Int) < 9223372036854775808
  omega

namespace Scalar

/-- What a field of the type holds. -/
def Content : Scalar → Type
  | .bool => Bool
  | .integer w => SizedInt w
  | .count => UInt32
  | .single => Single
  | .double => Double
  | .text => String
  | .bytes => List UInt8
  | .document => Document
  | .any => Value

/-- The value that stands for a content. -/
def toValue : (s : Scalar) → s.Content → Value
  | .bool, b => .bool b
  | .integer w, n => .integer w n
  | .count, n => .integer .big ⟨n.toNat, holds_count n⟩
  | .single, x => .single x
  | .double, x => .double x
  | .text, s => .text s
  | .bytes, b => .bytes b
  | .document, d => .document d
  | .any, v => v

/-- Truth values, integers, texts and bytes. -/
def IsPlain : Scalar → Prop
  | .bool | .integer _ | .count | .text | .bytes => True
  | .single | .double | .document | .any => False

def IsInteger : Scalar → Prop
  | .integer _ | .count => True
  | _ => False

/-- The number is one that an integer type holds. -/
def Covers : Scalar → Int → Prop
  | .integer w, n => w.Holds n
  | .count, n => 0 ≤ n ∧ n < 2 ^ 32
  | _, _ => False

variable {s : Scalar} {v : Value} {n : Int}

/-- A type shows the values that stand for its contents. -/
theorem shows_iff : s.Shows v ↔ ∃ x, s.toValue x = v := by
  constructor
  · intro h
    cases s with
    | any => exact ⟨v, rfl⟩
    | integer w =>
      cases v <;> simp only [Shows] at h
      subst h
      exact ⟨_, rfl⟩
    | count =>
      cases v with
      | integer w n =>
        cases w <;> simp only [Shows] at h
        obtain ⟨n, hn⟩ := n
        obtain ⟨k, rfl⟩ := Int.eq_ofNat_of_zero_le h.1
        have hk : k < UInt32.size := Int.ofNat_lt.mp h.2
        refine ⟨UInt32.ofNat k, ?_⟩
        simp only [toValue, UInt32.toNat_ofNat_of_lt' hk]
      | _ => simp only [Shows] at h
    | _ =>
      cases v <;> simp only [Shows] at h
      exact ⟨_, rfl⟩
  · rintro ⟨x, rfl⟩
    cases s with
    | integer w => rfl
    | count => exact ⟨Int.natCast_nonneg _, Int.ofNat_lt.mpr x.toNat_lt⟩
    | _ => trivial

/-- A value stands for one content at most. -/
theorem toValue_injective {x y : s.Content} (h : s.toValue x = s.toValue y) : x = y := by
  cases s with
  | any => exact h
  | count =>
    simp only [toValue, Value.integer.injEq, heq_eq_eq, true_and, SizedInt.mk.injEq,
      Int.natCast_inj] at h
    exact UInt32.toNat_inj.mp h
  | _ =>
    simp only [toValue] at h
    cases h
    rfl

/-- Nothing is read into a plain type from a missing value. -/
theorem isNull_of_read (hs : s.IsPlain) {w : Value} (h : s.read v = .ok w) : v.isNull = false := by
  cases v with
  | null => cases s <;> first | exact hs.elim | cases h
  | _ => rfl

theorem read_toValue (x : s.Content) : s.read (s.toValue x) = .ok (s.toValue x) :=
  read_of_shows (shows_iff.mpr ⟨x, rfl⟩)

/-- The content that is read has the number that was there. -/
theorem isNumber_of_read (hs : s.IsInteger) {w : Value} (h : s.read v = .ok w) :
    ∃ n, v.IsNumber n ∧ w.IsNumber n ∧ s.Covers n := by
  cases s with
  | integer width =>
    simp only [read, readInteger] at h
    cases hv : v.asInteger with
    | none =>
      rw [hv] at h
      cases h
    | some n =>
      rw [hv] at h
      cases hm : SizedInt.ofInt? width n.val with
      | none =>
        simp only [hm] at h
        cases h
      | some m =>
        simp only [hm] at h
        cases h
        have hmn : m.val = n.val := SizedInt.ofInt?_eq_some_iff.mp hm
        exact ⟨n.val, Value.asInteger_eq_some_iff.mp hv, hmn ▸ .integer m, hmn ▸ m.holds⟩
  | count =>
    simp only [read, readCount] at h
    cases hv : v.asInteger with
    | none =>
      rw [hv] at h
      cases h
    | some n =>
      simp only [hv] at h
      split at h
      · cases h
        rename_i hn
        exact ⟨n.val, Value.asInteger_eq_some_iff.mp hv, .integer n, by simpa [Covers] using hn⟩
      · cases h
  | _ => exact hs.elim

/-- Every number that the type holds is read. -/
theorem exists_read_of_isNumber (hv : v.IsNumber n) (hn : s.Covers n) : ∃ w, s.read v = .ok w := by
  have has : v.asInteger = some ⟨n, hv.holds⟩ := Value.asInteger_eq_some_iff.mpr hv
  cases s with
  | integer width =>
    have hm : SizedInt.ofInt? width n = some ⟨n, hn⟩ := SizedInt.ofInt?_eq_some_iff.mpr rfl
    exact ⟨.integer width ⟨n, hn⟩, by simp only [read, readInteger, has, hm]⟩
  | count =>
    have hn : (decide (0 ≤ n) && decide (n < 2 ^ 32)) = true := by
      rw [decide_eq_true hn.1, decide_eq_true hn.2]
      rfl
    refine ⟨.integer .big ⟨n, hv.holds⟩, ?_⟩
    simp only [read, readCount, has]
    exact if_pos hn
  | _ => exact hn.elim

/-- No two contents of an integer type have one number. -/
theorem eq_of_isNumber (hs : s.IsInteger) {x y : s.Content} (hx : (s.toValue x).IsNumber n)
    (hy : (s.toValue y).IsNumber n) : x = y := by
  cases s with
  | integer w =>
    exact SizedInt.eq_of_val
      ((Value.isNumber_integer_iff.mp hx).trans (Value.isNumber_integer_iff.mp hy).symm)
  | count =>
    simp only [toValue, Value.isNumber_integer_iff] at hx hy
    exact UInt32.toNat_inj.mp (Int.natCast_inj.mp (hx.trans hy.symm))
  | _ => exact hs.elim

/-- An integer is read exactly if the value is a number that the type holds; it has that number. -/
theorem read_integer (hs : s.IsInteger) (v : Value) :
    ((∃ w, s.read v = .ok w) ↔ ∃ n, v.IsNumber n ∧ s.Covers n) ∧
    ∀ w, s.read v = .ok w → ∃ x n, w = s.toValue x ∧ w.IsNumber n ∧ v.IsNumber n := by
  refine ⟨⟨?_, ?_⟩, fun w hw => ?_⟩
  · rintro ⟨w, hw⟩
    obtain ⟨n, hv, -, hn⟩ := isNumber_of_read hs hw
    exact ⟨n, hv, hn⟩
  · rintro ⟨n, hv, hn⟩
    exact exists_read_of_isNumber hv hn
  · obtain ⟨x, rfl⟩ := shows_iff.mp (shows_of_read hw)
    obtain ⟨n, hv, hx, -⟩ := isNumber_of_read hs hw
    exact ⟨x, n, rfl, hx, hv⟩

/-- Any value with the number of a content is read as that content. -/
theorem read_of_sameNumber (hs : s.IsInteger) {x : s.Content} (hx : (s.toValue x).IsNumber n)
    (hv : v.IsNumber n) : s.read v = .ok (s.toValue x) := by
  obtain ⟨m, hm, -, hcovers⟩ := isNumber_of_read hs (read_toValue x)
  obtain rfl := hm.unique hx
  obtain ⟨w, hw⟩ := exists_read_of_isNumber hv hcovers
  obtain ⟨y, rfl⟩ := shows_iff.mp (shows_of_read hw)
  obtain ⟨k, hk, hy, -⟩ := isNumber_of_read hs hw
  obtain rfl := hk.unique hv
  rw [hw, eq_of_isNumber hs hx hy]

end Scalar

namespace FieldType

def scalar : FieldType → Scalar
  | .required s => s
  | .optional s => s

/-- What a field of the type holds, or nothing if it may be missing. -/
def Content : FieldType → Type
  | .required s => s.Content
  | .optional s => Option s.Content

/-- The value that stands for a content; a missing one stands for nothing. -/
def toValue : (t : FieldType) → t.Content → Value
  | .required s, x => s.toValue x
  | .optional s, x => (x.map s.toValue).getD .null

variable {t : FieldType}

theorem shows_toValue (x : t.Content) : t.Shows (t.toValue x) := by
  cases t with
  | required s => exact Scalar.shows_iff.mpr ⟨x, rfl⟩
  | optional s =>
    cases x with
    | none => exact .inl rfl
    | some x => exact .inr (Scalar.shows_iff.mpr ⟨x, rfl⟩)

theorem toValue_injective (ht : t.scalar.IsPlain) {x y : t.Content}
    (h : t.toValue x = t.toValue y) : x = y := by
  cases t with
  | required s => exact Scalar.toValue_injective h
  | optional s =>
    have hpresent (z : s.Content) : (s.toValue z).isNull = false :=
      Scalar.isNull_of_read ht (Scalar.read_toValue z)
    rcases x with _ | x <;> rcases y with _ | y
    · rfl
    · cases (congrArg Value.isNull h).trans (hpresent y)
    · cases (hpresent x).symm.trans (congrArg Value.isNull h)
    · exact congrArg some (Scalar.toValue_injective h)

/-- What is read in place of a plain content is read in place of one that may be missing. -/
theorem read_optional {s : Scalar} (hs : s.IsPlain) {v w : Value} (h : s.read v = .ok w) :
    (optional s).read v = .ok w := by
  simp only [read, Scalar.isNull_of_read hs h]
  exact h

end FieldType

end EntityMapper
