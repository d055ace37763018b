import EntityMapper.Proofs.Associations
import EntityMapper.Proofs.Entity.KeyEquality
import EntityMapper.Store.Entry
/-! Equality of keys compared with what they are looked up by. Zeros of different sign are equal and
do not look the same; nothing else is told apart by its looks alone. -/

namespace EntityMapper

namespace Binary

variable {f : BinaryFormat}

/-- Whether two numbers are not zeros of different sign. -/
def sameZero (x y : Binary f) : Bool :=
  !(x.magnitude == 0 && y.magnitude == 0) || x.isNegative == y.isNegative

theorem bits_lt (x : Binary f) : x.bits.val < f.signBit + f.signBit := by
  have hwidth : 2 ^ f.width = f.signBit + f.signBit := by
    rw [BinaryFormat.width, Nat.pow_succ, Nat.mul_two]
    rfl
  exact Nat.lt_of_lt_of_eq x.bits.isLt hwidth

/-- A pattern is a magnitude with a sign. -/
theorem bits_eq (x : Binary f) :
    x.bits.val = x.magnitude + if x.isNegative then f.signBit else 0 := by
  have hlt := x.bits_lt
  unfold magnitude isNegative
  by_cases h : f.signBit ≤ x.bits.val
  · rw [Nat.mod_eq_sub_mod h, Nat.mod_eq_of_lt (by omega)]
    simp [h]
  · rw [Nat.mod_eq_of_lt (by omega)]
    simp [h]

theorem eq_of_bits {x y : Binary f} (h : x.bits = y.bits) : x = y := by
  cases x
  cases y
  cases h
  rfl

/-- Equal numbers are one number, or zeros. -/
theorem eq_or_zero_of_equal {x y : Binary f} (h : x.equal y = true) :
    x = y ∨ x.magnitude = 0 ∧ y.magnitude = 0 := by
  simp only [equal, Bool.and_eq_true, Bool.or_eq_true, beq_iff_eq] at h
  exact h.2.imp_left eq_of_bits

theorem sameZero_self (x : Binary f) : x.sameZero x = true := by
  simp [sameZero]

theorem eq_of_sameZero {x y : Binary f} (h : x.equal y = true) (hz : x.sameZero y = true) :
    x = y := by
  rcases eq_or_zero_of_equal h with heq | ⟨hx, hy⟩
  · exact heq
  · have hsign : x.isNegative = y.isNegative := by simpa [sameZero, hx, hy] using hz
    exact eq_of_bits (Fin.ext (by rw [x.bits_eq, y.bits_eq, hx, hy, hsign]))

/-- A zero is written with its sign. -/
theorem write_zero {x : Double} (hx : x.magnitude = 0) :
    (NumberLayout.document.write x).toList =
      if x.isNegative then ['-', '0', '.', '0'] else ['0', '.', '0'] := by
  have hunpack : x.unpack = .finite x.isNegative 0 BinaryFormat.double.leastExponent := by
    unfold unpack
    simp only [hx, Nat.zero_div, Nat.zero_mod]
    rfl
  rw [NumberLayout.write, hunpack]
  cases x.isNegative <;> rfl

/-- Of equal numbers with one text before the rest, no zero has another sign. -/
theorem sameZero_of_write {x y : Double} (h : x.equal y = true) {s t : List Char}
    (hw : (NumberLayout.document.write x).toList ++ s =
      (NumberLayout.document.write y).toList ++ t) : x.sameZero y = true ∧ s = t := by
  rcases eq_or_zero_of_equal h with rfl | ⟨hx, hy⟩
  · exact ⟨sameZero_self x, List.append_cancel_left hw⟩
  · rw [write_zero hx, write_zero hy] at hw
    cases hsx : x.isNegative <;> cases hsy : y.isNegative <;> simp [hsx, hsy] at hw <;>
      simp [sameZero, hsx, hsy, hw]

end Binary

namespace Document

mutual

/-- Whether no zeros in one place of two documents differ in sign. -/
def sameZeros : Document → Document → Bool
  | .real x, .real y => x.sameZero y
  | .array as, .array bs => sameItems as bs
  | .object as, .object bs => sameMembers as bs
  | _, _ => true

def sameItems : List Document → List Document → Bool
  | a :: as, b :: bs => sameZeros a b && sameItems as bs
  | _, _ => true

def sameMembers : List (String × Document) → List (String × Document) → Bool
  | (_, a) :: as, (_, b) :: bs => sameZeros a b && sameMembers as bs
  | _, _ => true

end

mutual

theorem eq_of_sameZeros : ∀ {a b : Document}, a.equal b = true → a.sameZeros b = true → a = b
  | .null, .null, _, _ => rfl
  | .bool _, .bool _, h, _ => congrArg _ (beq_iff_eq.mp h)
  | .integer _, .integer _, h, _ => congrArg _ (beq_iff_eq.mp h)
  | .real _, .real _, h, hz => congrArg _ (Binary.eq_of_sameZero h hz)
  | .text _, .text _, h, _ => congrArg _ (beq_iff_eq.mp h)
  | .array _, .array _, h, hz => congrArg _ (eq_of_sameItems h hz)
  | .object _, .object _, h, hz => congrArg _ (eq_of_sameMembers h hz)

theorem eq_of_sameItems : ∀ {as bs : List Document}, equalItems as bs = true →
    sameItems as bs = true → as = bs
  | [], [], _, _ => rfl
  | a :: as, b :: bs, h, hz => by
    simp only [equalItems, sameItems, Bool.and_eq_true] at h hz
    rw [eq_of_sameZeros h.1 hz.1, eq_of_sameItems h.2 hz.2]

theorem eq_of_sameMembers : ∀ {as bs : List (String × Document)}, equalMembers as bs = true →
    sameMembers as bs = true → as = bs
  | [], [], _, _ => rfl
  | (k, a) :: as, (l, b) :: bs, h, hz => by
    simp only [equalMembers, sameMembers, Bool.and_eq_true, beq_iff_eq] at h hz
    rw [h.1.1, eq_of_sameZeros h.1.2 hz.1, eq_of_sameMembers h.2 hz.2]

end

mutual

/-- The text of a document ends where that of an equal one ends, and shows the sign of each
zero. -/
theorem sameZeros_of_print : ∀ {a b : Document} {s t : List Char}, a.equal b = true →
    a.print ++ s = b.print ++ t → a.sameZeros b = true ∧ s = t
  | .null, .null, _, _, _, hp => ⟨rfl, List.append_cancel_left hp⟩
  | .bool x, .bool y, s, t, h, hp => by
    obtain rfl : x = y := beq_iff_eq.mp h
    exact ⟨rfl, List.append_cancel_left hp⟩
  | .integer x, .integer y, s, t, h, hp => by
    obtain rfl : x = y := beq_iff_eq.mp h
    exact ⟨rfl, List.append_cancel_left hp⟩
  | .text x, .text y, s, t, h, hp => by
    obtain rfl : x = y := beq_iff_eq.mp h
    exact ⟨rfl, List.append_cancel_left hp⟩
  | .real x, .real y, s, t, h, hp => by
    rw [print, print] at hp
    exact Binary.sameZero_of_write h hp
  | .array [], .array [], _, _, _, hp => ⟨rfl, List.append_cancel_left hp⟩
  | .array (a :: as), .array (b :: bs), s, t, h, hp => by
    obtain ⟨ha, has⟩ := Bool.and_eq_true_iff.mp h
    simp only [print, List.cons_append, List.append_assoc, List.nil_append, List.cons.injEq,
      true_and] at hp
    obtain ⟨hza, hrest⟩ := sameZeros_of_print ha hp
    obtain ⟨hzas, hend⟩ := sameItems_of_print has hrest
    exact ⟨Bool.and_eq_true_iff.mpr ⟨hza, hzas⟩, List.tail_eq_of_cons_eq hend⟩
  | .object [], .object [], _, _, _, hp => ⟨rfl, List.append_cancel_left hp⟩
  | .object ((k, a) :: as), .object ((l, b) :: bs), s, t, h, hp => by
    obtain ⟨hka, has⟩ := Bool.and_eq_true_iff.mp h
    obtain ⟨hk, ha⟩ := Bool.and_eq_true_iff.mp hka
    obtain rfl : k = l := beq_iff_eq.mp hk
    simp only [print, List.cons_append, List.append_assoc, List.nil_append, List.cons.injEq,
      true_and, List.append_cancel_left_eq] at hp
    obtain ⟨hza, hrest⟩ := sameZeros_of_print ha hp
    obtain ⟨hzas, hend⟩ := sameMembers_of_print has hrest
    exact ⟨Bool.and_eq_true_iff.mpr ⟨hza, hzas⟩, List.tail_eq_of_cons_eq hend⟩

theorem sameItems_of_print : ∀ {as bs : List Document} {s t : List Char},
    equalItems as bs = true → printItems as ++ s = printItems bs ++ t →
    sameItems as bs = true ∧ s = t
  | [], [], _, _, _, hp => ⟨rfl, hp⟩
  | a :: as, b :: bs, s, t, h, hp => by
    obtain ⟨ha, has⟩ := Bool.and_eq_true_iff.mp h
    simp only [printItems, List.cons_append, List.append_assoc, List.cons.injEq, true_and] at hp
    obtain ⟨hza, hrest⟩ := sameZeros_of_print ha hp
    obtain ⟨hzas, hend⟩ := sameItems_of_print has hrest
    exact ⟨Bool.and_eq_true_iff.mpr ⟨hza, hzas⟩, hend⟩

theorem sameMembers_of_print : ∀ {as bs : List (String × Document)} {s t : List Char},
    equalMembers as bs = true → printMembers as ++ s = printMembers bs ++ t →
    sameMembers as bs = true ∧ s = t
  | [], [], _, _, _, hp => ⟨rfl, hp⟩
  | (k, a) :: as, (l, b) :: bs, s, t, h, hp => by
    obtain ⟨hka, has⟩ := Bool.and_eq_true_iff.mp h
    obtain ⟨hk, ha⟩ := Bool.and_eq_true_iff.mp hka
    obtain rfl : k = l := beq_iff_eq.mp hk
    simp only [printMembers, List.cons_append, List.append_assoc, List.cons.injEq, true_and,
      List.append_cancel_left_eq] at hp
    obtain ⟨hza, hrest⟩ := sameZeros_of_print ha hp
    obtain ⟨hzas, hend⟩ := sameMembers_of_print has hrest
    exact ⟨Bool.and_eq_true_iff.mpr ⟨hza, hzas⟩, hend⟩

end

/-- Equal documents have one text exactly if their zeros have the same signs. -/
theorem render_eq_iff {a b : Document} (h : a.equal b = true) :
    a.render = b.render ↔ a.sameZeros b = true := by
  constructor
  · intro hr
    have hp : a.print ++ [] = b.print ++ [] := by
      rw [List.append_nil, List.append_nil]
      exact String.ofList_injective hr
    exact (sameZeros_of_print h hp).1
  · intro hz
    rw [eq_of_sameZeros h hz]

end Document

namespace Value

/-- Whether no zeros in one place of two values differ in sign. -/
def sameZeros : Value → Value → Bool
  | .single x, .single y => x.sameZero y
  | .double x, .double y => x.sameZero y
  | .document a, .document b => a.sameZeros b
  | _, _ => true

theorem eq_of_sameZeros {a b : Value} (h : a.equal b = true) (hz : a.sameZeros b = true) :
    a = b := by
  cases ha : a.isExact with
  | true => exact eq_of_equal ha h
  | false =>
    cases a <;> cases b <;> simp only [equal, Bool.false_eq_true, isExact, reduceCtorEq] at h ha
    case single.single => exact congrArg single (Binary.eq_of_sameZero h hz)
    case double.double => exact congrArg double (Binary.eq_of_sameZero h hz)
    case document.document => exact congrArg document (Document.eq_of_sameZeros h hz)

/-- Equal values have one fingerprint exactly if their zeros have the same signs. -/
theorem fingerprint_eq_iff {a b : Value} (h : a.equal b = true) :
    a.fingerprint = b.fingerprint ↔ a.sameZeros b = true := by
  refine ⟨fun hf => ?_, fun hz => by rw [eq_of_sameZeros h hz]⟩
  have hbits {f : BinaryFormat} {x y : Binary f} (hxy : x.bits.val = y.bits.val) :
      x.sameZero y = true :=
    Binary.eq_of_bits (Fin.ext hxy) ▸ Binary.sameZero_self x
  cases a <;> cases b <;> simp only [equal, Bool.false_eq_true] at h
  case single.single => exact hbits (Fingerprint.single.inj hf)
  case double.double => exact hbits (Fingerprint.double.inj hf)
  case document.document => exact (Document.render_eq_iff h).mp (Fingerprint.document.inj hf)
  all_goals rfl

/-- Integers of any widths identify the same entity exactly if they are one number. -/
theorem equal_identity_integer {w v : IntWidth} (n : SizedInt w) (m : SizedInt v) :
    (integer w n).identity.equal (integer v m).identity = true ↔ n.val = m.val := by
  simp [identity, equal]

end Value

namespace EntityKey

variable {a b : EntityKey}

theorem fingerprint_eq_iff (h : a.equal b = true) :
    a.fingerprint = b.fingerprint ↔ a.id.sameZeros b.id = true := by
  obtain ⟨hpath, hid⟩ := Bool.and_eq_true_iff.mp h
  rw [← Value.fingerprint_eq_iff hid, fingerprint, fingerprint, beq_iff_eq.mp hpath]
  simp

theorem beq_iff (h : a.equal b = true) : (a == b) = true ↔ a.id.sameZeros b.id = true := by
  rw [beq_def, h, Bool.true_and, beq_iff_eq]
  exact fingerprint_eq_iff h

/-- What is put under a key is found under another one only if the keys find each other. -/
theorem beq_iff_find?_put :
    (a == b) = true ↔
      ∀ (m : IdentityMap) (h : Handle), (m.put ⟨a, h⟩).find? b = some ⟨a, h⟩ := by
  refine ⟨fun hab m h => Assoc.find?_insert_of_beq m hab _, fun hfound => ?_⟩
  cases hab : a == b with
  | true => rfl
  | false =>
    have hsome := hfound .empty 0
    rw [IdentityMap.put, Assoc.find?_insert_of_not_beq _ hab] at hsome
    cases hsome

/-- Equal keys look the same, and find what is put under each other, exactly if no zero of theirs
differs in sign. Integers of any widths give equal keys of one type exactly if they are one
number. -/
theorem equal_keys_look_same_iff (a b : EntityKey) (t : EntityType) {w v : IntWidth}
    (n : SizedInt w) (m : SizedInt v) :
    (a.equal b = true →
      (a.fingerprint = b.fingerprint ↔ a.id.sameZeros b.id = true) ∧
        ((∀ (map : IdentityMap) (h : Handle), (map.put ⟨a, h⟩).find? b = some ⟨a, h⟩) ↔
          a.id.sameZeros b.id = true)) ∧
      ((of t (.integer w n)).equal (of t (.integer v m)) = true ↔ n.val = m.val) := by
  refine ⟨fun h => ⟨fingerprint_eq_iff h, ?_⟩, ?_⟩
  · rw [← beq_iff_find?_put]
    exact beq_iff h
  · rw [← Value.equal_identity_integer n m]
    simp [equal, of, path?]

end EntityKey

namespace SampleZeros

def reading : EntityType where
  path := "Reading"
  name := "Reading"
  fields := []

def keyOf (bits : Nat) : EntityKey :=
  .of reading (.double (.ofBits .double bits))

def plus : EntityKey :=
  keyOf 0

def minus : EntityKey :=
  keyOf 0x8000000000000000

/-- One as a number of the narrowest and of the widest integers. -/
def narrow : SizedInt .tiny :=
  ⟨1, IntWidth.tiny.holds_one⟩

def wide : SizedInt .big :=
  ⟨1, IntWidth.big.holds_one⟩

/-- The two zeros are equal keys that do not find each other, unlike a narrow and a wide one. -/
theorem equal_keys_look_same_iff_zeros :
    plus.equal minus = true ∧ plus.fingerprint ≠ minus.fingerprint ∧
      (¬ ∀ (m : IdentityMap) (h : Handle), (m.put ⟨plus, h⟩).find? minus = some ⟨plus, h⟩) ∧
      (EntityKey.of reading (.integer .tiny narrow)).equal (.of reading (.integer .big wide)) =
        true := by
  have hequal : plus.equal minus = true := by decide
  have hzeros : plus.id.sameZeros minus.id ≠ true := by decide
  obtain ⟨hkeys, hone⟩ := EntityKey.equal_keys_look_same_iff plus minus reading narrow wide
  obtain ⟨hlooks, hfinds⟩ := hkeys hequal
  exact ⟨hequal, fun h => hzeros (hlooks.mp h), fun h => hzeros (hfinds.mp h), hone.mpr rfl⟩

end SampleZeros

end EntityMapper
