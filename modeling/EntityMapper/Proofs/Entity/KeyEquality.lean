import EntityMapper.Entity.Key
/-! Equality of values and keys: it can be turned round and chained, and all that holds no NaN
equals itself. -/

namespace EntityMapper

namespace Binary

variable {f : BinaryFormat}

theorem equal_comm (x y : Binary f) : x.equal y = y.equal x := by
  unfold equal
  rw [Bool.beq_comm (a := x.bits), Bool.and_comm (!x.isNaN), Bool.and_comm (x.magnitude == 0)]

theorem equal_trans {x y z : Binary f} (hxy : x.equal y = true) (hyz : y.equal z = true) :
    x.equal z = true := by
  simp only [equal, Bool.and_eq_true, Bool.or_eq_true, beq_iff_eq] at hxy hyz ⊢
  obtain ⟨⟨hx, -⟩, hxy⟩ := hxy
  obtain ⟨⟨-, hz⟩, hyz⟩ := hyz
  refine ⟨⟨hx, hz⟩, ?_⟩
  have hm {u v : Binary f} (h : u.bits = v.bits) : u.magnitude = v.magnitude := by
    cases u
    cases v
    cases h
    rfl
  rcases hxy with hxy | ⟨hx0, hy0⟩
  · rcases hyz with hyz | ⟨hy0, hz0⟩
    · exact .inl (hxy.trans hyz)
    · exact .inr ⟨(hm hxy).trans hy0, hz0⟩
  · rcases hyz with hyz | ⟨-, hz0⟩
    · exact .inr ⟨hx0, (hm hyz).symm.trans hy0⟩
    · exact .inr ⟨hx0, hz0⟩

theorem equal_self (x : Binary f) : x.equal x = !x.isNaN := by
  simp [equal]

end Binary

namespace Document

mutual

theorem equal_comm : ∀ a b : Document, a.equal b = b.equal a
  | .null, b => by cases b <;> rfl
  | .bool x, b => by cases b <;> simp [equal, Bool.beq_comm]
  | .integer x, b => by cases b <;> simp [equal, Bool.beq_comm]
  | .real x, b => by cases b <;> simp [equal, Binary.equal_comm]
  | .text x, b => by cases b <;> simp [equal, Bool.beq_comm]
  | .array as, b => by
    cases b with
    | array bs => exact equalItems_comm as bs
    | _ => rfl
  | .object as, b => by
    cases b with
    | object bs => exact equalMembers_comm as bs
    | _ => rfl

theorem equalItems_comm : ∀ as bs : List Document, equalItems as bs = equalItems bs as
  | [], bs => by cases bs <;> rfl
  | a :: as, bs => by
    cases bs with
    | nil => rfl
    | cons b bs => simp only [equalItems, equal_comm a b, equalItems_comm as bs]

theorem equalMembers_comm :
    ∀ as bs : List (String × Document), equalMembers as bs = equalMembers bs as
  | [], bs => by cases bs <;> rfl
  | (k, a) :: as, bs => by
    cases bs with
    | nil => rfl
    | cons b bs =>
      simp only [equalMembers, equal_comm a b.2, equalMembers_comm as bs, Bool.beq_comm (a := k)]

end

mutual

theorem equal_trans : ∀ {a b c : Document}, a.equal b = true → b.equal c = true →
    a.equal c = true
  | a, b, c, hab, hbc => by
    cases a <;> cases b <;> cases c <;>
      simp only [equal, beq_iff_eq, Bool.false_eq_true] at hab hbc ⊢
    case bool.bool.bool => exact hab.trans hbc
    case integer.integer.integer => exact hab.trans hbc
    case real.real.real => exact Binary.equal_trans hab hbc
    case text.text.text => exact hab.trans hbc
    case array.array.array => exact equalItems_trans hab hbc
    case object.object.object => exact equalMembers_trans hab hbc

theorem equalItems_trans : ∀ {as bs cs : List Document}, equalItems as bs = true →
    equalItems bs cs = true → equalItems as cs = true
  | [], [], [], _, _ => rfl
  | a :: as, b :: bs, c :: cs, hab, hbc => by
    simp only [equalItems, Bool.and_eq_true] at hab hbc ⊢
    exact ⟨equal_trans hab.1 hbc.1, equalItems_trans hab.2 hbc.2⟩

theorem equalMembers_trans : ∀ {as bs cs : List (String × Document)}, equalMembers as bs = true →
    equalMembers bs cs = true → equalMembers as cs = true
  | [], [], [], _, _ => rfl
  | (k, a) :: as, (l, b) :: bs, (m, c) :: cs, hab, hbc => by
    simp only [equalMembers, Bool.and_eq_true, beq_iff_eq] at hab hbc ⊢
    exact ⟨⟨hab.1.1.trans hbc.1.1, equal_trans hab.1.2 hbc.1.2⟩, equalMembers_trans hab.2 hbc.2⟩

end

mutual

/-- Whether a number somewhere in a document is a NaN. -/
def hasNaN : Document → Bool
  | .real x => x.isNaN
  | .array items => anyNaN items
  | .object members => anyMemberNaN members
  | _ => false

def anyNaN : List Document → Bool
  | [] => false
  | d :: ds => d.hasNaN || anyNaN ds

def anyMemberNaN : List (String × Document) → Bool
  | [] => false
  | (_, d) :: ds => d.hasNaN || anyMemberNaN ds

end

mutual

theorem equal_self : ∀ d : Document, d.equal d = !d.hasNaN
  | .null => rfl
  | .bool b => beq_self_eq_true b
  | .integer n => beq_self_eq_true n
  | .real x => x.equal_self
  | .text s => beq_self_eq_true s
  | .array items => equalItems_self items
  | .object members => equalMembers_self members

theorem equalItems_self : ∀ ds : List Document, equalItems ds ds = !anyNaN ds
  | [] => rfl
  | d :: ds => by
    rw [equalItems, equal_self d, equalItems_self ds, anyNaN, Bool.not_or]

theorem equalMembers_self :
    ∀ ds : List (String × Document), equalMembers ds ds = !anyMemberNaN ds
  | [] => rfl
  | (k, d) :: ds => by
    rw [equalMembers, equal_self d, equalMembers_self ds, anyMemberNaN, beq_self_eq_true,
      Bool.true_and, Bool.not_or]

end

end Document

namespace Value

/-- Whether a value is a NaN, or a document that holds one. -/
def hasNaN : Value → Bool
  | .single x => x.isNaN
  | .double x => x.isNaN
  | .document d => d.hasNaN
  | _ => false

/-- Every value equals itself unless it holds a NaN. -/
theorem equal_self_eq (v : Value) : v.equal v = !v.hasNaN := by
  cases v with
  | single x => exact x.equal_self
  | double x => exact x.equal_self
  | document d => exact d.equal_self
  | _ => exact equal_self rfl

theorem equal_self_of_hasNaN {v : Value} (h : v.hasNaN = false) : v.equal v = true := by
  rw [equal_self_eq, h]
  rfl

theorem equal_comm (a b : Value) : a.equal b = b.equal a := by
  cases a <;> cases b <;>
    simp [equal, Bool.beq_comm, Binary.equal_comm, Document.equal_comm]

theorem equal_trans {a b c : Value} (hab : a.equal b = true) (hbc : b.equal c = true) :
    a.equal c = true := by
  cases a <;> cases b <;> cases c <;>
    simp only [equal, Bool.and_eq_true, beq_iff_eq, Bool.false_eq_true] at hab hbc ⊢
  case integer.integer.integer => exact ⟨hab.1.trans hbc.1, hab.2.trans hbc.2⟩
  case single.single.single => exact Binary.equal_trans hab hbc
  case double.double.double => exact Binary.equal_trans hab hbc
  case document.document.document => exact Document.equal_trans hab hbc
  all_goals exact hab.trans hbc

end Value

namespace EntityKey

instance : PartialEquivBEq EntityKey where
  symm {a b} h := by
    rw [beq_def] at h ⊢
    simp only [equal, Bool.and_eq_true, beq_iff_eq] at h ⊢
    obtain ⟨⟨hp, hv⟩, hf⟩ := h
    exact ⟨⟨hp.symm, Value.equal_comm _ _ ▸ hv⟩, hf.symm⟩
  trans {a b c} hab hbc := by
    rw [beq_def] at hab hbc ⊢
    simp only [equal, Bool.and_eq_true, beq_iff_eq] at hab hbc ⊢
    exact ⟨⟨hab.1.1.trans hbc.1.1, Value.equal_trans hab.1.2 hbc.1.2⟩, hab.2.trans hbc.2⟩

theorem beq_eq_equal_right (a : EntityKey) {b : EntityKey} (hb : b.id.isExact = true) :
    (a == b) = a.equal b := by
  have hcomm : b.equal a = a.equal b := by
    unfold equal
    rw [Bool.beq_comm (a := b.path?), Value.equal_comm]
  rw [BEq.comm, b.beq_eq_equal a hb, hcomm]

theorem beq_self {k : EntityKey} (hk : k.id.isExact = true) : (k == k) = true := by
  rw [k.beq_eq_equal k hk]
  simp [equal, Value.equal_self hk]

/-- A key is exact if an exact one finds it. -/
theorem isExact_of_beq {k l : EntityKey} (hk : k.id.isExact = true) (h : (k == l) = true) :
    l.id.isExact = true := by
  rw [beq_eq_equal k l hk, equal, Bool.and_eq_true] at h
  rwa [← Value.eq_of_equal hk h.2]

theorem path?_eq_of_beq {k l : EntityKey} (h : (k == l) = true) : k.path? = l.path? := by
  rw [beq_def] at h
  simp only [equal, Bool.and_eq_true, beq_iff_eq] at h
  exact h.1.1

end EntityKey

end EntityMapper
