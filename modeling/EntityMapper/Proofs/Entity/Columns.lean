import EntityMapper.Entity.Hydration
import EntityMapper.Proofs.Associations
import EntityMapper.Proofs.Computation
import EntityMapper.Scenario.Catalogue
import Mathlib.Data.List.Induction
/-! Columns: a name finds the leftmost column that has it, so that an entity is built from the
columns of its own table, whatever a join puts behind them. -/

namespace EntityMapper

/-- The first position at which a name stands. -/
structure LeftmostAt (names : List String) (name : String) (i : Nat) : Prop where
  stands : names[i]? = some name
  first : ∀ k < i, names[k]? ≠ some name

namespace Header

variable (names : List String) (name : String)

theorem index_concat (last : String) :
    (ofNames (names ++ [last])).index = (ofNames names).index.insertNew last names.length := by
  simp [ofNames, List.zipIdx_append]

/-- The index of a header gives what a search from the left gives. -/
theorem indexOf?_ofNames : (ofNames names).indexOf? name = names.findIdx? (· == name) := by
  induction names using List.reverseRecOn with
  | nil => rfl
  | append_singleton names last ih =>
    rw [indexOf?] at ih ⊢
    rw [index_concat, Assoc.find?_insertNew, ih, List.findIdx?_append, List.findIdx?_singleton]
    cases last == name <;> simp

variable {names name} {i : Nat}

theorem indexOf?_eq_some_iff : (ofNames names).indexOf? name = some i ↔
    LeftmostAt names name i := by
  rw [indexOf?_ofNames, List.findIdx?_eq_some_iff_getElem]
  constructor
  · rintro ⟨hi, hname, hfirst⟩
    refine ⟨by rw [List.getElem?_eq_getElem hi, eq_of_beq hname], fun k hk hsame => ?_⟩
    obtain ⟨_, heq⟩ := List.getElem?_eq_some_iff.mp hsame
    exact hfirst k hk (beq_iff_eq.mpr heq)
  · intro h
    obtain ⟨hi, hname⟩ := List.getElem?_eq_some_iff.mp h.stands
    refine ⟨hi, beq_iff_eq.mpr hname, fun k hk hsame => h.first k hk ?_⟩
    rw [List.getElem?_eq_getElem (Nat.lt_trans hk hi), eq_of_beq hsame]

end Header

namespace Row

variable {names : List String} {values : List Value} {name : String} {n : Nat} {r s : Row}

theorem get?_eq_some_iff {v : Value} : (ofLists names values).get? name = some v ↔
    ∃ i, LeftmostAt names name i ∧ values[i]? = some v :=
  Option.bind_eq_some_iff.trans
    (exists_congr fun _ => and_congr_left' Header.indexOf?_eq_some_iff)

theorem get?_ofLists :
    (ofLists names values).get? name = (names.findIdx? (· == name)).bind (values[·]?) := by
  rw [← Header.indexOf?_ofNames]
  rfl

/-- The row with its first columns only. -/
def cut (r : Row) (n : Nat) : Row :=
  .ofLists (r.header.names.take n) (r.values.take n)

/-- A name that stands in the first columns finds the same in them as in the whole row. -/
theorem get?_cut (h : name ∈ names.take n) :
    ((ofLists names values).cut n).get? name = (ofLists names values).get? name := by
  obtain ⟨i, hi⟩ : ∃ i, (names.take n).findIdx? (· == name) = some i :=
    ⟨_, List.findIdx?_eq_some_of_exists ⟨name, h, beq_self_eq_true name⟩⟩
  have hwhole : names.findIdx? (· == name) = some i :=
    (List.take_prefix n names).findIdx?_eq_some hi
  have hlt : i < n := by
    obtain ⟨hlength, -⟩ := List.findIdx?_eq_some_iff_getElem.mp hi
    exact Nat.lt_of_lt_of_le hlength (List.length_take_le n names)
  have hcut : (ofLists names values).cut n = ofLists (names.take n) (values.take n) := rfl
  calc ((ofLists names values).cut n).get? name
      = (values.take n)[i]? := by rw [hcut, get?_ofLists, hi, Option.bind_some]
    _ = values[i]? := List.getElem?_take_of_lt hlt
    _ = (ofLists names values).get? name := by rw [get?_ofLists, hwhole, Option.bind_some]

theorem require_congr (h : r.get? name = s.get? name) : r.require name = s.require name := by
  rw [require, require, h]

theorem read_congr (h : r.get? name = s.get? name) (t : FieldType) :
    r.read name t = s.read name t := by
  rw [read, read, require_congr h]

end Row

namespace EntityType

/-- The column that a field of an entity is built from. A collection is built from the identifier
of its owner. -/
def columnFor? (t : EntityType) (f : EntityField) : Option String :=
  match f.role with
  | .column _ => some f.columnName
  | .reference _ _ joinColumn => some joinColumn
  | .collection .. => some t.idColumn
  | .transient => none

/-- All columns that an entity is built from. -/
def columnsRead (t : EntityType) : List String :=
  t.fields.filterMap t.columnFor?

end EntityType

namespace Instance

variable {m : Type → Type} [Monad m] (linker : Linker m) {t : EntityType} {r s : Row}

/-- A field is built from its own column alone. -/
theorem readSlot_congr {f : EntityField} (h : ∀ c ∈ t.columnFor? f, r.get? c = s.get? c) :
    readSlot linker t r f = readSlot linker t s f := by
  unfold EntityType.columnFor? at h
  unfold readSlot
  cases hrole : f.role <;> simp only [hrole, Option.mem_some_iff, forall_eq'] at h ⊢
  case column => rw [Row.read_congr h]
  all_goals rw [Row.require_congr h]

theorem ofRow_congr [LawfulMonad m] (h : ∀ c ∈ t.columnsRead, r.get? c = s.get? c) :
    ofRow linker t r = ofRow linker t s := by
  have hslots : t.fields.mapM (fun f => do return (f.name, ← readSlot linker t r f)) =
      t.fields.mapM (fun f => do return (f.name, ← readSlot linker t s f)) := by
    refine mapM_congr fun f hf => ?_
    rw [readSlot_congr linker fun c hc => h c (List.mem_filterMap.mpr ⟨f, hf, hc⟩)]
  rw [ofRow, ofRow, hslots]

end Instance

/-- A name finds what stands at its leftmost position, if the row has a value there. So an entity
that reads the first columns of a row only is built alike from the whole row and from the row that
is cut down to these columns. -/
theorem Row.finds_leftmost (names : List String) (values : List Value) :
    (∀ name v, (ofLists names values).get? name = some v ↔
      ∃ i, LeftmostAt names name i ∧ values[i]? = some v) ∧
    ∀ (t : EntityType) (n : Nat), (∀ c ∈ t.columnsRead, c ∈ names.take n) →
      ∀ (m : Type → Type) [Monad m] [LawfulMonad m] (linker : Linker m),
        Instance.ofRow linker t (ofLists names values) =
          Instance.ofRow linker t ((ofLists names values).cut n) :=
  ⟨fun _ _ => get?_eq_some_iff,
    fun _ _ h _ _ _ linker => Instance.ofRow_congr linker fun c hc => (get?_cut (h c hc)).symm⟩

namespace SampleJoin

open SampleTypes

/-- Gives each reference a person with nothing but the identifier. -/
def linker : Linker Id where
  reference _ id := pure (some ⟨person, [("id", .value id)]⟩)
  collection _ _ _ _ := pure none

/-- A note beside the person that it refers to. -/
def joined : Row :=
  .ofLists (["id", "title", "body", "person_id"] ++ ["id", "fname", "last_name", "age", "male"])
    [.big 1 IntWidth.big.holds_one, .text "first", .null, .big 0 IntWidth.big.holds_zero,
      .big 0 IntWidth.big.holds_zero, .text "Ada", .text "Lovelace"]

/-- The note has its own identifier, and the join column stands for its person. -/
theorem finds_leftmost_joined : (∀ c ∈ note.columnsRead, c ∈ joined.header.names.take 4) ∧
    joined.get? "id" = some (.big 1 IntWidth.big.holds_one) ∧
    Instance.ofRow linker note joined = Instance.ofRow linker note (joined.cut 4) ∧
    ∃ i, Instance.ofRow linker note joined = (.ok i : Except Error Instance) ∧
      i.idValue = .big 1 IntWidth.big.holds_one ∧
      i.fieldValue "person" = some (.big 0 IntWidth.big.holds_zero) := by
  have hreads : ∀ c ∈ note.columnsRead, c ∈ joined.header.names.take 4 := by decide
  obtain ⟨hfinds, hcut⟩ := Row.finds_leftmost joined.header.names joined.values
  have hfirst : LeftmostAt joined.header.names "id" 0 := ⟨rfl, nofun⟩
  exact ⟨hreads, (hfinds _ _).mpr ⟨0, hfirst, rfl⟩, hcut note 4 hreads Id linker, _, rfl, rfl, rfl⟩

end SampleJoin

end EntityMapper
