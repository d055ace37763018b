import EntityMapper.Sql.Insertion
import EntityMapper.Proofs.Value.Contents
/-! Keeping: columns without affinity keep what is bound to a parameter, and a field reads its
content back from them. -/

namespace EntityMapper

namespace Sql

namespace Cell

/-- A number is kept, whatever width it is read back in. -/
theorem isNumber_toValue {v : Value} {n : Int} (h : v.IsNumber n) :
    (ofValue v).toValue.IsNumber n := by
  have hinteger (m : SizedInt .big) : (toValue (.integer m)).IsNumber m.val := by
    simp only [toValue]
    cases hm : SizedInt.ofInt? .medium m.val with
    | none => exact .integer m
    | some k => exact Value.isNumber_integer_iff.mpr (SizedInt.ofInt?_eq_some_iff.mp hm)
  cases h with
  | no => exact hinteger _
  | yes => exact hinteger _
  | integer m => exact hinteger m.widen

end Cell

/-- A plain content is read back from the cell of its value. -/
theorem read_kept {s : Scalar} (hs : s.IsPlain) (x : s.Content) :
    s.read (Cell.ofValue (s.toValue x)).toValue = .ok (s.toValue x) := by
  have hinteger (hs : s.IsInteger) :
      s.read (Cell.ofValue (s.toValue x)).toValue = .ok (s.toValue x) := by
    obtain ⟨n, hn, -, -⟩ := Scalar.isNumber_of_read hs (Scalar.read_toValue x)
    exact Scalar.read_of_sameNumber hs hn (Cell.isNumber_toValue hn)
  cases s with
  | bool => cases x <;> rfl
  | integer w => exact hinteger trivial
  | count => exact hinteger trivial
  | text => rfl
  | bytes => rfl
  | _ => exact hs.elim

/-- What a field of a plain type holds is read back from the cell of its value. -/
theorem read_field_kept {t : FieldType} (ht : t.scalar.IsPlain) (x : t.Content) :
    t.read (Cell.ofValue (t.toValue x)).toValue = .ok (t.toValue x) := by
  cases t with
  | required s => exact read_kept ht x
  | optional s =>
    cases x with
    | none => rfl
    | some x => exact FieldType.read_optional ht (read_kept ht x)

namespace Table

/-- A column with cells as they are given: it has no affinity and is not for numbers of rows. -/
structure IsFree (t : Table) (j : Nat) : Prop where
  column : (t.columns[j]?.map (·.affinity)) = some .blob
  key : t.key ≠ some j

/-- How a cell can come into a column of a row: with a new row, as the first that is for the
column, or by an assignment. Assignments to other columns leave it there. -/
inductive Puts (t : Table) (j : Nat) (c : Cell) : Record → Prop
  | new {i : Insertion} {cells : List Cell} {r : Record} (k : Nat) (hcell : cells[k]? = some c)
      (hplace : i.places[k]? = some (some j)) (hfirst : ∀ l < k, i.places[l]? ≠ some (some j))
      (hr : i.newRow t cells = .ok r) : Puts t j c r
  | assigned {old r : Record} (hj : j < old.cells.length)
      (hr : t.assign old (some j) c = .ok r) : Puts t j c r
  | kept {old r : Record} {place : Place} {other : Cell} (hold : Puts t j c old)
      (hplace : place ≠ some j) (hr : t.assign old place other = .ok r) : Puts t j c r

variable {t : Table} {j : Nat} {c : Cell} {r : Record}

theorem getElem?_assign {old : Record} (h : t.IsFree j) (hj : j < old.cells.length)
    (hr : t.assign old (some j) c = .ok r) : r.cells[j]? = some c := by
  have hplace : (some j).filter (fun i => t.key != some i) = some j := by
    simp [Option.filter, h.key]
  have haffinity : t.affinity j = .blob := by
    rw [affinity, h.column]
    rfl
  simp only [assign, hplace, haffinity, Except.ok.injEq] at hr
  subst hr
  simp [Cell.adapt, hj]

theorem getElem?_assign_of_ne {old : Record} {place : Place} {other : Cell} (hkey : t.key ≠ some j)
    (hplace : place ≠ some j) (hr : t.assign old place other = .ok r) :
    r.cells[j]? = old.cells[j]? := by
  unfold assign at hr
  cases hfilter : place.filter (fun i => t.key != some i) with
  | some i =>
    have hi : i ≠ j := fun hij => hplace (hij ▸ (Option.filter_eq_some_iff.mp hfilter).1)
    simp only [hfilter, Except.ok.injEq] at hr
    subst hr
    exact List.getElem?_set_ne hi
  | none =>
    simp only [hfilter] at hr
    cases hadapted : other.adapt .integer with
    | integer n =>
      simp only [hadapted, Except.ok.injEq] at hr
      subst hr
      cases hk : t.key with
      | none => rfl
      | some i => exact List.getElem?_set_ne fun hij => hkey (hk.trans (congrArg some hij))
    | _ => simp [hadapted] at hr

/-- The cell for a column is the one at its first place. -/
theorem find?_zip_of_first {places : List (Option Nat)} {cells : List Cell} {k : Nat}
    (hcell : cells[k]? = some c) (hplace : places[k]? = some (some j))
    (hfirst : ∀ l < k, places[l]? ≠ some (some j)) :
    (places.zip cells).find? (fun p => p.1 == some j) = some (some j, c) := by
  obtain ⟨hkp, hp⟩ := List.getElem?_eq_some_iff.mp hplace
  obtain ⟨hkc, hc⟩ := List.getElem?_eq_some_iff.mp hcell
  refine List.find?_eq_some_iff_getElem.mpr ⟨beq_self_eq_true _, k, ?_, ?_, fun l hl => ?_⟩
  · rw [List.length_zip]
    exact Nat.lt_min.mpr ⟨hkp, hkc⟩
  · rw [List.getElem_zip, hp, hc]
  · have hne := hfirst l hl
    rw [List.getElem?_eq_getElem (Nat.lt_trans hl hkp)] at hne
    simpa using hne

theorem getElem?_newRow {i : Insertion} {cells : List Cell} (h : t.IsFree j) {k : Nat}
    (hcell : cells[k]? = some c) (hplace : i.places[k]? = some (some j))
    (hfirst : ∀ l < k, i.places[l]? ≠ some (some j)) (hr : i.newRow t cells = .ok r) :
    r.cells[j]? = some c := by
  have hfind := find?_zip_of_first hcell hplace hfirst
  obtain ⟨column, hcolumn, haffinity⟩ := Option.map_eq_some_iff.mp h.column
  have hzip : t.columns.zipIdx[j]? = some (column, j) := by
    rw [List.getElem?_zipIdx, hcolumn]
    simp
  -- Whatever number the row gets, the cell of the column is the one given for it.
  have hrow {f : Column × Nat → Except Fault Cell} {row : List Cell}
      (hf : f (column, j) = .ok (c.adapt column.affinity))
      (hrow : t.columns.zipIdx.mapM f = .ok row) : row[j]? = some c := by
    obtain ⟨d, hd, hfd⟩ := getElem?_of_mapM hrow hzip
    rw [hf, haffinity] at hfd
    cases hfd
    exact hd
  unfold Insertion.newRow at hr
  split at hr
  · obtain ⟨number, -, hr⟩ := exists_of_ok_bind hr
    obtain ⟨row, hmap, hr⟩ := exists_of_ok_bind hr
    cases hr
    exact hrow (by simp [h.key, hfind]; rfl) hmap
  · split at hr
    · obtain ⟨number, -, hr⟩ := exists_of_ok_bind hr
      obtain ⟨row, hmap, hr⟩ := exists_of_ok_bind hr
      cases hr
      exact hrow (by simp [h.key, hfind]; rfl) hmap
    · obtain ⟨number, hthrow, -⟩ := exists_of_ok_bind hr
      cases hthrow

/-- However it came there, a free column has the cell that was put into it. -/
theorem Puts.getElem? (h : t.IsFree j) (hput : Puts t j c r) : r.cells[j]? = some c := by
  induction hput with
  | new k hcell hplace hfirst hr => exact getElem?_newRow h hcell hplace hfirst hr
  | assigned hj hr => exact getElem?_assign h hj hr
  | kept _ hplace hr ih => rw [getElem?_assign_of_ne h.key hplace hr, ih]

end Table

/-- A value is bound to a place of a statement, the cell that the place gives is put into a free
column of a row, and another value is what the column then reads back as. -/
inductive Passes (v : Value) : Value → Prop
  | through {params : List Value} {n : Nat} {writing reading : Frame} {t : Table} {j source : Nat}
      {r : Record} {c d : Cell} (hparam : params[n]? = some v)
      (hbound : writing.params = params.map .ofValue)
      (hgiven : (Expr.place (n + 1)).eval writing = .ok c) (hfree : t.IsFree j)
      (hput : t.Puts j c r) (hrow : reading.rows[source]? = some (some r))
      (hread : (Expr.column (t.place source j)).eval reading = .ok d) : Passes v d.toValue

theorem Passes.eq {v w : Value} (h : Passes v w) : w = (Cell.ofValue v).toValue := by
  obtain @⟨params, n, writing, reading, t, j, source, r, c, d, hparam, hbound, hgiven, hfree, hput,
    hrow, hread⟩ := h
  have hc : Cell.ofValue v = c := by
    simpa [Expr.eval, hbound, hparam] using hgiven
  have hplace : t.place source j = ⟨source, some j, t.affinity j, some (t.collation j)⟩ := by
    simp [Table.place, hfree.key]
  have hd : c = d := by
    simpa [Expr.eval, hplace, Frame.cell, hrow, hput.getElem? hfree] using hread
  rw [hc, hd]

end Sql

/-- Contents of plain types survive the store: the value of a content is read as that content, which
no other content has the value of, also after it went through a column without affinity. An integer
is read exactly if the value is a truth value or an integer with a number that the type holds, and
what is read has this number. -/
theorem contents_survive :
    (∀ t : FieldType, t.scalar.IsPlain → ∀ x : t.Content,
      t.read (t.toValue x) = .ok (t.toValue x) ∧
      (∀ y : t.Content, t.toValue x = t.toValue y → x = y) ∧
      ∀ w, Sql.Passes (t.toValue x) w → t.read w = .ok (t.toValue x)) ∧
    ∀ s : Scalar, s.IsInteger → ∀ v : Value,
      ((∃ w, s.read v = .ok w) ↔ ∃ n, v.IsNumber n ∧ s.Covers n) ∧
      ∀ w, s.read v = .ok w → ∃ x n, w = s.toValue x ∧ w.IsNumber n ∧ v.IsNumber n := by
  refine ⟨fun t ht x => ⟨FieldType.read_of_shows (FieldType.shows_toValue x), fun y h =>
    FieldType.toValue_injective ht h, fun w hw => ?_⟩, fun s hs v => Scalar.read_integer hs v⟩
  rw [hw.eq]
  exact Sql.read_field_kept ht x

namespace SampleThings

/-- A table with one column without a type. -/
def things : Sql.Table where
  name := "things"
  columns := [{ name := "item" }]

def insertion : Sql.Insertion where
  table := "things"
  conflict := none
  places := [some 0]
  rows := .values [[.place 1]]

theorem isFree_things : things.IsFree 0 :=
  ⟨rfl, by decide⟩

/-- Every value can pass through the table. -/
theorem passes_things (v : Value) : Sql.Passes v (Sql.Cell.ofValue v).toValue := by
  have hgiven : (Sql.Expr.place 1).eval ⟨[v].map .ofValue, [], []⟩ = .ok (Sql.Cell.ofValue v) := rfl
  have hrow : insertion.newRow things [Sql.Cell.ofValue v] = .ok ⟨1, [Sql.Cell.ofValue v]⟩ := rfl
  have hput : things.Puts 0 (Sql.Cell.ofValue v) ⟨1, [Sql.Cell.ofValue v]⟩ :=
    .new 0 rfl rfl (fun l hl => absurd hl (Nat.not_lt_zero l)) hrow
  have hparam : [v][0]? = some v := rfl
  have hread : (Sql.Expr.column (things.place 0 0)).eval
      ⟨[], [some ⟨1, [Sql.Cell.ofValue v]⟩], []⟩ = .ok (Sql.Cell.ofValue v) := rfl
  exact .through hparam rfl hgiven isFree_things hput rfl hread

/-- The greatest number of 32 bits without a sign. -/
def greatest : (FieldType.optional .count).Content :=
  some (4294967295 : UInt32)

/-- It takes 64 bits in the store, so that it is read back as a number of 32 bits without a sign,
but not as one with a sign. -/
theorem contents_survive_count :
    (∃ w, Sql.Passes (FieldType.toValue (.optional .count) greatest) w ∧
      (FieldType.optional .count).read w = .ok (FieldType.toValue (.optional .count) greatest)) ∧
    ¬∃ w, (Scalar.integer .medium).read (FieldType.toValue (.optional .count) greatest) =
      .ok w := by
  obtain ⟨hplain, hinteger⟩ := contents_survive
  have hpasses := passes_things (FieldType.toValue (.optional .count) greatest)
  refine ⟨⟨_, hpasses, (hplain (.optional .count) trivial greatest).2.2 _ hpasses⟩, fun hread => ?_⟩
  obtain ⟨n, hn, hcovers⟩ := (hinteger (.integer .medium) trivial _).1.mp hread
  obtain rfl := Value.isNumber_integer_iff.mp hn
  have hholds : IntWidth.medium.Holds 4294967295 := hcovers
  exact absurd hholds (by decide)

end SampleThings

end EntityMapper
