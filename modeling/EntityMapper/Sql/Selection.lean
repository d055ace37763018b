import EntityMapper.Sql.Visit
/-! What a query gives: rows taken together, their order, and how many of them are wanted. -/

namespace EntityMapper.Sql

abbrev Cells := List (List Cell)

/-- How the cells of one column of an order are compared. -/
structure KeyOrder where
  collation : Collation := .binary
  descending : Bool := false
  /-- Missing cells come at the end that is not theirs. -/
  nullsTurned : Bool := false

namespace KeyOrder

def order (k : KeyOrder) (x y : Cell) : Ordering :=
  let o := x.order k.collation y
  let o := if k.descending then o.swap else o
  if k.nullsTurned && x.isNull != y.isNull then o.swap else o

/-- Whether a row of cells comes before another one or agrees with it. -/
def precedes : List KeyOrder → List Cell → List Cell → Bool
  | k :: ks, x :: xs, y :: ys =>
    match k.order x y with
    | .lt => true
    | .gt => false
    | .eq => precedes ks xs ys
  | _, _, _ => true

def agrees : List KeyOrder → List Cell → List Cell → Bool
  | k :: ks, x :: xs, y :: ys => k.order x y == .eq && agrees ks xs ys
  | _, _, _ => true

/-- Things in the order of their rows of cells. Those that agree stay as they are. -/
def sort {α : Type} (ks : List KeyOrder) (xs : List (List Cell × α)) : List (List Cell × α) :=
  xs.mergeSort fun a b => precedes ks a.1 b.1

/-- Neighbours that agree, taken together under what the first of them has. -/
def runs {α : Type} (ks : List KeyOrder) : List (List Cell × α) → List (List Cell × List α)
  | [] => []
  | (key, x) :: rest =>
    match runs ks rest with
    | [] => [(key, [x])]
    | (next, group) :: groups =>
      if agrees ks key next then (key, x :: group) :: groups
      else (key, [x]) :: (next, group) :: groups

theorem mem_sort {α : Type} {ks : List KeyOrder} {xs : List (List Cell × α)} {x} :
    x ∈ sort ks xs ↔ x ∈ xs :=
  (List.mergeSort_perm xs _).mem_iff

theorem flatMap_runs {α : Type} (ks : List KeyOrder) (xs : List (List Cell × α)) :
    (runs ks xs).flatMap (·.2) = xs.map (·.2) := by
  induction xs with
  | nil => rfl
  | cons x rest ih =>
    rw [runs, List.map_cons, ← ih]
    split
    · simp_all
    · split <;> simp_all

end KeyOrder

namespace Expr

mutual

/-- The aggregate functions in an expression with their arguments. -/
def aggregates : BoundExpr → List (AggregateFunction × List BoundExpr)
  | .cell _ | .place _ | .column _ => []
  | .unary _ a | .cast a _ | .collate a _ => a.aggregates
  | .binary _ a b => a.aggregates ++ b.aggregates
  | .between a b c | .choose a b c => a.aggregates ++ b.aggregates ++ c.aggregates
  | .isIn a items => a.aggregates ++ allAggregates items
  | .call (.aggregate g _) args => [(g, args)]
  | .call (.scalar _) args => allAggregates args

def allAggregates : List BoundExpr → List (AggregateFunction × List BoundExpr)
  | [] => []
  | e :: rest => e.aggregates ++ allAggregates rest

end

end Expr

namespace BoundQuery

def keyOrders (order : List OrderTerm) : List KeyOrder :=
  order.map fun o => {
    collation := o.expr.collation?.getD .binary
    descending := o.descending, nullsTurned := o.nullsTurned }

/-- The least or the greatest cell that an expression gives, if one is there, with the row that
gives it first. -/
def extreme (params : List Cell) (greatest : Bool) (e : BoundExpr) :
    List RowTuple → Option Cell × RowTuple → Except Fault RowTuple
  | [], best => return best.2
  | rows :: rest, (best, row) => do
    let c ← e.eval { params := params, rows := rows }
    let wins : Bool :=
      match best with
      | none => true
      | some b =>
        !c.isNull && c.order (e.collation?.getD .binary) b == (if greatest then .gt else .lt)
    extreme params greatest e rest
      (if wins then (if c.isNull then none else some c, rows) else (best, row))

/-- The row that stands for rows that are taken together: the first one, or the one that has the
last least or greatest cell that is asked for. -/
def leading (q : BoundQuery) (params : List Cell) (nowhere : RowTuple) (group : List RowTuple) :
    Except Fault RowTuple :=
  let asked := Expr.allAggregates (q.items ++ q.order.map (·.expr) ++ q.having.toList)
  let found := asked.reverse.findSome? fun (g, args) =>
    match g, args with
    | .least, [e] => some (false, e)
    | .greatest, [e] => some (true, e)
    | _, _ => none
  match found with
  | some (greatest, e) => extreme params greatest e group (none, nowhere)
  | none => return group.headD nowhere

/-- The rows that are taken together. They come in the order of what they are grouped by, or as they
are visited if that keeps them together. -/
def groups (q : BoundQuery) (params : List Cell) (together : Bool) (rows : List RowTuple) :
    Except Fault (List (List RowTuple)) := do
  if q.groupBy.isEmpty then return [rows]
  let keyed : List (List Cell × RowTuple) ← rows.mapM fun r => do
    return (← Expr.evalAll { params := params, rows := r } q.groupBy, r)
  let orders := keyOrders q.groupOrder
  let ordered := if together then keyed else KeyOrder.sort orders keyed
  return (KeyOrder.runs orders ordered).map (·.2)

/-- A row of the result with the cells that it is ordered by. -/
def line (q : BoundQuery) (f : Frame) : Except Fault (List Cell × List Cell) := do
  let cells ← Expr.evalAll f q.items
  return (← Expr.evalAll f (q.order.map (·.expr)), cells)

def withoutRepeats (q : BoundQuery) (seen : List (List Cell)) :
    List (List Cell × List Cell) → List (List Cell × List Cell)
  | [] => []
  | (keys, cells) :: rest =>
    let orders := q.items.map fun e => e.collation?.getD .binary
    if seen.any (Cell.areAlike orders cells) then q.withoutRepeats seen rest
    else (keys, cells) :: q.withoutRepeats (cells :: seen) rest

/-- The number that an expression gives where rows are counted. -/
def countOf (params : List Cell) (e : BoundExpr) : Except Fault Int := do
  match (← e.eval { params := params }).adapt .integer with
  | .integer n => return n.val
  | _ => throw .keyType

/-- The greatest number of rows and the number of rows that are left out first. A negative number
of rows is no bound. -/
def bounds (q : BoundQuery) (params : List Cell) : Except Fault (Option Nat × Nat) := do
  match q.limit with
  | none => return (none, 0)
  | some e =>
    let n ← countOf params e
    if n == 0 then return (some 0, 0)
    let skipped ← match q.offset with
      | none => pure 0
      | some e => countOf params e
    return (if n < 0 then none else some n.toNat, skipped.toNat)

/-- The rows of the result before they are ordered. -/
def lines (q : BoundQuery) (params : List Cell) : Except Fault (List (List Cell × List Cell)) := do
  let t : Tour := .ofQuery q params
  let route := t.route
  let rows ← t.rows route
  if q.aggregate then
    let groups ← q.groups params (route.ordered == some q.groupBy.length) rows
    let frames : List Frame ← groups.mapM fun group => do
      let nowhere : RowTuple := q.sources.map fun _ => none
      return { params := params, rows := ← q.leading params nowhere group, group := group }
    let kept ← frames.filterM fun f => Expr.areMet f q.having.toList
    kept.mapM q.line
  else rows.mapM fun r => q.line { params := params, rows := r }

def run (q : BoundQuery) (params : List Cell) : Except Fault Cells := do
  let (most, skipped) ← q.bounds params
  if most == some 0 then return []
  let lines ← q.lines params
  let lines := if q.distinct then q.withoutRepeats [] lines else lines
  let cells := (KeyOrder.sort (keyOrders q.order) lines).map (·.2)
  let rest := cells.drop skipped
  return match most with
    | some n => rest.take n
    | none => rest

end BoundQuery

end EntityMapper.Sql
