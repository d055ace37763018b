import EntityMapper.Sql.Route
/-! Queries whose tables and columns are found. -/

namespace EntityMapper.Sql

/-- A query whose tables and columns are found. -/
structure BoundQuery where
  sources : List Source := []
  items : List BoundExpr
  condition : Option BoundExpr := none
  /-- The condition of the join of each table. -/
  joins : List (Option BoundExpr) := []
  aggregate : Bool := false
  groupBy : List BoundExpr := []
  having : Option BoundExpr := none
  order : List OrderTerm := []
  distinct : Bool := false
  limit : Option BoundExpr := none
  offset : Option BoundExpr := none

namespace BoundQuery

def findTable (tables : List Table) (name : String) : Except Fault Table :=
  match tables.find? (·.isNamed name) with
  | some t => .ok t
  | none => .error (.noTable name)

def itemsOf (s : Source) (i : Nat) : List (String × BoundExpr) :=
  s.table.columns.zipIdx.map fun (c, j) => (c.name, .column (s.table.place i j))

/-- The name of an item without one: the name of its column, or how it is written. -/
def ownName (sources : List Source) (e : BoundExpr) (text : String) : String :=
  match e with
  | .column k =>
    match sources[k.source]? with
    | some s =>
      match k.column.or s.table.key with
      | some i => s.table.columnName i
      | none => "rowid"
    | none => text
  | _ => text

/-- What a result item stands for, each with its name and the name that it is given. -/
def bindItem (s : Scope) : ResultItem → Except Fault (List (String × BoundExpr × Option String))
  | .everything =>
    if s.sources.isEmpty then .error .noSource
    else .ok ((s.sources.zipIdx.flatMap fun (t, i) => itemsOf t i).map fun (n, e) => (n, e, none))
  | .everythingOf table =>
    match s.sources.zipIdx.filter fun (t, _) => Text.alikeText t.name table with
    | [] => .error (.noTable table)
    | found => .ok ((found.flatMap fun (t, i) => itemsOf t i).map fun (n, e) => (n, e, none))
  | .expr e name text => do
    let e ← s.bind e
    return [(name.getD (ownName s.sources e text), e, name)]

def ordinal (n : Nat) : String :=
  let ending := if n % 100 / 10 == 1 then "th"
    else match n % 10 with
    | 1 => "st"
    | 2 => "nd"
    | 3 => "rd"
    | _ => "th"
  showNat n ++ ending

/-- The literal integer that an expression is as it is written. -/
def literalPosition? : WrittenExpr → Option Int
  | .cell (.integer n) => some n.val
  | .unary .plus a => literalPosition? a
  | .unary .negate a => (literalPosition? a).map (- ·)
  | .collate a _ => literalPosition? a
  | _ => none

/-- The name that an expression is, apart from how its texts are compared. -/
def plainName? : WrittenExpr → Option String
  | .column ⟨none, name, _⟩ => some name
  | .collate a _ => plainName? a
  | _ => none

/-- An item under the ways to compare that are written around its name or position. -/
def wrapped : WrittenExpr → BoundExpr → BoundExpr
  | .collate _ name, e => .collate e name
  | _, e => e

/-- An expression to order or to group by: the name of an item, the position of one, or an
expression of its own. -/
def bindTerm (s : Scope) (items : List (BoundExpr × Option String)) (byName : Bool)
    (fault : Fault) (e : WrittenExpr) : Except Fault BoundExpr :=
  let named := if byName then
      (plainName? e).bind fun n => items.find? fun (_, given) => given.any (Text.alikeText n)
    else none
  match named with
  | some (item, _) => .ok (wrapped e item)
  | none =>
    match literalPosition? e with
    | some n =>
      if n < 1 then .error fault
      else
        match items[n.toNat - 1]? with
        | some (item, _) => .ok (wrapped e item)
        | none => .error fault
    | none => s.bind e

/-- The conditions of joins, which may not be about tables to the right of an outer join. -/
def bindJoins (s : Scope) (sources : List FromItem) : Except Fault (List (Option BoundExpr)) :=
  sources.zipIdx.mapM fun (item, i) => do
    match item.on with
    | none => return none
    | some e =>
      let e ← s.bind e
      if item.join == .left && !e.sources.within (SourceSet.before (i + 1)) then throw .joinToRight
      return some e

/-- Finds the tables and columns of a query; the result has the names of its columns. -/
def ofText (tables : List Table) (q : QueryText) : Except Fault (List String × BoundQuery) := do
  let sources ← q.sources.mapM fun item => do
    let t ← findTable tables item.table
    if item.called then throw (.notFunction item.table)
    let t := if item.unindexed then { t with indexes := [] } else t
    return ({ table := t, name := item.aliasName.getD t.name, join := item.join } : Source)
  let scope : Scope := { sources := sources, aggregates := .allowed }
  for item in q.items do
    match item with
    | .expr .. => pure ()
    | item => let _ ← bindItem scope item
  let limit ← q.limit.mapM (Scope.bind {})
  let offset ← q.offset.mapM (Scope.bind {})
  let items := (← q.items.mapM (bindItem scope)).flatten
  let exprs := items.map (·.2.1)
  let aggregate := !q.groupBy.isEmpty || exprs.any Expr.isAggregate
  let aliases := items.filterMap fun (_, e, given) => given.map fun n => (n, e)
  let whole : Scope := { scope with
    aliases := aliases, aggregates := if aggregate then .allowed else .misused }
  if q.having.isSome && !aggregate then throw .havingAlone
  let having ← q.having.mapM whole.bind
  let rows : Scope := { whole with aggregates := if aggregate then .misused else .misplaced }
  let condition ← q.condition.mapM rows.bind
  let joins ← bindJoins rows q.sources
  let named := items.map fun (_, e, given) => (e, given)
  let order ← q.order.zipIdx.mapM fun (o, i) => do
    let e ← bindTerm whole named true (.orderTermRange (ordinal (i + 1)) items.length) o.expr
    return ({ expr := e, descending := o.descending, nullsTurned := o.nullsTurned } : OrderTerm)
  let groups : Scope := { whole with aggregates := .allowed }
  let groupBy ← q.groupBy.zipIdx.mapM fun (e, i) =>
    bindTerm groups named false (.groupTermRange (ordinal (i + 1)) items.length) e
  if groupBy.any Expr.isAggregate then throw .groupedAggregate
  return (items.map (·.1), {
    sources := sources, items := exprs, condition := condition, joins := joins
    aggregate := aggregate, groupBy := groupBy, having := having, order := order
    distinct := q.distinct, limit := limit, offset := offset })

/-- Whether a column is never missing: it has to be there, and so has the row of its table. -/
def isPresent (q : BoundQuery) (k : ColumnPlace) : Bool :=
  q.sources[k.source]?.any fun s => s.join != .left && k.column.all fun i =>
    s.table.columns[i]?.any fun c => c.notNull.isSome

def partsOf (q : BoundQuery) (condition : Option BoundExpr) : List BoundExpr :=
  (condition.map fun e => (e.withoutSureTests q.isPresent).conjuncts).getD []

/-- All conditions of the query with the joins that they belong to, where some tables stay missing
if their joins find no row. -/
def conjuncts (q : BoundQuery) (lefts : List Bool) : List Conjunct :=
  (q.partsOf q.condition).map (fun e => { expr := e }) ++ q.joins.zipIdx.flatMap fun (on, i) =>
    (q.partsOf on).map fun e => { expr := e, join := some i, outer := (lefts[i]?).getD false }

/-- Which tables stay missing where their joins find no row. A condition that proves that a table
is not missing makes its join an inner one. -/
def leftSources (q : BoundQuery) : List Bool :=
  (List.range q.sources.length).foldl (fun lefts i =>
    if (q.conjuncts lefts).any (Conjunct.provesRow i) then lefts.set i false else lefts)
    (q.sources.map fun s => s.join == .left)

def exprs (q : BoundQuery) : List BoundExpr :=
  q.items ++ q.condition.toList ++ q.joins.filterMap id ++ q.groupBy ++ q.having.toList ++
    q.order.map (·.expr)

/-- The columns of a table that the query needs, in their order. -/
def usedColumns (q : BoundQuery) (source : Nat) (t : Table) : List Nat :=
  let ks := (Expr.allColumns q.exprs).filter fun k => k.source == source
  (List.range t.columns.length).filter fun i => ks.any fun k => k.column == some i

/-- The tables as far as they matter to how their rows are visited. -/
def plannedSources (q : BoundQuery) (lefts : List Bool) : List PlannedSource :=
  q.sources.zipIdx.map fun (s, i) =>
    let isLeft := (lefts[i]?).getD false
    { table := s.table, isLeft := isLeft, isBound := isLeft || s.join == .cross
      used := q.usedColumns i s.table }

/-- The greatest number of rows, if it is known before the rows are visited. -/
def knownLimit (q : BoundQuery) (params : List Cell) : Option Estimate :=
  let number : Option Int := q.limit.bind fun e =>
    match e with
    | .place n =>
      match params[n - 1]? with
      | some (.integer i) => some i.val
      | _ => none
    | e => e.literalInteger?
  number.bind fun n => if 0 ≤ n then some (Estimate.ofNat n.toNat) else none

/-- Whether the items have all columns of an index whose rows do not repeat, but for those that are
equal to something. -/
def showsKey (q : BoundQuery) (terms : List Term) (t : Table) (ix : Index) : Bool :=
  ix.unique.isSome && ix.condition.isNone && ix.columns.all fun c =>
    let isFixed := (Outlook.scan terms (0, some c.column) [.equal]
      (some (c.collation, t.affinity c.column))).any (·.needs == 0)
    let isShown := q.items.any fun e =>
      match e.plain with
      | .column k => k.column == some c.column && e.collation?.getD .binary == c.collation
      | _ => false
    isFixed || (isShown && t.columns[c.column]?.any fun d => d.notNull.isSome)

def isUnrepeated (q : BoundQuery) (terms : List Term) : Bool :=
  match q.sources with
  | [s] =>
    (q.items.any fun e =>
      match e.plain with
      | .column k => k.column.isNone
      | _ => false) || s.table.indexes.any (q.showsKey terms s.table)
  | _ => false

/-- What the rows are grouped by, as an order. It runs as the order of the result does if that has
as many terms. -/
def groupOrder (q : BoundQuery) : List OrderTerm :=
  let sameLength := q.groupBy.length == q.order.length
  q.groupBy.zipIdx.map fun (e, i) =>
    { expr := e, descending := sameLength && (q.order[i]?).any (·.descending) }

/-- Whether the result is ordered by the columns that it is grouped by. -/
def sortsGroups (q : BoundQuery) : Bool :=
  q.groupBy.length == q.order.length && (q.groupBy.zip q.order).all fun (e, o) =>
    match e, o.expr with
    | .column k, .column l => k == l && !o.nullsTurned
    | _, _ => false

/-- The order in which the rows are wanted when they are visited. -/
def wantedOrder (q : BoundQuery) (terms : List Term) : List OrderTerm × OrderUse :=
  if q.aggregate then (q.groupOrder, .grouping)
  else if q.order.isEmpty && q.distinct && !q.isUnrepeated terms then
    (q.items.map fun e => { expr := e }, .telling)
  else (q.order, .sorting)

/-- What is known of the query when its route is chosen. -/
def planning (q : BoundQuery) (params : List Cell) : Planning :=
  let lefts := q.leftSources
  let cs := q.conjuncts lefts
  let setting : Term.Setting := {
    params := params, fixed := if 1 < cs.length then Clause.fixedColumns cs else [] }
  let clause := Clause.ofConjuncts setting cs
  let (order, use) := q.wantedOrder clause.terms
  { sources := q.plannedSources lefts, clause := clause
    order := order, use := use, sortsGroups := q.sortsGroups, width := q.items.length
    limit := if q.aggregate then none else q.knownLimit params
    distinct := q.distinct }

end BoundQuery

end EntityMapper.Sql
