import EntityMapper.Sql.Access
/-! Routes: the order in which the tables of a statement are visited, each in its way. -/

namespace EntityMapper.Sql

/-- What is known of a statement when its route is chosen. -/
structure Planning where
  sources : List PlannedSource
  clause : Clause
  order : List OrderTerm := []
  use : OrderUse := .sorting
  /-- The groups are wanted in the order of what they are grouped by. -/
  sortsGroups : Bool := false
  /-- The number of columns of the result. -/
  width : Nat := 1
  /-- The greatest number of rows of the result, if it is known. -/
  limit : Option Estimate := none
  /-- Rows of the result that repeat are left out. -/
  distinct : Bool := false
  /-- Tables whose rows are at hand already. -/
  known : SourceSet := 0
  /-- Indexes may be made for the statement. -/
  mayBuild : Bool := true

/-- A route through the tables visited so far. -/
structure Route where
  steps : List Access := []
  visited : SourceSet := 0
  /-- The steps that run backwards. -/
  backwards : SourceSet := 0
  rows : Estimate := 0
  cost : Estimate := 0
  unsorted : Estimate := 0
  /-- How many terms of the wanted order are kept for certain. -/
  ordered : Option Nat := none

namespace Planning

def outlook (p : Planning) : Outlook where
  sources := p.sources
  terms := p.clause.terms
  filters := p.clause.terms
  order := p.order
  mayBuild := p.mayBuild

/-- What the rows of a branch cost, of the tables that come before it. -/
structure BranchCost where
  needs : SourceSet
  run : Estimate
  out : Estimate
  deriving DecidableEq

namespace BranchCost

/-- The cost of two branches one after the other. -/
def plus (a b : BranchCost) : BranchCost where
  needs := a.needs ||| b.needs
  run := Estimate.plus a.run b.run
  out := Estimate.plus a.out b.out

/-- Compares a cost with those that are kept: it takes the place of one, or one stands for it. The
result is nothing if it is unlike all of them. -/
def settle (new : BranchCost) : List BranchCost → Option (List BranchCost)
  | [] => none
  | c :: rest =>
    if new.run ≤ c.run && new.needs.within c.needs then
      some ({ new with out := min c.out new.out } :: rest)
    else if c.run ≤ new.run && c.needs.within new.needs then some (c :: rest)
    else (settle new rest).map (c :: ·)

/-- Adds a cost to the few that are kept. -/
def keep (kept : List BranchCost) (new : BranchCost) : List BranchCost :=
  match new.settle kept with
  | some changed => changed
  | none =>
    if kept.length < 3 then kept ++ [new]
    else
      let worst := kept.foldl (fun m c => max m c.run) 0
      if worst ≤ new.run then kept else (kept.filter fun c => c.run != worst) ++ [new]

@[simp] theorem keep_nil (new : BranchCost) : keep [] new = [new] := rfl

end BranchCost

def branchCosts (p : Planning) (all : List Access) (s : PlannedSource) (source : Nat)
    (needs : SourceSet) (branch : List Term × Bool) : List BranchCost :=
  let (ts, several) := branch
  let groups := if several then [ts]
    else (ts.filter fun t => t.column.any fun k => k.1 == source).map fun t => [t]
  groups.foldl (fun kept group =>
    let o : Outlook := { p.outlook with
      terms := group ++ p.clause.terms, filters := group, mayBuild := false }
    ((o.accesses s source needs).filter fun a => !a.terms.isEmpty).foldl (fun kept a =>
      let a := a.adjusted all
      BranchCost.keep kept ⟨a.needs, a.run, a.out⟩) kept) []

def branching (p : Planning) (all : List Access) (s : PlannedSource) (source : Nat)
    (needs : SourceSet) : List Access :=
  (p.clause.alternatives.filter fun a => a.tables.meets (SourceSet.only source)).flatMap fun a =>
    let costs := a.branches.map (p.branchCosts all s source needs)
    match costs with
    | [] => []
    | first :: rest =>
      let sum := rest.foldl (fun sum next =>
        (sum.flatMap fun c => next.map c.plus).foldl BranchCost.keep []) first
      if costs.any List.isEmpty then []
      else sum.map fun c =>
        { source := source, path := .branches a, needs := c.needs, run := c.run + 1, out := c.out
          terms := [a.term] }

/-- All accesses to the tables that another one does not stand for. -/
def accesses (p : Planning) : List Access :=
  let step (state : List Access × SourceSet × SourceSet) (entry : PlannedSource × Nat) :
      List Access × SourceSet × SourceSet :=
    let (all, needs, prior) := state
    let (s, i) := entry
    let needs := if s.isBound then needs ||| prior else 0
    let all := (p.outlook.accesses s i needs).foldl Access.insert all
    let all := (p.branching all s i needs).foldl Access.insert all
    (all, needs, prior ||| SourceSet.only i)
  (p.sources.zipIdx.foldl step ([], 0, 0)).1

/-- What the matching of an order has come to. -/
structure Matching where
  /-- The terms of the order that are kept. -/
  kept : List Nat := []
  /-- The tables whose rows differ in the order. -/
  told : SourceSet := 0
  /-- All rows so far differ in the order. -/
  isDistinct : Bool := true
  backwards : SourceSet := 0

/-- The columns of an access with their directions, the number of the row at the end, and the
number of key columns. -/
def directions (s : PlannedSource) (a : Access) :
    Option (List (Option Nat × Collation × Bool) × Nat × Bool) :=
  match a.path with
  | .rows => some ([(none, .binary, false)], 0, true)
  | .index ix _ =>
    let place (c : IndexColumn) := if s.table.key == some c.column then none else some c.column
    some ((ix.columns.map fun c => (place c, c.collation, c.descending)) ++
      [(none, .binary, false)], ix.columns.length, ix.unique.isSome)
  | _ => none

/-- A term by which a column is equal to something that is at hand. -/
def settled? (p : Planning) (ready : SourceSet) (choices : Bool) (column : Nat × Option Nat) :
    Option Term :=
  let kinds := [TermKind.equal, .same, .missing] ++ if choices then [.among] else []
  let found := (Outlook.scan p.clause.terms column kinds none).filter fun t =>
    t.needs.within (ready ||| p.known)
  let isConstant (t : Term) : Bool :=
    t.needs == 0 && (t.kind == some .equal || t.kind == some .same)
  (found.find? isConstant).or found.head?

/-- The terms of the order that are settled when a table is visited. -/
def settling (p : Planning) (ready : SourceSet) (choices : Bool) (a : Access) (m : Matching) :
    Matching :=
  let new := p.order.zipIdx.filterMap fun (term, i) =>
    if m.kept.contains i then none
    else
      match term.expr.plain with
      | .column k =>
        if k.source != a.source then none
        else
          match p.settled? ready choices (k.source, k.column) with
          | none => none
          | some t =>
            let used := t.kind != some .among || a.terms.any fun u => u.id == t.id
            let sameOrder := !(t.kind == some .equal || t.kind == some .same) || k.column.isNone ||
              (term.expr.collation?).getD .binary == t.collation
            if used && sameOrder then some i else none
      | _ => none
  { m with kept := m.kept ++ new }

/-- The state of the matching of the columns of one access. -/
structure ColumnMatching where
  whole : Matching
  /-- Whether the access runs backwards, once that is settled. -/
  backwards : Option Bool := none
  /-- The number of the row is in the order. -/
  byRow : Bool := false

/-- The first term of the order, or for neighbours any, that a column of an access keeps. -/
def matchTerm? (p : Planning) (m : Matching) (a : Access)
    (column : Option Nat) (collation : Collation) : Option (OrderTerm × Nat) :=
  let fits (entry : OrderTerm × Nat) : Bool :=
    match entry.1.expr.plain with
    | .column k =>
      k.source == a.source && k.column == column &&
        (column.isNone || (entry.1.expr.collation?).getD .binary == collation)
    | _ => false
  let waiting := p.order.zipIdx.filter fun (_, i) => !m.kept.contains i
  match p.use with
  | .sorting => waiting.head?.filter fits
  | .grouping | .telling => waiting.find? fits

/-- Matches the columns of an access with the order, up to the first that has no part in it. -/
def matchColumns (p : Planning) (s : PlannedSource) (a : Access) (choices : Bool) (keys : Nat) :
    Nat → List (Option Nat × Collation × Bool) → ColumnMatching → ColumnMatching
  | _, [], c => c
  | j, (column, collation, descending) :: rest, c =>
    let constraint := if j < a.equalities then a.terms[j]? else none
    let isSettled := constraint.any fun t =>
      t.kind != some .among || choices
    let loose := constraint.any fun t => t.kind == some .missing || t.kind == some .same
    if isSettled then
      let whole := if loose then { c.whole with isDistinct := false } else c.whole
      matchColumns p s a choices keys (j + 1) rest { c with whole := whole }
    else
      let mayMiss := column.any fun i => !(s.table.columns[i]?.any fun d => d.notNull.isSome)
      let whole := if a.equalities ≤ j && mayMiss then { c.whole with isDistinct := false }
        else c.whole
      let failed : ColumnMatching :=
        let whole := if j == 0 || j < keys then { whole with isDistinct := false } else whole
        { c with whole := whole }
      match p.matchTerm? whole a column collation with
      | none => failed
      | some (term, i) =>
        let wanted := term.descending != descending
        let agrees := p.use == .grouping || c.backwards.all (· == wanted)
        let turnsWell := !term.nullsTurned || j == a.equalities
        let backwards := if p.use == .grouping then c.backwards
          else some (c.backwards.getD wanted)
        if agrees && turnsWell then
          matchColumns p s a choices keys (j + 1) rest { c with
            whole := { whole with kept := whole.kept ++ [i] }
            backwards := backwards
            byRow := c.byRow || column.isNone }
        else { failed with backwards := backwards }

/-- The terms of the order that tell only of tables whose rows differ in it. -/
def settleRest (p : Planning) (m : Matching) : Matching :=
  let new := p.order.zipIdx.filterMap fun (term, i) =>
    let tables := term.expr.sources
    let constant := tables != 0 || term.expr.isSteady
    if !m.kept.contains i && constant && tables.within (m.told ||| p.known) then some i else none
  { m with kept := m.kept ++ new }

/-- Goes on with the matching of the order at one access; nothing if the access has no order. -/
def matchAccess (p : Planning) (ready : SourceSet) (choices : Bool) (level : Nat) (m : Matching)
    (a : Access) : Option Matching :=
  let m := p.settling ready choices a m
  let after : Option Matching :=
    if a.oneRow then some m
    else
      match p.sources[a.source]? with
      | none => none
      | some s =>
        match directions s a with
        | none => none
        | some (columns, keys, isUnique) =>
          let m := { m with isDistinct := if a.isByRows then m.isDistinct else isUnique }
          let c := p.matchColumns s a choices keys 0 columns { whole := m }
          let whole := if c.byRow then { c.whole with isDistinct := true } else c.whole
          some { whole with
            backwards := whole.backwards |||
              (if c.backwards == some true then SourceSet.only level else 0) }
  after.map fun m =>
    if m.isDistinct then p.settleRest { m with told := m.told ||| SourceSet.only a.source } else m

/-- Matches the order at accesses from the outermost on. -/
def matchAccesses (p : Planning) (choices : Bool) : SourceSet → Nat → Matching → List Access →
    Option Matching
  | _, _, m, [] => some m
  | ready, level, m, a :: rest =>
    if !m.isDistinct || m.kept.length == p.order.length then some m
    else
      match p.matchAccess ready choices level m a with
      | none => none
      | some m => matchAccesses p choices (ready ||| SourceSet.only a.source) (level + 1) m rest

/-- How many terms of the order a matching keeps; nothing if more tables may keep more. -/
def verdict (p : Planning) (m : Matching) : Option Nat :=
  let count := p.order.length
  if m.kept.length == count then some count
  else if m.isDistinct then none
  else some (((List.range count).reverse.find? fun i =>
    (List.range i).all m.kept.contains).getD 0)

/-- How many terms of the order accesses keep, and which of them run backwards for it. -/
def keeps (p : Planning) (steps : List Access) : Option Nat × SourceSet :=
  match p.matchAccesses false 0 0 {} steps with
  | none => (some 0, 0)
  | some m => (p.verdict m, m.backwards)

/-- Whether the last access alone keeps the order, and how. -/
def lastKeeps (p : Planning) (steps : List Access) : Option SourceSet :=
  match steps.reverse with
  | [] => none
  | last :: before =>
    let ready := before.foldl (fun s a => s ||| SourceSet.only a.source) 0
    match p.matchAccess ready true (steps.length - 1) {} last with
    | some m => if m.kept.length == p.order.length then some m.backwards else none
    | none => none

/-- The cost of sorting a number of rows of which some terms of the order are kept. -/
def sortingCost (p : Planning) (rows : Estimate) (kept : Nat) : Estimate :=
  let count := p.order.length
  let base := rows + Estimate.ofNat ((p.width + 59) / 30)
  let base := if kept = 0 then base
    else base + Estimate.ofNat ((count - kept) * 100 / count) - 66
  match p.limit with
  | some limit =>
    base + 10 + (if kept = 0 then 0 else 6) + Estimate.searching (min rows limit)
  | none =>
    base + Estimate.searching (if p.distinct && 10 < rows then rows - 10 else rows)

/-- Whether a step may stand in the place of another one that costs the same. -/
def isNoBetter (p : Planning) (new old : Access) : Bool :=
  match new.path, old.path, p.sources[new.source]?, p.sources[old.source]? with
  | .index i _, .index j _, some s, some t => j.rowWidth t.table ≤ i.rowWidth s.table
  | _, _, _, _ => true

/-- A route with one more step. The estimate of all rows is given if the order matters. -/
def advance (p : Planning) (rows : Option Estimate) (r : Route) (a : Access) : Option Route :=
  if !a.needs.within (r.visited ||| p.known) || (SourceSet.only a.source).within r.visited ||
      (a.isTemporary && r.rows < 3) then none
  else
    let run := a.run + r.rows
    let run := if a.setup = 0 then run else Estimate.plus a.setup run
    let unsorted := Estimate.plus run r.unsorted
    let steps := r.steps ++ [a]
    let (ordered, backwards) :=
      if rows.isNone || r.ordered.isSome then (r.ordered, r.backwards) else p.keeps steps
    let sorts := rows.isSome && ordered.any (· < p.order.length)
    let cost := if sorts then
        Estimate.plus unsorted (p.sortingCost (rows.getD 0) (ordered.getD 0)) + 3
      else unsorted
    some {
      steps := steps, visited := r.visited ||| SourceSet.only a.source, backwards := backwards
      rows := r.rows + a.out, cost := cost, unsorted := if sorts then unsorted else unsorted - 2
      ordered := ordered }

/-- Whether two routes are for the same tables and as much is known of their order. -/
def comparable (r s : Route) : Bool :=
  r.visited == s.visited && r.ordered.isSome == s.ordered.isSome

/-- Whether one route is not better than another one that it is comparable with. -/
def isNoCheaper (p : Planning) (new old : Route) : Bool :=
  old.cost < new.cost ||
    (old.cost == new.cost && (old.rows < new.rows ||
      (old.rows == new.rows && (old.unsorted < new.unsorted ||
        (old.unsorted == new.unsorted &&
          match new.steps.getLast?, old.steps.getLast? with
          | some a, some b => p.isNoBetter a b
          | _, _ => true)))))

/-- The position of the dearest of routes, with its costs. -/
def dearest (kept : List Route) : Option (Nat × Estimate × Estimate) :=
  match kept with
  | [] => none
  | first :: rest =>
    some (rest.zipIdx.foldl (fun worst (r, i) =>
      let (_, cost, unsorted) := worst
      if cost < r.cost || (r.cost == cost && unsorted < r.unsorted) then (i + 1, r.cost, r.unsorted)
      else worst) (0, first.cost, first.rows))

/-- Adds a route to the best ones, of which a number are kept. -/
def keepRoute (p : Planning) (most : Nat) (kept : List Route) (new : Route) : List Route :=
  match kept.findIdx? (comparable new) with
  | some i =>
    match kept[i]? with
    | some old => if p.isNoCheaper new old then kept else kept.set i new
    | none => kept
  | none =>
    if kept.length < most then kept ++ [new]
    else
      match dearest kept with
      | some (i, cost, unsorted) =>
        if cost < new.cost || (new.cost == cost && unsorted ≤ new.unsorted) then kept
        else kept.set i new
      | none => kept

def lengthen (p : Planning) (all : List Access) (rows : Option Estimate) (most : Nat)
    (routes : List Route) : List Route :=
  (routes.flatMap fun r => all.filterMap (p.advance rows r)).foldl (p.keepRoute most) []

def single (p : Planning) (source : Nat) : Option Access :=
  match p.sources[source]? with
  | none => none
  | some s =>
    let all := (p.outlook.accesses s source 0).foldl Access.insert []
    let all := (p.branching all s source 0).foldl Access.insert all
    ((p.lengthen all none 1 [{}]).head?.bind fun r => r.steps.head?)

def solve (p : Planning) (all : List Access) (rows : Option Estimate) : Option Route :=
  let count := p.sources.length
  let most := if count ≤ 1 then 1 else if count = 2 then 5 else 12
  let start : Route := {}
  let routes := (List.range count).foldl (fun rs _ => p.lengthen all rows most rs) [start]
  match routes with
  | [] => none
  | first :: rest => some (rest.foldl (fun best r => if r.cost < best.cost then r else best) first)

/-- The accesses that are left when the best route that does without an order looks rows up by
equality: other accesses to the same tables are not tried. -/
def narrowed (route : Route) (all : List Access) : List Access :=
  let direct := route.steps.takeWhile fun a => a.byEquality || a.byMissing || a.byChoice
  all.filter fun a => !(direct.any fun d => d.source == a.source) || a.isTemporary ||
    a.byEquality || a.byMissing || a.byChoice || a.byRange

/-- A route that keeps rows of a group together, turned so that the groups come in order, if they
are wanted so and can. -/
def turned (p : Planning) (r : Route) : Route :=
  if p.use == .grouping && p.sortsGroups && r.ordered == some p.order.length then
    match { p with use := .sorting }.keeps r.steps with
    | (some n, backwards) => if n == p.order.length then { r with backwards := backwards } else r
    | _ => r
  else r

/-- The best route, with the order in mind if one is wanted. -/
def route (p : Planning) : Option Route := do
  let all := p.accesses
  let first ← p.solve all none
  if p.order.isEmpty then return first
  let best ← p.solve (narrowed first all) (some (max 1 (first.rows + 1)))
  if p.use == .telling then return { best with backwards := 0 }
  if best.ordered.any (0 < ·) then return p.turned best
  let lastOne := best.steps.getLast?.any fun a => a.oneRow || (a.isByRows && a.byChoice)
  if lastOne then return best
  match { p with use := .sorting }.lastKeeps best.steps with
  | some backwards => return { best with backwards := backwards }
  | none => return best

end Planning

end EntityMapper.Sql
