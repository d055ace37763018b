import EntityMapper.Sql.Query
/-! The rows that a route visits, in the order in which it visits them. -/

namespace EntityMapper.Sql

/-- Rows that are taken together, one of each table of a statement. -/
abbrev RowTuple := List (Option Record)

/-- What is visited: tables with conditions on their rows. -/
structure Tour where
  planning : Planning
  params : List Cell
  conjuncts : List Conjunct

namespace Tour

def ofQuery (q : BoundQuery) (params : List Cell) : Tour where
  planning := q.planning params
  params := params
  conjuncts := q.conjuncts q.leftSources

/-- The conditions that come to hold or not when a table is visited. -/
def due (t : Tour) (ready : SourceSet) (source : Nat) : List BoundExpr :=
  let conditions := t.conjuncts.filter fun c => !c.outer &&
    c.expr.sources.within (ready ||| SourceSet.only source) && !c.expr.sources.within ready
  conditions.map (·.expr)

def joining (t : Tour) (source : Nat) : List BoundExpr :=
  (t.conjuncts.filter fun c => c.outer && c.join == some source).map (·.expr)

def steady (t : Tour) : List BoundExpr :=
  (t.conjuncts.filter fun c => !c.outer && c.expr.sources == 0).map (·.expr)

/-- The index that is made for one statement: the columns that are equal to something at hand, then
the other columns that the statement needs. -/
def temporaryIndex (t : Tour) (ready : SourceSet) (source : Nat) (s : PlannedSource) : Index :=
  let o := t.planning.outlook
  let driving := o.terms.filter fun u =>
    o.canDrive s source u && u.needs.within (ready ||| t.planning.known)
  let keys := (driving.filterMap fun u =>
    u.column.bind fun (_, i) => i.map fun i => (⟨i, u.collation, false⟩ : IndexColumn))
  let rest := s.used.filter fun i => !keys.any (·.column == i)
  { name := "", columns := keys ++ rest.map fun i => ⟨i, .binary, false⟩ }

/-- The conditions under which the rows of one branch are found: the branch and the other
conditions that may find rows. -/
def branchConjuncts (t : Tour) (a : Alternative) (branch : BoundExpr) : List Conjunct :=
  let clause := t.planning.clause
  let others := clause.terms.filter fun u => !u.isVirtual && u.id != a.term.id &&
    (u.kind.isSome || clause.alternatives.any fun b => b.term.id == u.id)
  (branch.conjuncts.map fun e =>
      { expr := e, join := a.term.join, outer := a.term.outer : Conjunct }) ++
    others.map fun u => { expr := u.expr, join := u.join, outer := u.outer }

/-- How the rows of one branch are visited where some tables are at hand. -/
def branchPath (t : Tour) (ready : SourceSet) (source : Nat) (a : Alternative)
    (branch : BoundExpr) : AccessPath :=
  let clause := Clause.ofConjuncts { params := t.params } (t.branchConjuncts a branch)
  let terms := clause.terms.map (Term.beyond ready)
  let p := { t.planning with
    clause := { clause with terms := terms }, order := [], known := ready, mayBuild := false }
  ((p.single source).map (·.path)).getD .rows

/-- The rows of a table in the order of a path that has no branches. -/
def along (t : Tour) (ready : SourceSet) (source : Nat) (s : PlannedSource) :
    AccessPath → List Record
  | .rows | .branches _ => s.table.records
  | .index ix _ => ix.arrange s.table.records
  | .temporary => (t.temporaryIndex ready source s).arrange s.table.records

/-- The rows of a list that were not seen before. -/
def unseen (seen : List Int) : List Record → List Record
  | [] => []
  | r :: rest => if seen.contains r.rowid then unseen seen rest
    else r :: unseen (r.rowid :: seen) rest

/-- The rows of a table in the order of a path. Branches come one after the other, and a row of
several of them comes once; what a branch says of tables that are not at hand waits for them. -/
def candidates (t : Tour) (ready : SourceSet) (source : Nat) (s : PlannedSource)
    (rows : RowTuple) : AccessPath → Except Fault (List Record)
  | .branches a => do
    let atHand := ready ||| SourceSet.only source
    let found : List (List Record) ← a.parts.mapM fun branch =>
      let conditions := branch.conjuncts.filter fun e => e.sources.within atHand
      (t.along ready source s (t.branchPath ready source a branch)).filterM fun r =>
        Expr.areMet { params := t.params, rows := rows.set source (some r) } conditions
    return unseen [] found.flatten
  | path => return t.along ready source s path

/-- The rows of a table that go with rows of the tables before it; a missing row where there is none
and the join allows it. -/
def matching (t : Tour) (ready : SourceSet) (backwards : Bool) (rows : RowTuple) (a : Access) :
    Except Fault RowTuple := do
  match t.planning.sources[a.source]? with
  | none => return []
  | some s =>
    let found ← t.candidates ready a.source s rows a.path
    let found := if backwards then found.reverse else found
    if s.isLeft then
      let met ← found.filterM fun r =>
        Expr.areMet { params := t.params, rows := rows.set a.source (some r) } (t.joining a.source)
      return if met.isEmpty then [none] else met.map some
    else return found.map some

/-- The rows that accesses visit one inside the other. -/
def through (t : Tour) (backwards : SourceSet) :
    Nat → SourceSet → RowTuple → List Access → Except Fault (List RowTuple)
  | _, _, rows, [] => return [rows]
  | level, ready, rows, a :: rest => do
    let isBackwards := (SourceSet.only level).within backwards
    let found ← t.matching ready isBackwards rows a
    let tuples : List (List RowTuple) ← found.mapM fun r => do
      let rows := rows.set a.source r
      if ← Expr.areMet { params := t.params, rows := rows } (t.due ready a.source) then
        t.through backwards (level + 1) (ready ||| SourceSet.only a.source) rows rest
      else return []
    return tuples.flatten

def route (t : Tour) : Route :=
  let all (i : Nat) : Access := { source := i, path := .rows, needs := 0 }
  t.planning.route.getD { steps := (List.range t.planning.sources.length).map all }

/-- The rows that meet all conditions, in the order in which they are visited. -/
def rows (t : Tour) (r : Route) : Except Fault (List RowTuple) := do
  let nowhere : RowTuple := t.planning.sources.map fun _ => none
  if ← Expr.areMet { params := t.params, rows := nowhere } t.steady then
    t.through r.backwards 0 0 nowhere r.steps
  else return []

theorem through_nil (t : Tour) (backwards : SourceSet) (level : Nat) (ready : SourceSet)
    (rows : RowTuple) : t.through backwards level ready rows [] = .ok [rows] := rfl

/-- The tour of one table under conditions, whose rows are changed. -/
def ofTable (t : Table) (condition : Option BoundExpr) (used : List Nat) (params : List Cell) :
    Tour :=
  let cs : List Conjunct :=
    ((condition.map Expr.conjuncts).getD []).map fun e => { expr := e }
  let setting : Term.Setting := {
    params := params, fixed := if 1 < cs.length then Clause.fixedColumns cs else [] }
  let source : PlannedSource := { table := t, used := used, writes := true }
  { planning := { sources := [source], clause := Clause.ofConjuncts setting cs }
    params := params, conjuncts := cs }

/-- The rows of the first table, in the order in which they are visited. -/
def records (t : Tour) : Except Fault (List Record) :=
  return (← t.rows t.route).filterMap fun rows => rows.head?.join

end Tour

end EntityMapper.Sql
