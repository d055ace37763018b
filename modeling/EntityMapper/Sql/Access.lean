import EntityMapper.Sql.Condition
/-! The ways to visit the rows of a table, with what they are taken to cost. -/

namespace EntityMapper.Sql

/-- An order in which rows are wanted. -/
structure OrderTerm where
  expr : BoundExpr
  descending : Bool := false
  /-- Missing cells come at the end that is not theirs. -/
  nullsTurned : Bool := false

/-- What an order is wanted for. -/
inductive OrderUse where
  | sorting
  /-- Rows that agree have to be neighbours. -/
  | grouping
  /-- Rows that agree have to be neighbours, and all terms run the same way. -/
  | telling
  deriving DecidableEq

/-- A table of a statement, as far as it matters to the way that its rows are visited. -/
structure PlannedSource where
  table : Table
  /-- The table stays missing where its join finds no row. -/
  isLeft : Bool := false
  /-- The table is not visited before those that it is written after. -/
  isBound : Bool := false
  /-- The columns that the statement needs. -/
  used : List Nat := []
  /-- The rows found are changed. -/
  writes : Bool := false

/-- How the rows of a table are visited. -/
inductive AccessPath where
  /-- By their numbers. -/
  | rows
  /-- By an index; the indexes of a table are numbered. -/
  | index (ix : Index) (number : Nat)
  /-- By an index that is made for one statement. -/
  | temporary
  /-- Branch by branch of a condition. -/
  | branches (a : Alternative)

/-- A way to visit the rows of a table that satisfy some terms. -/
structure Access where
  source : Nat
  path : AccessPath
  /-- The tables that have to be visited before. -/
  needs : SourceSet
  setup : Estimate := 0
  run : Estimate := 0
  out : Estimate := 0
  /-- The terms that are used, those of the first columns first. -/
  terms : List Term := []
  /-- The number of columns that are equal to something. -/
  equalities : Nat := 0
  /-- Accesses of different numbers here do not stand for each other. -/
  sortIndex : Nat := 0
  oneRow : Bool := false
  byEquality : Bool := false
  byChoice : Bool := false
  byMissing : Bool := false
  byRange : Bool := false
  bounded : Bool := false
  closed : Bool := false
  /-- All columns that are needed are in the index. -/
  covering : Bool := false

namespace Access

/-- Whether the access goes by an index of the table. -/
def isIndexed (a : Access) : Bool :=
  match a.path with
  | .index .. => true
  | _ => false

/-- Whether the access goes by an index that is made for one statement. -/
def isTemporary (a : Access) : Bool :=
  match a.path with
  | .temporary => true
  | _ => false

/-- Whether the access goes by the numbers of rows. -/
def isByRows (a : Access) : Bool :=
  match a.path with
  | .rows => true
  | _ => false

/-- Whether two accesses go by the same index of one table. -/
def sharesIndex (a b : Access) : Bool :=
  match a.path, b.path with
  | .index _ m, .index _ n => m == n
  | _, _ => false

/-- Whether an access is a special case of another one and yet not dearer. -/
def isCheaperPart (x y : Access) : Bool :=
  if y.run < x.run && y.out < x.out then false
  else if x.equalities < y.equalities && x.sharesIndex y then true
  else
    x.terms.length < y.terms.length &&
      (x.terms.all fun t => y.terms.any fun u => u.id == t.id) &&
      !(x.covering && !y.covering)

/-- An access with its cost brought into line with another one. -/
def adjustBy (new p : Access) : Access :=
  if p.source != new.source || !p.isIndexed then new
  else if p.isCheaperPart new then
    { new with run := min p.run new.run, out := min (p.out - 1) new.out }
  else if new.isCheaperPart p then
    { new with run := max p.run new.run, out := max (p.out + 1) new.out }
  else new

/-- An access with its cost brought into line with others. -/
def adjusted (all : List Access) (new : Access) : Access :=
  if new.isIndexed then all.foldl adjustBy new else new

/-- How an access compares with one that is there. -/
inductive Standing where
  | apart
  | worse
  | better

/-- How a new access compares with one that is there. -/
def standing (new p : Access) : Standing :=
  if p.source != new.source || p.sortIndex != new.sortIndex then .apart
  else if p.isTemporary && new.isIndexed && new.byEquality && new.needs.within p.needs then .better
  else if p.needs.within new.needs && p.setup ≤ new.setup && p.run ≤ new.run && p.out ≤ new.out then
    .worse
  else if new.needs.within p.needs && new.run ≤ p.run && new.out ≤ p.out then .better
  else .apart

/-- Accesses without those that a new one stands for. -/
def purge (new : Access) : List Access → List Access
  | [] => []
  | p :: rest =>
    match standing new p with
    | .apart => p :: purge new rest
    | .worse => p :: rest
    | .better => purge new rest

/-- Accesses with a new one, unless one of them stands for it. -/
def place (new : Access) : List Access → Option (List Access)
  | [] => some [new]
  | p :: rest =>
    match standing new p with
    | .apart => (place new rest).map (p :: ·)
    | .worse => none
    | .better => some (new :: purge new rest)

/-- Accesses with a new one, whose cost is brought into line with theirs. -/
def insert (all : List Access) (new : Access) : List Access :=
  (place (new.adjusted all) all).getD all

end Access

/-- What terms say about one table. -/
structure Outlook where
  sources : List PlannedSource
  /-- The terms that may find rows. -/
  terms : List Term
  /-- The terms that leave rows out. -/
  filters : List Term
  order : List OrderTerm := []
  /-- Indexes may be made for the statement. -/
  mayBuild : Bool := true

namespace Outlook

/-- The columns that may stand for one another with a given one, at most as many rounds as the
first argument says. -/
def equivalents (terms : List Term) : Nat → List (Nat × Option Nat) → List (Nat × Option Nat) →
    List (Nat × Option Nat)
  | 0, _, known => known
  | _ + 1, [], known => known
  | fuel + 1, column :: waiting, known =>
    let isFirst := known.head? == some column
    let found := terms.filterMap fun t =>
      if t.column == some column && (isFirst || !t.outer) then t.equivalent else none
    let new := found.foldl (fun new k =>
      if known.contains k || new.contains k then new else new ++ [k]) []
    equivalents terms fuel (waiting ++ new) (known ++ new)

/-- Whether an index of a column of an affinity can be used for a comparison with an affinity. -/
def affinityServes (compared column : Affinity) : Bool :=
  match compared with
  | .blob => true
  | .text => column == .text
  | _ => column.isNumeric

/-- The terms that compare a column, or one that may stand for it. A column of an index has to be
compared as the index does it. -/
def scan (terms : List Term) (column : Nat × Option Nat) (kinds : List TermKind)
    (check : Option (Collation × Affinity)) : List Term :=
  let known := equivalents terms 11 [column] [column]
  known.zipIdx.flatMap fun (k, i) => terms.filter fun t =>
    t.column == some k && t.kind.any kinds.contains && (i == 0 || !t.outer) &&
      (t.kind == some .missing || check.all fun (collation, affinity) =>
        t.collation == collation && affinityServes t.affinity affinity) &&
      !((t.kind == some .equal || t.kind == some .same) && t.other == some column)

def allKinds : List TermKind :=
  [.equal, .same, .among, .missing, .above, .below]

/-- Whether a term may find rows of a table that stays missing where its join finds none. -/
def suits (o : Outlook) (source : Nat) (t : Term) : Bool :=
  let isLeft := (o.sources[source]?.map (·.isLeft)).getD false
  !isLeft || (t.outer && t.join == some source)

/-- The number of rows that an access leaves after the terms that it does not use. -/
def leaving (o : Outlook) (a : Access) (rows : Estimate) : Estimate :=
  let self := SourceSet.only a.source
  let allowed := a.needs ||| self
  let unused := o.filters.filter fun t =>
    !t.isVirtual && t.all.within allowed && t.all.meets self &&
      !(a.terms.any fun x => x.id == t.id || x.parent == some t.id)
  let reduced := unused.foldl (fun most t =>
    if t.kind == some .equal || t.kind == some .same then max most (if t.small then 10 else 20)
    else most) 0
  min (a.out - unused.length) (rows - reduced)

/-- An order of the rows of a table with what is known about it. -/
structure Ordering where
  path : AccessPath
  /-- The columns, the number of the row at the end, with how they are compared. -/
  columns : List (Option Nat × Option (Collation × Affinity))
  keys : Nat
  isUnique : Bool
  isStrict : Bool
  /-- The number of rows that agree in a number of columns. -/
  agreeing : Nat → Estimate
  width : Estimate
  covering : Bool

/-- The columns of an index, the number of the row at the end. -/
def columnsOf (t : Table) (ix : Index) : List (Option Nat × Option (Collation × Affinity)) :=
  (ix.columns.map fun c =>
    if t.key == some c.column then (none, none)
    else (some c.column, some (c.collation, t.affinity c.column))) ++ [(none, none)]

def byNumber : Ordering where
  path := .rows
  columns := [(none, none)]
  keys := 1
  isUnique := true
  isStrict := true
  agreeing n := if n = 0 then Table.rowEstimate else 0
  width := 3
  covering := false

/-- Whether all needed columns of a table are in an index. -/
def covers (s : PlannedSource) (ix : Index) : Bool :=
  s.used.all fun i => s.table.key == some i || ix.columns.any (·.column == i)

def byIndex (s : PlannedSource) (ix : Index) (number : Nat) : Ordering where
  path := .index ix number
  columns := columnsOf s.table ix
  keys := ix.columns.length
  isUnique := ix.unique.isSome
  isStrict := ix.isStrict s.table
  agreeing := ix.agreeing
  width := ix.rowWidth s.table
  covering := covers s ix

def between (out : Estimate) (low high : Option Term) : Estimate :=
  let narrowed (n : Estimate) (t : Option Term) : Estimate :=
    if t.any fun t => !t.present then n - 20 else n
  let n := narrowed (narrowed out low) high
  let n := if low.isSome && high.isSome then n - 20 else n
  let count : Estimate := (if low.isSome then 1 else 0) + (if high.isSome then 1 else 0)
  min (out - count) (max 10 n)

/-- The cost of an access by an order, and the number of its rows, from the number of rows that
are visited and the number of times that they are looked for. -/
def costed (o : Outlook) (s : PlannedSource) (d : Ordering) (a : Access)
    (visited times : Estimate) : Access :=
  let stepping := match d.path with
    | .rows => visited + 16
    | _ => visited + 1 + (15 * d.width) / s.table.rowWidth
  let search := Estimate.plus (Estimate.searching Table.rowEstimate) stepping
  let run := match d.path with
    | .rows => search
    | _ => if d.covering then search else Estimate.plus search (visited + 16)
  let a := { a with run := run + times, out := visited + times }
  { a with out := o.leaving a Table.rowEstimate }

/-- The accesses that use more terms than a given one, by the next column of an order. The first
argument bounds the number of columns, and the last one is the number of times that the rows are
looked for. -/
def extend (o : Outlook) (s : PlannedSource) (d : Ordering) : Nat → Access → Estimate → Estimate →
    List Access
  | 0, _, _, _ => []
  | fuel + 1, a, rows, times =>
    match d.columns[a.equalities]? with
    | none => []
    | some (column, check) =>
      let notNull := match column with
        | none => true
        | some i => s.table.columns[i]?.any fun c => c.notNull.isSome
      let kinds := if a.bounded then [TermKind.below] else allKinds
      let found := (scan o.terms (a.source, column) kinds check).filter fun t =>
        !((t.kind == some .missing || t.present) && notNull) &&
          !t.needs.meets (SourceSet.only a.source) &&
          !(t.pattern && t.kind == some .below) && o.suits a.source t
      found.flatMap fun t =>
        let base := { a with terms := a.terms ++ [t], needs := a.needs ||| t.needs }
        let goOn (next : Access) (rows times : Estimate) : List Access :=
          if next.closed then [] else extend o s d fuel next rows times
        match t.kind with
        | some .above =>
          let high := if t.pattern then o.terms.find? fun u => u.id == t.id + 1 else none
          let base := { base with
            terms := base.terms ++ high.toList, byRange := true, bounded := true
            closed := high.isSome }
          let made := o.costed s d base (between rows (some t) high) times
          made :: goOn base rows times
        | some .below =>
          let low := if a.bounded then a.terms.getLast? else none
          let base := { base with byRange := true, closed := true }
          [o.costed s d base (between rows low (some t)) times]
        | kind =>
          let isEqual := kind == some .equal || kind == some .same
          let isLast := a.equalities + 1 == d.keys
          let one := isEqual && (column.isNone || (times == 0 && isLast &&
            (d.isStrict || (d.keys == 1 && d.isUnique && kind == some .equal))))
          let base := { base with
            equalities := a.equalities + 1
            byEquality := base.byEquality || isEqual
            byChoice := base.byChoice || kind == some .among
            byMissing := base.byMissing || kind == some .missing
            oneRow := base.oneRow || one }
          let visited := rows + d.agreeing (a.equalities + 1) - d.agreeing a.equalities +
            (if kind == some .missing then 10 else 0)
          let more := if kind == some .among then Estimate.ofNat t.choices else 0
          let made := o.costed s d base visited (times + more)
          made :: goOn base visited (times + more)

/-- Whether an order of rows might help with the order that is wanted. -/
def mightHelp (o : Outlook) (source : Nat) (d : Ordering) : Bool :=
  o.order.any fun term =>
    match term.expr.plain with
    | .column k =>
      k.source == source && (k.column.isNone ||
        (d.columns.take d.keys).any fun (c, _) => c == k.column)
    | _ => false

/-- Whether a term can be told from an index of a table alone. -/
def toldBy (s : PlannedSource) (source : Nat) (ix : Index) (t : Term) : Bool :=
  t.expr.columns.all fun k => k.source != source ||
    k.column.all fun i => s.table.key == some i || ix.columns.any (·.column == i)

/-- The rows that have to be looked up when an index is visited that has not all columns. -/
def lookups (o : Outlook) (s : PlannedSource) (source : Nat) (ix : Index) : Estimate :=
  (o.filters.takeWhile (toldBy s source ix)).foldl (fun n t =>
    n - (if t.kind == some .equal || t.kind == some .same then 20 else 1)) (Table.rowEstimate + 16)

/-- The visits of all rows by an order, if that is worth it. -/
def scans (o : Outlook) (s : PlannedSource) (source : Nat) (needs : SourceSet) (d : Ordering)
    (number : Nat) : List Access :=
  let helps := o.mightHelp source d
  let base : Access := {
    source := source, path := d.path, needs := needs, out := Table.rowEstimate
    sortIndex := if helps then number else 0, covering := d.covering }
  let finish (run : Estimate) : Access :=
    let a := { base with run := run }
    { a with out := o.leaving a Table.rowEstimate }
  match d.path with
  | .index ix _ =>
    let size := s.table.rowWidth
    if helps || (d.covering && d.width < size && !s.writes) then
      let run := Table.rowEstimate + 1 + (15 * d.width) / size
      [finish (if d.covering then run else Estimate.plus run (o.lookups s source ix))]
    else []
  | _ => [finish (Table.rowEstimate + 16)]

/-- Whether an index for one statement could begin with the column of a term. -/
def canDrive (o : Outlook) (s : PlannedSource) (source : Nat) (t : Term) : Bool :=
  match t.column with
  | some (k, some i) =>
    k == source && (t.kind == some .equal || t.kind == some .same) && o.suits source t &&
      affinityServes t.affinity (s.table.affinity i) &&
      !(s.table.indexes.any fun ix => ix.columns.head?.any (·.column == i))
  | _ => false

/-- The accesses by an index that is made for the statement. -/
def temporaries (o : Outlook) (s : PlannedSource) (source : Nat) (needs : SourceSet) :
    List Access :=
  if !o.mayBuild then []
  else
    let search := Estimate.searching Table.rowEstimate
    (o.terms.filter fun t =>
      o.canDrive s source t && !t.needs.meets (SourceSet.only source)).map fun t =>
        { source := source, path := .temporary, needs := needs ||| t.needs, terms := [t]
          equalities := 1, setup := search + Table.rowEstimate + 28
          run := Estimate.plus search 43, out := 43 }

def orderings (s : PlannedSource) : List Ordering :=
  let whole := s.table.indexes.zipIdx.filter fun (ix, _) => ix.condition.isNone
  byNumber :: whole.map fun (ix, i) => byIndex s ix (i + 1)

/-- The accesses to the rows of a table, before they are compared. -/
def accesses (o : Outlook) (s : PlannedSource) (source : Nat) (needs : SourceSet) : List Access :=
  o.temporaries s source needs ++ (orderings s).zipIdx.flatMap fun (d, i) =>
    let start : Access := {
      source := source, path := d.path, needs := needs, covering := d.covering
      sortIndex := if o.mightHelp source d then i + 1 else 0 }
    o.scans s source needs d (i + 1) ++
      o.extend s d (2 * d.columns.length + 2) start Table.rowEstimate 0

end Outlook

end EntityMapper.Sql
