import EntityMapper.Sql.Estimate
import EntityMapper.Sql.Scope
/-! The terms of a condition, seen as ways to find rows. -/

namespace EntityMapper.Sql

/-- A set of the tables of a statement: its members are the binary digits of a number. -/
abbrev SourceSet := Nat

namespace SourceSet

def only (i : Nat) : SourceSet := 2 ^ i

def before (i : Nat) : SourceSet := 2 ^ i - 1

/-- Whether all members of a set are in another one. -/
def within (a b : SourceSet) : Bool := a &&& b == a

def meets (a b : SourceSet) : Bool := a &&& b != 0

def ofColumns (ks : List ColumnPlace) : SourceSet :=
  ks.foldl (fun s k => s ||| only k.source) 0

theorem within_self (a : SourceSet) : within a a = true := by
  simp [within]

end SourceSet

namespace Expr

def sources (e : BoundExpr) : SourceSet :=
  SourceSet.ofColumns e.columns

/-- An expression without what it says about comparing texts. -/
def plain : BoundExpr → BoundExpr
  | .collate a _ => a.plain
  | e => e

/-- The parts of a condition that all have to hold. -/
def conjuncts : BoundExpr → List BoundExpr
  | .binary .and a b => a.conjuncts ++ b.conjuncts
  | .collate a n =>
    match (Expr.collate a n).plain with
    | .binary .and .. => a.conjuncts
    | _ => [.collate a n]
  | e => [e]

/-- The parts of a condition of which one has to hold. -/
def disjuncts : BoundExpr → List BoundExpr
  | .binary .or a b => a.disjuncts ++ b.disjuncts
  | e => [e]

/-- Whether an expression is a literal integer, and which. -/
def literalInteger? : BoundExpr → Option Int
  | .cell (.integer n) => some n.val
  | .unary .plus a => a.literalInteger?
  | .unary .negate a => a.literalInteger?.map (- ·)
  | _ => none

/-- A condition without tests that have only one outcome: those of columns that are never missing,
and of literals, for being so. -/
def withoutSureTests (isPresent : ColumnPlace → Bool) : BoundExpr → BoundExpr
  | .binary .and a b => .binary .and (a.withoutSureTests isPresent) (b.withoutSureTests isPresent)
  | .binary .or a b => .binary .or (a.withoutSureTests isPresent) (b.withoutSureTests isPresent)
  | .unary .not a => .unary .not (a.withoutSureTests isPresent)
  | .unary .notNull a =>
    if isSure isPresent a then .cell (Cell.ofBool true) else .unary .notNull a
  | .unary .isNull a =>
    if isSure isPresent a then .cell (Cell.ofBool false) else .unary .isNull a
  | e => e
where
  /-- Whether an expression is never missing. -/
  isSure (isPresent : ColumnPlace → Bool) : BoundExpr → Bool
    | .cell c => !c.isNull
    | .column k => isPresent k
    | .unary .plus a | .unary .negate a => isSure isPresent a
    | _ => false

def isSteady (e : BoundExpr) : Bool :=
  e.columns.isEmpty && !(e.contains fun
    | .call .. => true
    | _ => false)

end Expr

/-- A condition with the join that it belongs to. -/
structure Conjunct where
  expr : BoundExpr
  /-- The table whose join has the condition. -/
  join : Option Nat := none
  /-- The table stays missing where the condition fails. -/
  outer : Bool := false

namespace Conjunct

mutual

/-- Whether an expression that gives a number other than zero, or zero, proves that a table is not
missing. -/
def needsRow (source : Nat) : BoundExpr → Bool
  | .cell _ | .place _ => false
  | .column k => k.source == source
  | .unary .isNull _ | .unary .notNull _ | .unary .isTrue _ | .unary .isFalse _ => false
  | .unary _ a | .cast a _ | .collate a _ => needsRow source a
  | .binary .or a b | .binary .and a b => needsRow source a && needsRow source b
  | .binary .same .. | .binary .distinct .. => false
  | .binary _ a b => needsRow source a || needsRow source b
  | .between a b c => needsRow source a || (needsRow source b && needsRow source c)
  | .isIn a _ => needsRow source a
  | .choose .. | .call .. => false

end

/-- Whether a condition that is met proves that a table is not missing. -/
def provesRow (source : Nat) (c : Conjunct) : Bool :=
  !c.outer && match c.expr.plain with
    | .unary .notNull a => needsRow source a
    | e => needsRow source e

end Conjunct

/-- A way in which a column can be compared to find rows. -/
inductive TermKind where
  | equal
  | same
  | among
  | missing
  | above
  | below
  deriving DecidableEq

/-- A term of a condition. -/
structure Term where
  id : Nat
  expr : BoundExpr
  /-- The column that is compared, with its table. -/
  column : Option (Nat × Option Nat) := none
  kind : Option TermKind := none
  /-- What the column equals is a column too, and either may stand for the other. -/
  equivalent : Option (Nat × Option Nat) := none
  /-- The column on the other side, if it is one. -/
  other : Option (Nat × Option Nat) := none
  /-- The tables on the other side. -/
  needs : SourceSet := 0
  /-- All tables of the term. -/
  all : SourceSet := 0
  affinity : Affinity := .blob
  collation : Collation := .binary
  /-- The number of values that the column is among. -/
  choices : Nat := 0
  /-- The other side is an integer of at most one. -/
  small : Bool := false
  /-- The term follows from the term of this number. -/
  parent : Option Nat := none
  isVirtual : Bool := false
  /-- The term says only that the column is not missing. -/
  present : Bool := false
  /-- The term is a bound from a pattern. -/
  pattern : Bool := false
  join : Option Nat := none
  outer : Bool := false

/-- A condition of which one of several branches has to hold. -/
structure Alternative where
  term : Term
  /-- The tables of which every branch has a column. -/
  tables : SourceSet
  /-- The terms of each branch, and whether the branch is made of several terms. -/
  branches : List (List Term × Bool)
  /-- The branches as they are written. -/
  parts : List BoundExpr := []

/-- The terms of a condition, and those of them that have branches. -/
structure Clause where
  /-- The terms as they are written come first. -/
  terms : List Term
  alternatives : List Alternative := []
  /-- The number of terms as they are written. -/
  written : Nat := 0

namespace Term

/-- A term where some tables are at hand already. -/
def beyond (known : SourceSet) (t : Term) : Term :=
  let rest (s : SourceSet) : SourceSet := s ^^^ (s &&& known)
  { t with needs := rest t.needs, all := rest t.all }

/-- What is known where terms are made. -/
structure Setting where
  params : List Cell
  /-- Columns that are equal to something that depends on no row, each with the expression that says
  so. -/
  fixed : List (ColumnPlace × BoundExpr) := []

namespace Setting

/-- The columns that are sides of a comparison. One on the right next to a text does not count. -/
def sides : BoundExpr → List ColumnPlace
  | .binary op (.column j) (.column k) =>
    if !isComparison op then [] else if j.affinity == .text then [j] else [j, k]
  | .binary op (.column j) _ => if isComparison op then [j] else []
  | .binary op a (.column k) => if isComparison op && a.affinity? != some .text then [k] else []
  | _ => []
where
  /-- Whether an operator compares its operands. -/
  isComparison : BinaryOperator → Bool
    | .equal | .different | .less | .lessOrEqual | .greater | .greaterOrEqual | .same => true
    | _ => false

/-- Whether a column of a condition is known to be fixed by another condition. A column without an
affinity is only so as a side of a comparison. -/
def isFixed (s : Setting) (c : Conjunct) (k : ColumnPlace) : Bool :=
  !c.outer && s.fixed.any fun (j, e) => j.source == k.source && j.column == k.column &&
    (j.affinity != .blob || (sides c.expr).any fun i => i == k) && !isWhole e c.expr
where
  /-- Whether two expressions are the same equality of a column, as far as can be told. -/
  isWhole : BoundExpr → BoundExpr → Bool
    | .binary .equal (.column a) b, .binary .equal (.column c) d => a == c && sameSide b d
    | .binary .equal a (.column b), .binary .equal c (.column d) => b == d && sameSide a c
    | _, _ => false
  /-- Whether two expressions are the same, as far as can be told. -/
  sameSide : BoundExpr → BoundExpr → Bool
    | .place m, b => match b with
      | .place n => m == n
      | _ => false
    | .cell a, b => match b with
      | .cell c => a == c
      | _ => false
    | _, .place _ | _, .cell _ => false
    | _, b => b.isSteady

/-- The tables of a part of a condition, apart from columns that are fixed. -/
def sources (s : Setting) (c : Conjunct) (e : BoundExpr) : SourceSet :=
  SourceSet.ofColumns (e.columns.filter fun k => !s.isFixed c k)

end Setting

/-- The column that an expression is, with its table. -/
def columnOf? : BoundExpr → Option ColumnPlace
  | .column k => some k
  | _ => none

def position (k : ColumnPlace) : Nat × Option Nat :=
  (k.source, k.column)

def kindOf? : BinaryOperator → Option TermKind
  | .equal => some .equal
  | .same => some .same
  | .less | .lessOrEqual => some .below
  | .greater | .greaterOrEqual => some .above
  | _ => none

/-- A kind seen from the other side of a comparison. -/
def turned : TermKind → TermKind
  | .above => .below
  | .below => .above
  | k => k

/-- Whether the two sides of an equality may stand for each other. -/
def areInterchangeable (c : Conjunct) (op : BinaryOperator) (a b : BoundExpr) : Bool :=
  (op == .equal || op == .same) && !c.outer &&
    (a.affinity? == b.affinity? ||
      (a.affinity?.any Affinity.isNumeric && b.affinity?.any Affinity.isNumeric)) &&
    (Expr.pairCollation a b == .binary || a.collation? == b.collation?)

/-- The term of a condition before it is looked at. -/
def blank (s : Setting) (c : Conjunct) (id : Nat) : Term :=
  let joined := if c.outer then (c.join.map SourceSet.only).getD 0 else 0
  let all := s.sources c c.expr ||| joined
  { id := id, expr := c.expr, all := all, join := c.join, outer := c.outer }

/-- The tables that a condition of a join may not be used to find rows of. -/
def extraNeeds (c : Conjunct) : SourceSet :=
  if c.outer then (c.join.map SourceSet.before).getD 0 else 0

/-- The terms of a comparison. If both sides are columns there are two. -/
def ofComparison (s : Setting) (c : Conjunct) (id next : Nat) (op : BinaryOperator)
    (a b : BoundExpr) (kind : TermKind) : List Term :=
  let base := blank s c id
  let left := s.sources c a
  let right := s.sources c b
  let apart := !left.meets right
  let affinity := Expr.pairAffinity a.affinity? b.affinity?
  let base := { base with
    affinity := affinity, collation := Expr.pairCollation a b
    small := isSmall b }
  let leftColumn := columnOf? a.plain
  let rightColumn := (columnOf? b.plain).filter fun k => !s.isFixed c k
  let term : Term :=
    match leftColumn with
    | none => { base with needs := right ||| extraNeeds c }
    | some k => { base with
        column := some (position k), kind := if apart then some kind else none
        needs := right ||| extraNeeds c, other := (columnOf? b.plain).map position }
  match rightColumn with
  | none => [term]
  | some k =>
    let equivalent := areInterchangeable c op a b
    let swapped (of : Term) : Term := { of with
      column := some (position k), kind := if apart then some (turned kind) else none
      needs := left ||| extraNeeds c, other := (columnOf? a.plain).map position }
    match leftColumn with
    | none => [{ swapped term with small := isSmall a }]
    | some j =>
      let leftFixed := s.isFixed c j
      [{ term with equivalent := if equivalent then some (position k) else none },
        { swapped term with
          id := next, isVirtual := true, parent := some id, small := false
          equivalent := if equivalent && !leftFixed then some (position j) else none }]
where
  /-- Whether an expression is an integer of at most one. -/
  isSmall (e : BoundExpr) : Bool :=
    e.literalInteger?.any fun n => -1 ≤ n && n ≤ 1

/-- The characters before the first one of several, if there are any. -/
def fixedFront (wild : List Char) (pattern : String) : Option String :=
  let front := pattern.toList.takeWhile fun c => !wild.contains c && c != '\x00'
  if front.isEmpty then none else some (String.ofList front)

/-- The front of a pattern that every text it stands for begins with. The pattern has to be known.
In a column that is not for texts the front must not look like a number. -/
def patternFront? (s : Setting) (wild : List Char) (pattern subject : BoundExpr) : Option String :=
  let known : Option String :=
    match pattern.plain with
    | .cell (.text p) => some p
    | .place n =>
      match s.params[n - 1]? with
      | some (.text p) => some p
      | _ => none
    | _ => none
  let forText := (columnOf? subject).any fun k => k.affinity == .text
  let next (front : String) : String :=
    match front.toList.reverse with
    | c :: rest => String.ofList (Char.ofNat (c.toNat + 1) :: rest).reverse
    | [] => ""
  let looksLikeNumber (front : String) : Bool :=
    front == "-" || (Cell.numberOfText? front).isSome || (Cell.numberOfText? (next front)).isSome
  (known.bind (fixedFront wild)).filter fun front => forText || !looksLikeNumber front

/-- The bounds that a pattern sets to a column. -/
def ofPattern (s : Setting) (c : Conjunct) (id next : Nat) (caseless : Bool)
    (pattern subject : BoundExpr) : List Term :=
  let base := blank s c id
  let wild := if caseless then ['%', '_'] else ['*', '?', '[']
  match patternFront? s wild pattern subject, columnOf? subject with
  | some front, some k =>
    let bound : Term := { base with
      column := some (position k), needs := extraNeeds c, isVirtual := true, pattern := true
      affinity := Expr.pairAffinity (some k.affinity) none
      collation := if caseless then .caseless else .binary }
    let isComplete := match pattern.plain with
      | .cell (.text p) => p.length == front.length + 1
      | .place n =>
        match s.params[n - 1]? with
        | some (.text p) => p.length == front.length + 1
        | _ => false
      | _ => false
    let parent := if isComplete then some id else none
    [base, { bound with id := next, kind := some .above, parent := parent },
      { bound with id := next + 1, kind := some .below, parent := parent }]
  | _, _ => [base]

/-- The terms of a condition: the one as it is written and those that follow from it. -/
def ofConjunct (s : Setting) (c : Conjunct) (id next : Nat) : List Term :=
  let base := blank s c id
  match c.expr with
  | .binary op a b =>
    match kindOf? op with
    | some kind => ofComparison s c id next op a b kind
    | none => [base]
  | .isIn a items =>
    let right := SourceSet.ofColumns
      ((Expr.allColumns items).filter fun k => !s.isFixed c k)
    let apart := !(s.sources c a).meets right
    match columnOf? a.plain with
    | some k => [{ base with
        column := some (position k), kind := if apart then some .among else none
        needs := right ||| extraNeeds c, choices := items.length
        affinity := a.affinity?.getD .blob, collation := a.collation?.getD .binary }]
    | none => [{ base with needs := right ||| extraNeeds c }]
  | .unary .isNull a =>
    match columnOf? a.plain with
    | some k => [{ base with
        column := some (position k), kind := some .missing, needs := extraNeeds c }]
    | none => [base]
  | .unary .notNull (.column k) =>
    if k.column.isSome && !c.outer then
      [base, { base with
        id := next, column := some (position k), kind := some .above, isVirtual := true
        present := true, parent := some id, affinity := k.affinity
        collation := k.collation.getD .binary }]
    else [base]
  | .between a low high =>
    let half (op : BinaryOperator) (kind : TermKind) (b : BoundExpr) (id next : Nat) : List Term :=
      ofComparison s { c with expr := .binary op a b } id next op a b kind
    let first := half .greaterOrEqual .above low next (next + 2)
    let second := half .lessOrEqual .below high (next + 1) (next + 3)
    let derived (ts : List Term) : List Term := ts.map fun t => { t with
      isVirtual := true, expr := t.expr, parent := t.parent.or (some id) }
    base :: (derived first ++ derived second)
  | .call (.scalar .like) [pattern, subject] => ofPattern s c id next true pattern subject
  | .call (.scalar .glob) [pattern, subject] => ofPattern s c id next false pattern subject
  | _ => [base]

def sameColumn (a b : Term) : Bool :=
  a.column == b.column

end Term

namespace Clause

/-- The terms of conditions. The conditions are looked at from last to first, and what follows from
them comes after all of them. -/
def termsOf (s : Term.Setting) (first : Nat) (cs : List Conjunct) : List Term :=
  let count := cs.length
  let step (c : Conjunct × Nat) (state : List Term × List Term) : List Term × List Term :=
    let (written, derived) := state
    match Term.ofConjunct s c.1 (first + c.2) (first + count + derived.length) with
    | [] => (written, derived)
    | t :: more => (t :: written, derived ++ more)
  let (written, derived) := cs.zipIdx.foldr step ([], [])
  written ++ derived

/-- The tables of the columns that terms are about. -/
def comparedTables (ts : List Term) : SourceSet :=
  ts.foldl (fun s t =>
    match t.column with
    | some (i, _) => s ||| SourceSet.only i
    | none => s) 0

/-- The tables by which a branch of one term may find rows: those of both sides of an equality. -/
def branchTables (ts : List Term) : SourceSet :=
  comparedTables (ts.filter fun t => t.kind.isSome)

/-- The condition that a column is one of several, if all branches say it is equal to something. -/
def asChoice? (c : Conjunct) (branches : List (List Term)) : Option Conjunct :=
  let candidates := (branches.headD []).filterMap fun t =>
    if t.kind == some .equal then t.column else none
  let sideOf (column : Nat × Option Nat) (ts : List Term) : Option (BoundExpr × BoundExpr) :=
    ts.findSome? fun t =>
      if t.kind == some .equal && t.column == some column then
        match t.expr with
        | .binary .equal a b =>
          let (a, b) := if t.isVirtual || (Term.columnOf? a.plain).map Term.position != some column
            then (b, a) else (a, b)
          if b.affinity?.isNone || b.affinity? == a.affinity? then some (a, b) else none
        | _ => none
      else none
  candidates.findSome? fun column =>
    match branches.mapM (sideOf column) with
    | some ((a, b) :: rest) =>
      some { c with expr := .isIn a (b :: rest.map (·.2)) }
    | _ => none

/-- The branches of a condition, if it has some, with the condition that follows from them. -/
def alternative? (s : Term.Setting) (term : Term) (c : Conjunct) (next : Nat) :
    Option (Alternative × Option Conjunct) :=
  match c.expr with
  | .binary .or .. =>
    let parts := c.expr.disjuncts.zipIdx.map fun (e, i) =>
      let id := next + 100 * (i + 1)
      match e with
      | .between .. => ([Term.blank s { c with expr := e } id], e)
      | .call .. => ([Term.blank s { c with expr := e } id], e)
      | e => (Term.ofConjunct s { c with expr := e } id (id + 1), e)
    let branches := parts.zipIdx.map fun ((ts, e), i) =>
      if ts.any fun t => t.kind.isSome then (ts, false)
      else (termsOf s (next + 100 * (i + 1) + 50)
        (e.conjuncts.map fun e => { c with expr := e }), true)
    let tables := branches.map fun (ts, several) =>
      if several then comparedTables ts else branchTables ts
    let common := tables.foldl (· &&& ·) (2 ^ 64 - 1)
    let choice := if branches.all fun (ts, several) => !several &&
        ts.any fun t => t.kind == some .equal then asChoice? c (branches.map (·.1)) else none
    let parts := parts.map (·.2)
    some ({ term := term, tables := common, branches := branches, parts := parts }, choice)
  | _ => none

/-- The terms of conditions with those that have branches. -/
def ofConjuncts (s : Term.Setting) (cs : List Conjunct) : Clause :=
  let terms := termsOf s 0 cs
  let found := (terms.zip cs).zipIdx.filterMap fun ((t, c), i) =>
    (alternative? s t c (10000 * (i + 1))).map fun (a, choice) => (a, choice)
  let choices := found.reverse.filterMap fun (a, choice) => choice.map fun c => (a.term.id, c)
  let extra := choices.zipIdx.flatMap fun ((id, c), i) =>
    (Term.ofConjunct s c (terms.length + i) 0).map fun t =>
      { t with isVirtual := true, parent := some id }
  { terms := terms ++ extra
    alternatives := (found.map (·.1)).filter fun a => a.tables != 0
    written := cs.length }

/-- The equalities of columns with what depends on no row, the last one for each column. -/
def fixedColumns (cs : List Conjunct) : List (ColumnPlace × BoundExpr) :=
  lastOf (cs.filterMap fun c =>
    if c.outer then none
    else
      let entry (a b : BoundExpr) : Option (ColumnPlace × BoundExpr) :=
        match a with
        | .column k =>
          if b.isSteady && b.affinity?.isNone && Expr.pairCollation a b == .binary then
            some (k, c.expr)
          else none
        | _ => none
      match c.expr with
      | .binary .equal a b => (entry b a).or (entry a b)
      | _ => none)
where
  /-- The last entry of each column. -/
  lastOf : List (ColumnPlace × BoundExpr) → List (ColumnPlace × BoundExpr)
    | [] => []
    | e :: rest => if rest.any fun f => f.1 == e.1 then lastOf rest else e :: lastOf rest

end Clause

end EntityMapper.Sql
