import EntityMapper.Sql.Table
/-! Finding the columns and functions of expressions. -/

namespace EntityMapper.Sql

/-- A table among those that a statement is about. -/
structure Source where
  table : Table
  /-- The alias, or else the name of the table. -/
  name : String
  join : JoinKind := .inner
  /-- The columns are found only under the name of the table. -/
  isApart : Bool := false

/-- Where an aggregate function may stand. -/
inductive AggregateUse where
  | allowed
  /-- In an expression about single rows. -/
  | misplaced
  /-- In a condition on the rows that are taken together. -/
  | misused
  deriving DecidableEq

/-- What the names in an expression may mean. -/
structure Scope where
  sources : List Source := []
  /-- The expressions that were given names. -/
  aliases : List (String × BoundExpr) := []
  aggregates : AggregateUse := .misplaced

namespace Scope

def rowidNames : List String :=
  ["rowid", "oid", "_rowid_"]

/-- Whether a name is one for the number of a row. -/
def namesRow (name : String) : Bool :=
  rowidNames.any (Text.alikeText name)

/-- The tables that a name may be found in, each with its position. -/
def candidates (s : Scope) (c : ColumnName) : List (Source × Nat) :=
  s.sources.zipIdx.filter fun (source, _) =>
    match c.table with
    | some name => Text.alikeText source.name name
    | none => !source.isApart

/-- The name of a column as it is written. -/
def written (c : ColumnName) : String :=
  (c.table.map (· ++ ".")).getD "" ++ c.name

/-- The columns that a name may mean: columns of tables, or else numbers of rows. -/
def meanings (s : Scope) (c : ColumnName) : List ColumnPlace :=
  let found := (s.candidates c).filterMap fun (source, i) =>
    (source.table.columnIndex? c.name).map (source.table.place i)
  if found.isEmpty && namesRow c.name then
    (s.candidates c).map fun (_, i) => Table.rowPlace i
  else found

/-- The expression that a name means. A loose name without a column is a text. -/
def bindName (s : Scope) (c : ColumnName) : Except Fault BoundExpr :=
  match s.meanings c with
  | [k] => .ok (.column k)
  | _ :: _ :: _ => .error (.ambiguousColumn (written c))
  | [] =>
    let given := if c.table.isNone then s.aliases.find? fun (n, _) => Text.alikeText n c.name
      else none
    match given with
    | some (name, e) =>
      if !e.isAggregate then .ok e
      else match s.aggregates with
        | .allowed => .ok e
        | .misplaced => .error (.aliasedAggregate name)
        | .misused => .error (.misusedAggregate (nameOf e))
    | none =>
      if c.table.isNone && c.loose then .ok (.cell (.text c.name))
      else if c.table.isNone && Text.alikeText c.name "true" then .ok (.cell (Cell.ofBool true))
      else if c.table.isNone && Text.alikeText c.name "false" then
        .ok (.cell (Cell.ofBool false))
      else .error (.noColumn (written c))
where
  /-- The name of the aggregate function that an expression is. -/
  nameOf : BoundExpr → String
    | .call (.aggregate g _) args =>
      ((AggregateFunction.table.find? fun e => e.2.1 == g && args.length ≤ e.2.2.2).map
        (·.1)).getD ""
    | _ => ""

/-- The function of a call, if it may stand where it does. -/
def bindFunction (s : Scope) (f : FunctionName) (count : Nat) : Except Fault Function := do
  let g ← Function.find f count
  match g, s.aggregates with
  | .aggregate .., .misplaced => throw (.misplacedAggregate f.name)
  | .aggregate .., .misused => throw (.misusedAggregate f.name)
  | _, _ => return g

mutual

/-- The expression with its columns and functions found. A plain name after `is` is looked for
before what it is compared with. -/
def bind (s : Scope) : WrittenExpr → Except Fault BoundExpr
  | .cell c => .ok (.cell c)
  | .place n => .ok (.place n)
  | .column c => s.bindName c
  | .unary op a => return .unary op (← s.bind a)
  | .binary op a b => do
    match op, b with
    | .same, .column ⟨none, _, _⟩ | .distinct, .column ⟨none, _, _⟩ =>
      let b ← s.bind b
      return .binary op (← s.bind a) b
    | _, _ => return .binary op (← s.bind a) (← s.bind b)
  | .between a b c => return .between (← s.bind a) (← s.bind b) (← s.bind c)
  | .isIn a items => return .isIn (← s.bind a) (← s.bindAll items)
  | .choose a b c => return .choose (← s.bind a) (← s.bind b) (← s.bind c)
  | .cast a t => return .cast (← s.bind a) t
  | .collate a name => do
    let a ← s.bind a
    if (Collation.ofName? name).isNone then throw (.noCollation name)
    return .collate a name
  | .call f args => do
    let inner : AggregateUse :=
      match Function.find f args.length with
      | .ok (.aggregate ..) => .misplaced
      | _ => s.aggregates
    let args ← bindAll { s with aggregates := inner } args
    return .call (← s.bindFunction f args.length) args

def bindAll (s : Scope) : List WrittenExpr → Except Fault (List BoundExpr)
  | [] => .ok []
  | e :: rest => return (← s.bind e) :: (← s.bindAll rest)

end

def ofTable (t : Table) (name : Option String) : Scope :=
  { sources := [{ table := t, name := name.getD t.name }] }

end Scope

end EntityMapper.Sql
