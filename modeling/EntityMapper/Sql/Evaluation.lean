import EntityMapper.Sql.Function
/-! Expressions whose columns and functions are found, and the cells that they give. -/

namespace EntityMapper.Sql

/-- A row with its number. -/
structure Record where
  rowid : Int
  cells : List Cell
  deriving DecidableEq

/-- A column of one of the tables of a statement. -/
structure ColumnPlace where
  /-- The table by its position in the statement. -/
  source : Nat
  /-- The position of the column; without it the number of the row is meant. -/
  column : Option Nat
  affinity : Affinity
  /-- The way to compare texts in the column; the number of a row has none. -/
  collation : Option Collation
  deriving DecidableEq

abbrev BoundExpr := Expr ColumnPlace Function

namespace Expr

variable {κ φ : Type}

mutual

/-- Whether a test holds of an expression or of one that it is made of. -/
def contains (p : Expr κ φ → Bool) : Expr κ φ → Bool
  | .cell c => p (.cell c)
  | .place n => p (.place n)
  | .column k => p (.column k)
  | .unary op a => p (.unary op a) || a.contains p
  | .binary op a b => p (.binary op a b) || a.contains p || b.contains p
  | .between a b c => p (.between a b c) || a.contains p || b.contains p || c.contains p
  | .isIn a items => p (.isIn a items) || a.contains p || anyContains p items
  | .choose a b c => p (.choose a b c) || a.contains p || b.contains p || c.contains p
  | .cast a t => p (.cast a t) || a.contains p
  | .collate a n => p (.collate a n) || a.contains p
  | .call f args => p (.call f args) || anyContains p args

/-- Whether a test holds of an expression of a list or of one that it is made of. -/
def anyContains (p : Expr κ φ → Bool) : List (Expr κ φ) → Bool
  | [] => false
  | e :: rest => e.contains p || anyContains p rest

end

mutual

/-- The columns of an expression, as often as they are in it. -/
def columns : Expr κ φ → List κ
  | .cell _ | .place _ => []
  | .column k => [k]
  | .unary _ a | .cast a _ | .collate a _ => a.columns
  | .binary _ a b => a.columns ++ b.columns
  | .between a b c | .choose a b c => a.columns ++ b.columns ++ c.columns
  | .isIn a items => a.columns ++ allColumns items
  | .call _ args => allColumns args

def allColumns : List (Expr κ φ) → List κ
  | [] => []
  | e :: rest => e.columns ++ allColumns rest

end

/-- Whether an expression says somewhere how to compare texts. -/
def saysCollation (e : Expr κ φ) : Bool :=
  e.contains fun
    | .collate .. => true
    | _ => false

def isAggregate (e : BoundExpr) : Bool :=
  e.contains fun
    | .call (.aggregate ..) _ => true
    | _ => false

mutual

/-- How the texts that an expression gives are compared, if it says so. -/
def collation? : BoundExpr → Option Collation
  | .cell _ | .place _ => none
  | .column k => k.collation
  | .cast a _ | .unary .plus a => a.collation?
  | .collate _ name => Collation.ofName? name
  | .unary _ a => if a.saysCollation then a.collation? else none
  | .binary _ a b =>
    if a.saysCollation then a.collation? else if b.saysCollation then b.collation? else none
  | .between a b c =>
    if a.saysCollation then a.collation? else if b.saysCollation then b.collation?
      else if c.saysCollation then c.collation? else none
  | .choose a b c =>
    if a.saysCollation then a.collation? else if b.saysCollation then b.collation?
      else if c.saysCollation then c.collation? else none
  | .isIn a items => if a.saysCollation then a.collation? else saidCollation? items
  | .call _ args => saidCollation? args

/-- The way to compare that the first expression to say one says. -/
def saidCollation? : List BoundExpr → Option Collation
  | [] => none
  | e :: rest => if e.saysCollation then e.collation? else saidCollation? rest

end

/-- How two expressions are compared: as the left one says, or else as the right one does. -/
def pairCollation (a b : BoundExpr) : Collation :=
  if a.saysCollation then a.collation?.getD .binary
  else if b.saysCollation then b.collation?.getD .binary
  else (a.collation?.or b.collation?).getD .binary

/-- The affinity of an expression: columns and conversions have one. -/
def affinity? : BoundExpr → Option Affinity
  | .column k => some k.affinity
  | .cast _ t => some t
  | .collate a _ => a.affinity?
  | _ => none

/-- The affinity with which two operands are compared. Next to a number a text is read as one, and
next to a text that stands alone a number is written as one. -/
def pairAffinity (a b : Option Affinity) : Affinity :=
  match a, b with
  | some x, some y => if x.isNumeric || y.isNumeric then .numeric else .blob
  | some x, none => x
  | none, some y => y
  | none, none => .blob

/-- A cell as it is compared with an affinity. -/
def compared (a : Affinity) (c : Cell) : Cell :=
  if a.isNumeric then c.adapt .numeric else c.adapt a

def holds : BinaryOperator → Ordering → Bool
  | .equal, o => o == .eq
  | .different, o => o != .eq
  | .less, o => o == .lt
  | .lessOrEqual, o => o != .gt
  | .greater, o => o == .gt
  | .greaterOrEqual, o => o != .lt
  | _, _ => false

/-- The comparison of two cells that two expressions give; a missing one makes it missing. -/
def compare (op : BinaryOperator) (a b : BoundExpr) (x y : Cell) : Cell :=
  let affinity := pairAffinity a.affinity? b.affinity?
  let x := compared affinity x
  let y := compared affinity y
  if x.isNull || y.isNull then .null
  else .ofBool (holds op (x.order (pairCollation a b) y))

/-- Whether two cells that two expressions give are the same, missing ones being so. -/
def sameCells (a b : BoundExpr) (x y : Cell) : Bool :=
  let affinity := pairAffinity a.affinity? b.affinity?
  (compared affinity x).order (pairCollation a b) (compared affinity y) == .eq

/-- Whether a cell is among others, with the affinity and the order of the expression that gives
it. -/
def amongCells (a : BoundExpr) (x : Cell) (others : List Cell) : Cell :=
  let affinity := (a.affinity?).getD .blob
  let order := a.collation?.getD .binary
  let x := compared affinity x
  if x.isNull then .null
  else if others.any fun y => x.agrees order (compared affinity y) then .ofBool true
  else if others.any (·.isNull) then .null
  else .ofBool false

end Expr

namespace Cell

def both (a b : Option Bool) : Option Bool :=
  match a, b with
  | some false, _ => some false
  | _, some false => some false
  | some true, some true => some true
  | _, _ => none

/-- A truth value that may be missing as a cell. -/
def ofTruth (b : Option Bool) : Cell :=
  (b.map ofBool).getD .null

/-- The operation on two integers, if its result is one. -/
def integerOperation? (op : BinaryOperator) (m n : Int) : Option Int :=
  let whole (i : Int) : Option Int := (SizedInt.ofInt? .big i).map (·.val)
  match op with
  | .add => whole (m + n)
  | .subtract => whole (m - n)
  | .multiply => whole (m * n)
  | .divide => whole (m.tdiv n)
  | .remainder => whole (m.tmod n)
  | _ => none

def realOperation (op : BinaryOperator) (x y : Double) : Double :=
  match op with
  | .add => x.add y
  | .subtract => x.sub y
  | .multiply => x.mul y
  | _ => x.div y

/-- Arithmetic on two cells. Nothing can be divided by zero. -/
def arithmetic (op : BinaryOperator) (a b : Cell) : Cell :=
  match a.numberOf, b.numberOf with
  | .null, _ => .null
  | _, .null => .null
  | .integer m, .integer n =>
    if (op == .divide || op == .remainder) && n.val == 0 then .null
    else
      match integerOperation? op m.val n.val with
      | some i => ofInt i
      | none => ofDouble (realOperation op (.ofInt .double m.val) (.ofInt .double n.val))
  | a, b =>
    if op == .remainder then
      let n := b.integerOf.val
      if n == 0 then .null else .real (.ofInt .double (a.integerOf.val.tmod n))
    else
      let y := b.doubleOf
      if op == .divide && y.magnitude = 0 then .null else ofDouble (realOperation op a.doubleOf y)

def ofBits (n : Nat) : Cell :=
  ofInt (Int.bmod n (2 ^ 64))

/-- An integer moved to the left by a number of bits, or to the right by a negative one. -/
def shifted (n places : Int) : Cell :=
  if places < 0 then ofInt (n / 2 ^ (min 64 (-places).toNat))
  else if 64 ≤ places then ofInt 0
  else ofInt (Int.bmod (n * 2 ^ places.toNat) (2 ^ 64))

def bitOperation (op : BinaryOperator) (a b : Cell) : Cell :=
  if a.isNull || b.isNull then .null
  else
    let m := a.integerOf.val
    let n := b.integerOf.val
    let pattern (i : Int) : Nat := (i % 2 ^ 64).toNat
    match op with
    | .bitAnd => ofBits (pattern m &&& pattern n)
    | .bitOr => ofBits (pattern m ||| pattern n)
    | .shiftLeft => shifted m n
    | _ => shifted m (-n)

def unaryOperation (op : UnaryOperator) (a : Cell) : Cell :=
  match op with
  | .negate => arithmetic .subtract (ofInt 0) a
  | .plus => a
  | .complement => if a.isNull then .null else ofInt (-a.integerOf.val - 1)
  | .not => ofTruth (a.truth?.map (!·))
  | .isNull => ofBool a.isNull
  | .notNull => ofBool (!a.isNull)
  | .isTrue => ofBool (a.truth? == some true)
  | .isFalse => ofBool (a.truth? == some false)

/-- The texts of two cells one after the other. -/
def joined (a b : Cell) : Cell :=
  if a.isNull || b.isNull then .null else .text (textOf a ++ textOf b)

/-- Whether two rows of cells are alike, each pair compared in its own way; missing cells are. -/
def areAlike : List Collation → List Cell → List Cell → Bool
  | c :: cs, x :: xs, y :: ys => x.order c y == .eq && areAlike cs xs ys
  | _, _, _ => true

/-- Rows of cells without those that are alike to one before them. -/
def distinct (order : List Collation) (seen : List (List Cell)) :
    List (List Cell) → List (List Cell)
  | [] => []
  | row :: rest =>
    if seen.any (areAlike order row) then distinct order seen rest
    else row :: distinct order (row :: seen) rest

end Cell

/-- The cells of the places and the rows that an expression is about. -/
structure Frame where
  params : List Cell
  /-- A row of each table; a table without one has missing cells only. -/
  rows : List (Option Record) := []
  /-- The rows that are taken together. -/
  group : List (List (Option Record)) := []

namespace Frame

def cell (f : Frame) (k : ColumnPlace) : Cell :=
  match f.rows[k.source]? with
  | some (some r) =>
    match k.column with
    | some i => (r.cells[i]?).getD .null
    | none => Cell.ofInt r.rowid
  | _ => .null

end Frame

namespace Expr

/-- The way to compare of the first argument that has one. -/
def argumentCollation (args : List BoundExpr) : Collation :=
  (args.findSome? fun e => e.collation?).getD .binary

mutual

def eval (f : Frame) : BoundExpr → Except Fault Cell
  | .cell c => .ok c
  | .place n => .ok ((f.params[n - 1]?).getD .null)
  | .column k => .ok (f.cell k)
  | .unary op a => return Cell.unaryOperation op (← a.eval f)
  | .binary .and a b => do
    let x := (← a.eval f).truth?
    if x == some false then return Cell.ofBool false
    return Cell.ofTruth (Cell.both x (← b.eval f).truth?)
  | .binary .or a b => do
    let x := (← a.eval f).truth?
    if x == some true then return Cell.ofBool true
    let y := (← b.eval f).truth?
    return Cell.ofTruth ((Cell.both (x.map (!·)) (y.map (!·))).map (!·))
  | .binary .same a b => return Cell.ofBool (sameCells a b (← a.eval f) (← b.eval f))
  | .binary .distinct a b => return Cell.ofBool (!sameCells a b (← a.eval f) (← b.eval f))
  | .binary .concat a b => return Cell.joined (← a.eval f) (← b.eval f)
  | .binary op a b => do
    let x ← a.eval f
    let y ← b.eval f
    match op with
    | .add | .subtract | .multiply | .divide | .remainder => return Cell.arithmetic op x y
    | .bitAnd | .bitOr | .shiftLeft | .shiftRight => return Cell.bitOperation op x y
    | _ => return compare op a b x y
  | .between a low high => do
    let x ← a.eval f
    let below := compare .greaterOrEqual a low x (← low.eval f)
    let above := compare .lessOrEqual a high x (← high.eval f)
    return Cell.ofTruth (Cell.both below.truth? above.truth?)
  | .isIn a items => do
    let x ← a.eval f
    return amongCells a x (← evalAll f items)
  | .choose condition yes no => do
    if (← condition.eval f).truth? == some true then yes.eval f else no.eval f
  | .cast a t => return (← a.eval f).cast t
  | .collate a _ => a.eval f
  | .call (.scalar .choice) args => evalChoice f args
  | .call (.scalar g) args => do g.apply (argumentCollation args) (← evalAll f args)
  | .call (.aggregate g distinct) args => do
    let rows ← f.group.mapM fun rows => evalAll { f with rows := rows, group := [] } args
    let order := argumentCollation args
    let present := rows.filter fun row => row.head?.all fun c => !c.isNull
    g.apply order (if distinct then Cell.distinct [order] [] present else rows)

def evalAll (f : Frame) : List BoundExpr → Except Fault (List Cell)
  | [] => .ok []
  | e :: rest => return (← e.eval f) :: (← evalAll f rest)

/-- The cell after the first condition that holds; a cell alone at the end stands for all else. -/
def evalChoice (f : Frame) : List BoundExpr → Except Fault Cell
  | [] => .ok .null
  | [e] => e.eval f
  | condition :: yes :: rest => do
    if (← condition.eval f).truth? == some true then yes.eval f else evalChoice f rest

end

def isMet (f : Frame) (e : BoundExpr) : Except Fault Bool :=
  return (← e.eval f).truth? == some true

/-- Whether conditions hold, up to the first that does not. -/
def areMet (f : Frame) : List BoundExpr → Except Fault Bool
  | [] => .ok true
  | e :: rest => do
    if ← e.isMet f then areMet f rest else return false

@[simp] theorem eval_cell (f : Frame) (c : Cell) : eval f (.cell c) = .ok c := by
  simp [eval]

@[simp] theorem areMet_nil (f : Frame) : areMet f [] = .ok true := rfl

example : (eval ⟨[Cell.ofInt 7], [], []⟩
    (.binary .less (.place 1) (.cell (Cell.ofInt 9)))).toOption = some (Cell.ofBool true) := by
  decide +kernel

end Expr

end EntityMapper.Sql
