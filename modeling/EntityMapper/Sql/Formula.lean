import EntityMapper.Sql.Parse
/-! Reading expressions, by how tightly their operators bind. -/

namespace EntityMapper.Sql

namespace Expr

/-- Whether an expression, as it is written, depends on no column and on no function. -/
def isFixed : WrittenExpr → Bool
  | .cell _ | .place _ => true
  | .column ⟨none, name, false⟩ => ["true", "false"].any (Text.alikeText name)
  | .column _ | .call .. => false
  | .unary _ a | .cast a _ | .collate a _ => a.isFixed
  | .binary _ a b => a.isFixed && b.isFixed
  | .between a b c => a.isFixed && b.isFixed && c.isFixed
  | .choose a b c => a.isFixed && b.isFixed && c.isFixed
  | .isIn a items => a.isFixed && areFixed items
where
  /-- `isFixed` on lists. -/
  areFixed : List WrittenExpr → Bool
    | [] => true
    | e :: rest => e.isFixed && areFixed rest

/-- The negation of an expression if a flag is set. -/
def negatedIf (negated : Bool) (e : WrittenExpr) : WrittenExpr :=
  if negated then .unary .not e else e

/-- Whether an expression is among others. A single one that is fixed is compared by equality. -/
def among (a : WrittenExpr) : List WrittenExpr → WrittenExpr
  | [] => .cell (Cell.ofBool false)
  | [b] => if b.isFixed then .binary .equal a (.unary .plus b) else .isIn a [b]
  | items => .isIn a items

/-- The test of two expressions for being the same. -/
def sameOrNot (negated : Bool) (a b : WrittenExpr) : WrittenExpr :=
  match b with
  | .cell .null => .unary (if negated then .notNull else .isNull) a
  | .column ⟨none, name, false⟩ =>
    if Text.alikeText name "true" then negatedIf negated (.unary .isTrue a)
    else if Text.alikeText name "false" then negatedIf negated (.unary .isFalse a)
    else .binary (if negated then .distinct else .same) a b
  | b => .binary (if negated then .distinct else .same) a b

end Expr

namespace Parse

def equalityLevel : Nat := 4

/-- A mark between two operands with its level: higher levels bind more tightly. -/
def markOperators : List (String × Nat × BinaryOperator) :=
  [("=", 4, .equal), ("==", 4, .equal), ("<>", 4, .different), ("!=", 4, .different),
    ("<", 5, .less), ("<=", 5, .lessOrEqual), (">", 5, .greater), (">=", 5, .greaterOrEqual),
    ("&", 7, .bitAnd), ("|", 7, .bitOr), ("<<", 7, .shiftLeft), (">>", 7, .shiftRight),
    ("+", 8, .add), ("-", 8, .subtract), ("*", 9, .multiply), ("/", 9, .divide),
    ("%", 9, .remainder), ("||", 10, .concat)]

/-- The operator between two operands that a symbol is, with its level. -/
def infixOperator? (s : Symbol) : Option (Nat × BinaryOperator) :=
  if s.kind == .mark then markOperators.lookup s.text
  else if s.isWord "or" then some (1, .or)
  else if s.isWord "and" then some (2, .and)
  else none

/-- The words for functions that stand between their operands. -/
def patternWords : List String :=
  ["like", "glob", "regexp", "match"]

/-- The words that a declared type begins with, at most as many as the first argument says. -/
def typeWords : Nat → Parse (List String)
  | 0 => return []
  | fuel + 1 => do
    match ← plainName? with
    | some w => return w :: (← typeWords fuel)
    | none => return []

/-- A declared type, which may be left out. A type in quotes is all that they hold. -/
def declaredType : Parse String := do
  let quoted ← sees fun s => s.kind != .word
  let words ← typeWords (← get).length
  let meant := if quoted then words.take 1 else words
  if words.isEmpty || !(← seesMark "(") then return " ".intercalate meant
  skip
  let first ← signedNumber
  let sizes ← if ← acceptMark "," then pure [first, ← signedNumber] else pure [first]
  expectMark ")"
  if quoted then return " ".intercalate meant
  return " ".intercalate words ++ "(" ++ ",".intercalate sizes ++ ")"

def literal? : Parse (Option Cell) := do
  match ← peek with
  | some ⟨.number, text, _⟩ =>
    skip
    return some (← numberLiteral false text)
  | some ⟨.text s, _, _⟩ =>
    skip
    return some (.text s)
  | some ⟨.bytes b, _, _⟩ =>
    skip
    return some (.blob b)
  | some s =>
    if s.isWord "null" then
      skip
      return some .null
    else return none
  | none => return none

def column : Parse ColumnName := do
  let loose := (← peek).any fun s => match s.kind with
    | .name _ loose => loose
    | _ => false
  let first ← name
  if ← acceptMark "." then
    let second ← name
    if ← acceptMark "." then
      let table := if Text.alikeText first "main" then second else first ++ "." ++ second
      return { table := some table, name := ← name }
    else return { table := some first, name := second }
  else return { name := first, loose := loose }

/-- A place for a parameter. A name that begins with a digit after a cross is no place. -/
def place (number : Nat) (text : String) : Parse WrittenExpr := do
  skip
  if ← sees (·.kind == .unknown) then fail
  if number = 0 || 32766 < number then throw .placeNumber
  if text.toList.head? == some '#' && text.toList[1]?.any Char.isDigit then
    throw (.syntaxNear text)
  return .place number

mutual

/-- An expression of operators of a level at least. The first argument bounds how deep it can be;
the last one tells whether it may be joined by `and` itself. -/
def expression : Nat → Nat → Bool → Parse WrittenExpr
  | 0, _, _ => fail
  | fuel + 1, level, withAnd => do
    expressionRest fuel level withAnd (← operand fuel)

/-- What comes after the first operand of an expression. -/
def expressionRest : Nat → Nat → Bool → WrittenExpr → Parse WrittenExpr
  | 0, _, _, _ => fail
  | fuel + 1, level, withAnd, a => do
    match ← peek with
    | none => return a
    | some s =>
      match infixOperator? s with
      | some (l, op) =>
        if l < level || (op == .and && !withAnd) then return a
        else
          skip
          let b ← expression fuel (l + 1) true
          expressionRest fuel level withAnd (.binary op a b)
      | none =>
        if s.isWord "collate" then
          skip
          expressionRest fuel level withAnd (.collate a (← plainName))
        else if equalityLevel < level then return a
        else
          match ← comparison fuel a with
          | some e => expressionRest fuel level withAnd e
          | none => return a

/-- A comparison that is written with words, if one comes next. -/
def comparison : Nat → WrittenExpr → Parse (Option WrittenExpr)
  | 0, _ => fail
  | fuel + 1, a => do
    if ← acceptWord "is" then
      let negated ← acceptWord "not"
      if ← acceptWord "distinct" then
        expectWord "from"
        return some (Expr.sameOrNot (!negated) a (← expression fuel (equalityLevel + 1) true))
      else return some (Expr.sameOrNot negated a (← expression fuel (equalityLevel + 1) true))
    else if ← acceptWord "isnull" then return some (.unary .isNull a)
    else if ← acceptWord "notnull" then return some (.unary .notNull a)
    else
      let negated ← acceptWord "not"
      let isMissing ← if negated then acceptWord "null" else pure false
      if isMissing then return some (.unary .notNull a)
      else if ← acceptWord "between" then
        let low ← expression fuel 1 false
        expectWord "and"
        let high ← expression fuel (equalityLevel + 1) true
        return some (Expr.negatedIf negated (.between a low high))
      else if ← acceptWord "in" then
        expectMark "("
        if ← acceptMark ")" then return some (.cell (Cell.ofBool negated))
        let items ← expressions fuel
        expectMark ")"
        return some (Expr.negatedIf negated (Expr.among a items))
      else if ← sees fun s => patternWords.any (s.isWord ·) then
        let word := ((← peek).map (·.text)).getD ""
        skip
        let pattern ← expression fuel (equalityLevel + 1) true
        if ← acceptWord "escape" then
          let escape ← expression fuel (equalityLevel + 1) true
          return some (Expr.negatedIf negated (.call { name := word } [pattern, a, escape]))
        else return some (Expr.negatedIf negated (.call { name := word } [pattern, a]))
      else if negated then fail
      else return none

def expressions : Nat → Parse (List WrittenExpr)
  | 0 => fail
  | fuel + 1 => do
    let e ← expression fuel 1 true
    if ← acceptMark "," then return e :: (← expressions fuel) else return [e]

/-- The pairs of a choice, with what stands for everything else. -/
def choices : Nat → Option WrittenExpr → Parse WrittenExpr
  | 0, _ => fail
  | fuel + 1, subject => do
    expectWord "when"
    let condition ← expression fuel 1 true
    expectWord "then"
    let yes ← expression fuel 1 true
    let test := match subject with
      | some a => .binary .equal a condition
      | none => condition
    if ← seesWord "when" then return .choose test yes (← choices fuel subject)
    else if ← acceptWord "else" then
      let no ← expression fuel 1 true
      expectWord "end"
      return .choose test yes no
    else
      expectWord "end"
      return .choose test yes (.cell .null)

def arguments (fname : String) : Nat → Parse WrittenExpr
  | 0 => fail
  | fuel + 1 => do
    expectMark "("
    if ← acceptMark "*" then
      expectMark ")"
      return .call { name := fname, star := true } []
    else
      let distinct ← acceptWord "distinct"
      if !distinct then
        let _ ← acceptWord "all"
      if ← acceptMark ")" then return .call { name := fname, distinct := distinct } []
      let items ← expressions fuel
      expectMark ")"
      return .call { name := fname, distinct := distinct } items

def operand : Nat → Parse WrittenExpr
  | 0 => fail
  | fuel + 1 => do
    if ← acceptMark "(" then
      let items ← expressions fuel
      expectMark ")"
      match items with
      | [e] => return e
      | items => return .call { name := "", isRow := true } items
    else if ← acceptWord "not" then return .unary .not (← expression fuel equalityLevel true)
    else if ← acceptMark "-" then
      match ← number? with
      | some text => return .cell (← numberLiteral true text)
      | none => return .unary .negate (← operand fuel)
    else if ← acceptMark "+" then return .unary .plus (← operand fuel)
    else if ← acceptMark "~" then return .unary .complement (← operand fuel)
    else if ← acceptWord "case" then
      if ← seesWord "when" then choices fuel none
      else choices fuel (some (← expression fuel 1 true))
    else if ← acceptWord "cast" then
      expectMark "("
      let e ← expression fuel 1 true
      expectWord "as"
      let type ← declaredType
      expectMark ")"
      return .cast e (.ofCastName type)
    else
      match ← peek with
      | some ⟨.place (some n), text, _⟩ => place n text
      | some s =>
        match nameOf? s reservedWords with
        | some n =>
          if ← seesSecond (·.isMark ".") then return .column (← column)
          else if (← seesSecond (·.isMark "(")) && s.kind != .text n then
            skip
            arguments n fuel
          else if s.kind == .text n then
            skip
            return .cell (.text n)
          else return .column (← column)
        | none =>
          match ← literal? with
          | some c => return .cell c
          | none => fail
      | none => fail

end

def expr : Parse WrittenExpr := do
  expression (8 * ((← get).length + 1)) 1 true

/-- The condition after a word for it, if that comes next. -/
def condition? : Parse (Option WrittenExpr) :=
  afterWord "where" expr

end Parse

end EntityMapper.Sql
