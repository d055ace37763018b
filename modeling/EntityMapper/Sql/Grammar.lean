import EntityMapper.Sql.Formula
/-! Reading statements. -/

namespace EntityMapper.Sql

namespace Parse

/-- The name of a table or an index, with the name before it of a database that there is not. -/
def qualifiedName : Parse (Option String × String) := do
  let first ← name
  if ← acceptMark "." then
    let second ← name
    return (if ["main", "temp"].any (Text.alikeText first) then none else some first, second)
  else return (none, first)

/-- The name of a table, maybe after the name of the only database. -/
def tableName : Parse String := do
  let (database, table) ← qualifiedName
  return match database with
    | some d => d ++ "." ++ table
    | none => table

/-- What is done about a broken constraint, by its word. -/
def conflictAction : Parse ConflictAction := do
  if ← acceptWord "abort" then return .abort
  else if ← acceptWord "fail" then return .fail
  else if ← acceptWord "ignore" then return .ignore
  else if ← acceptWord "replace" then return .replace
  else
    expectWord "rollback"
    return .rollback

def onConflict : Parse ConflictAction := do
  if ← acceptWord "on" then
    expectWord "conflict"
    conflictAction
  else return .abort

/-- The direction of an order, and whether missing cells come at the other end than theirs. -/
def direction : Parse (Bool × Bool) := do
  let descending ← acceptWord "desc"
  if !descending then
    let _ ← acceptWord "asc"
  if ← acceptWord "nulls" then
    if ← acceptWord "first" then return (descending, descending)
    expectWord "last"
    return (descending, !descending)
  else return (descending, false)

def indexedName : Parse IndexedName := do
  let e ← expr
  let (descending, _) ← direction
  match e with
  | .column ⟨none, n, _⟩ => return { name := n, descending := descending }
  | .cell (.text n) => return { name := n, descending := descending }
  | .collate (.column ⟨none, n, _⟩) c =>
    return { name := n, collation := some c, descending := descending }
  | _ => throw .indexedExpression

/-- What happens to rows when a row that they refer to goes or changes. -/
def referenceAction : Parse ReferenceAction := do
  if ← acceptWord "set" then
    if ← acceptWord "null" then return .setNull
    expectWord "default"
    return .setDefault
  else if ← acceptWord "cascade" then return .cascade
  else if ← acceptWord "restrict" then return .restrict
  else
    expectWord "no"
    expectWord "action"
    return .noAction

def referenceActions : Nat → ReferenceDefinition → Parse ReferenceDefinition
  | 0, r => return r
  | fuel + 1, r => do
    if ← acceptWord "match" then
      let _ ← name
      referenceActions fuel r
    else if ← acceptWord "on" then
      if ← acceptWord "insert" then
        let _ ← referenceAction
        referenceActions fuel r
      else if ← acceptWord "delete" then
        referenceActions fuel { r with onDelete := ← referenceAction }
      else
        expectWord "update"
        referenceActions fuel { r with onUpdate := ← referenceAction }
    else return r

/-- A reference of given columns, after the word for it. -/
def reference (columns : List String) : Parse ReferenceDefinition := do
  let table ← name
  let parents ← if ← seesMark "(" then inParens (list name) else pure []
  referenceActions (← get).length { columns := columns, table := table, parents := parents }

/-- When a reference is checked, after the word that begins it. -/
def initially (deferrable : Bool) : Parse Bool := do
  if ← acceptWord "initially" then
    if ← acceptWord "deferred" then return deferrable
    expectWord "immediate"
  return false

/-- References with the last of them checked at the end of a transaction or at once. -/
def withLastDeferred (deferred : Bool) (rs : List ReferenceDefinition) :
    List ReferenceDefinition :=
  match rs.reverse with
  | [] => []
  | r :: before => (({ r with deferred := deferred } : ReferenceDefinition) :: before).reverse

/-- A condition on rows in parentheses. Without a name it is called as it is written. -/
def check (given : Option String) : Parse CheckDefinition := do
  let before := ((← peek).map (·.gap.toList.dropWhile Symbol.inGap)).getD []
  expectMark "("
  let (e, inside) ← withSymbols expr
  expectMark ")"
  let quoted : Option String :=
    match inside with
    | ⟨.name n _, _, _⟩ :: _ | ⟨.text n, _, _⟩ :: _ => if before.isEmpty then some n else none
    | _ => none
  let own := quoted.getD (String.ofList before ++ written inside)
  return { name := given.getD own, condition := e }

/-- A literal or a word that stands for itself. -/
def defaultTerm (wordsToo : Bool) : Parse WrittenExpr := do
  match ← literal? with
  | some c => return .cell c
  | none =>
    if !wordsToo then fail
    let s ← peek
    match ← plainName? with
    | some n =>
      if s.any (·.isWord "true") then return .cell (Cell.ofBool true)
      else if s.any (·.isWord "false") then return .cell (Cell.ofBool false)
      else return .cell (.text n)
    | none => fail

def defaultValue : Parse WrittenExpr := do
  if ← seesMark "(" then inParens expr
  else if ← acceptMark "+" then return .unary .plus (← defaultTerm false)
  else if ← acceptMark "-" then
    match ← number? with
    | some text => return .cell (← numberLiteral true text)
    | none => return .unary .negate (← defaultTerm false)
  else defaultTerm true

/-- The constraints of a column, added to its definition. A name is given to the next one. -/
def columnConstraints : Nat → Option String → ColumnDefinition → Parse ColumnDefinition
  | 0, _, c => return c
  | fuel + 1, given, c => do
    if ← acceptWord "constraint" then columnConstraints fuel (some (← name)) c
    else if ← acceptWord "null" then
      let _ ← onConflict
      columnConstraints fuel none c
    else if ← acceptWord "not" then
      if ← acceptWord "deferrable" then
        let _ ← initially false
        columnConstraints fuel none { c with references := withLastDeferred false c.references }
      else
        expectWord "null"
        columnConstraints fuel none { c with notNull := some (← onConflict) }
    else if ← acceptWord "deferrable" then
      let deferred ← initially true
      columnConstraints fuel none { c with references := withLastDeferred deferred c.references }
    else if ← acceptWord "unique" then
      columnConstraints fuel none { c with unique := some (← onConflict) }
    else if ← acceptWord "default" then
      columnConstraints fuel none { c with default := some (← defaultValue) }
    else if ← acceptWord "collate" then
      columnConstraints fuel none { c with collation := some (← plainName) }
    else if ← acceptWord "check" then
      columnConstraints fuel none { c with checks := c.checks ++ [← check given] }
    else if ← acceptWord "references" then
      columnConstraints fuel none { c with references := c.references ++ [← reference [c.name]] }
    else if ← acceptWord "primary" then
      expectWord "key"
      let descending ← acceptWord "desc"
      if !descending then
        let _ ← acceptWord "asc"
      let conflict ← onConflict
      let counting ← acceptWord "autoincrement"
      columnConstraints fuel none { c with
        primary := some conflict, primaryAgain := c.primary.isSome
        descending := descending, counting := counting }
    else return c

def columnDefinition : Parse ColumnDefinition := do
  let n ← name
  let type ← declaredType
  columnConstraints ((← get).length + 1) none { name := n, type := type }

/-- The words that a constraint of a table begins with. -/
def constraintWords : List String :=
  ["constraint", "primary", "unique", "check", "foreign"]

/-- A constraint of a whole table; a name is given to the next one. -/
def tableConstraints : Nat → Option String → Parse (List TableConstraint)
  | 0, _ => return []
  | fuel + 1, given => do
    if ← acceptWord "constraint" then tableConstraints fuel (some (← name))
    else if ← acceptWord "primary" then
      expectWord "key"
      expectMark "("
      let columns ← list indexedName
      let counting ← acceptWord "autoincrement"
      expectMark ")"
      let c := .primary columns counting (← onConflict)
      return c :: (← nextConstraints fuel)
    else if ← acceptWord "unique" then
      let columns ← inParens (list indexedName)
      let c := .unique columns (← onConflict)
      return c :: (← nextConstraints fuel)
    else if ← acceptWord "check" then
      let c := .check (← check given)
      let _ ← onConflict
      return c :: (← nextConstraints fuel)
    else if ← acceptWord "foreign" then
      expectWord "key"
      let columns ← inParens (list name)
      expectWord "references"
      let r ← reference columns
      let deferred ← deferral
      return .foreign { r with deferred := deferred } :: (← nextConstraints fuel)
    else return []
where
  /-- When a reference of a table is checked. -/
  deferral : Parse Bool := do
    if (← seesWord "not") && (← seesSecond (·.isWord "deferrable")) then
      skip
      skip
      initially false
    else if ← acceptWord "deferrable" then initially true
    else return false
  /-- The constraints after one of them, with a comma between them or none. -/
  nextConstraints (fuel : Nat) : Parse (List TableConstraint) := do
    if ← acceptMark "," then
      if !(← sees fun s => constraintWords.any (s.isWord ·)) then fail
    tableConstraints fuel none

def columnDefinitions : Nat → Parse (List ColumnDefinition × List TableConstraint)
  | 0 => fail
  | fuel + 1 => do
    let c ← columnDefinition
    if ← acceptMark "," then
      if ← sees fun s => constraintWords.any (s.isWord ·) then
        return ([c], ← tableConstraints ((← get).length + 1) none)
      else
        let (cs, us) ← columnDefinitions fuel
        return (c :: cs, us)
    else return ([c], [])

/-- Whether words that make a statement indifferent to what there is come next. -/
def ifExists (negated : Bool) : Parse Bool := do
  if ← acceptWord "if" then
    if negated then expectWord "not"
    expectWord "exists"
    return true
  else return false

/-- A word after the columns of a table. None is known, but what follows it is looked at first. -/
def tableOption : Parse Unit := do
  let option ← name
  if (← get).isEmpty || (← seesMark ";") || (← seesMark ",") then throw (.unknownOption option)
  fail

/-- The columns and constraints of a table, and what follows them. -/
def tableBody : Parse (List ColumnDefinition × List TableConstraint) := do
  let body ← inParens (columnDefinitions ((← get).length + 1))
  let more ← acceptMark ","
  if more || (← sees fun s => (nameOf? s reservedWords).isSome) then tableOption
  return body

/-- The columns and constraints that come whole before the first symbol that nothing can go on with,
as far as the symbol before that one shows that they are whole. A name or an opening parenthesis may
go on with what is before it. -/
def readBefore (symbols : List Symbol) : List ColumnDefinition × List TableConstraint :=
  let isBad (count : Nat) : Bool :=
    match tableBody.run (symbols.take count) with
    | .ok _ => false
    | .error f => f != .incomplete
  let bad := match (List.range (symbols.length + 1)).find? isBad with
    | some count => count - 1
    | none => symbols.length
  let closing : Symbol := ⟨.mark, ")", ""⟩
  let goesOn (s : Symbol) : Bool := s.isMark "(" || (nameOf? s reservedWords).isSome
  let upTo (count : Nat) : Option (List ColumnDefinition × List TableConstraint) :=
    let part := symbols.take count ++ [closing]
    if symbols[count]?.any goesOn then none
    else ((inParens (columnDefinitions (part.length + 1))).run part).toOption.map (·.1)
  ((List.range bad).reverse.findSome? upTo).getD ([], [])

def createTable : Parse Instruction := do
  let ifMissing ← ifExists true
  let (database, table) ← qualifiedName
  if !(← sees fun s => s.isMark "(" || s.isWord "as") then fail
  match database with
  | some d => throw (.unknownDatabase d)
  | none => pure ()
  let symbols ← get
  set ([] : List Symbol)
  match tableBody.run symbols with
  | .ok ((columns, constraints), rest) =>
    if rest.head?.all (·.isMark ";") then
      set rest
      return .createTable table ifMissing columns constraints
    else return .brokenTable table ifMissing columns constraints (faultAt rest)
  | .error f =>
    let (columns, constraints) := readBefore symbols
    return .brokenTable table ifMissing columns constraints f

def createIndex (unique : Bool) : Parse Instruction := do
  let ifMissing ← ifExists true
  let (database, index) ← qualifiedName
  expectWord "on"
  let table ← name
  let columns ← inParens (list indexedName)
  let condition ← condition?
  if !(← get).isEmpty && !(← seesMark ";") then fail
  match database with
  | some d => throw (.unknownDatabase d)
  | none => return .createIndex unique ifMissing index table columns condition

/-- What follows the word `create`. -/
def create : Parse Instruction := do
  if ← acceptAnyWord ["temp", "temporary"] then
    expectWord "table"
    createTable
  else if ← acceptWord "table" then createTable
  else if ← acceptWord "unique" then
    expectWord "index"
    createIndex true
  else
    expectWord "index"
    createIndex false

/-- What follows the word `drop`. -/
def drop : Parse Instruction := do
  if ← acceptWord "index" then
    let ifPresent ← ifExists false
    return .dropIndex (← tableName) ifPresent
  else
    expectWord "table"
    let ifPresent ← ifExists false
    return .dropTable (← tableName) ifPresent

def resultItem : Parse ResultItem := do
  if ← acceptMark "*" then return .everything
  let named := (← get)[0]?.bind (nameOf? · reservedWords)
  if (← seesSecond (·.isMark ".")) && ((← get)[2]?.any (·.isMark "*")) then
    match named with
    | some n =>
      skip
      skip
      skip
      return .everythingOf n
    | none => fail
  else
    let (e, symbols) ← withSymbols expr
    return .expr e (← aliasName?) (written symbols)

def orderItem : Parse OrderItem := do
  let e ← expr
  let (descending, nullsTurned) ← direction
  return { expr := e, descending := descending, nullsTurned := nullsTurned }

/-- The names that come next, at most as many as the argument says. -/
def namesUpTo : Nat → Parse (List String)
  | 0 => return []
  | n + 1 => do
    match (← peek).bind (nameOf? · reservedWords) with
    | some w =>
      skip
      return w :: (← namesUpTo n)
    | none => return []

/-- The kind of join that words before the word `join` mean. -/
def kindOfJoin (words : List String) : Except Fault JoinKind :=
  let has (w : String) : Bool := words.any (Text.alikeText w)
  let isInner := has "inner" || has "cross"
  let isSided := has "left" || has "right" || has "full"
  let isKnown := words.all fun w =>
    joinWords.any fun known => Text.alikeText known w && known != "indexed"
  if !isKnown || (isInner && (isSided || has "outer")) || (has "outer" && !isSided) then
    .error (.unknownJoin words)
  else if has "natural" || has "right" || has "full" then .error (.syntaxNear (words.headD ""))
  else if has "left" then .ok .left
  else if has "cross" then .ok .cross
  else .ok .inner

example : (kindOfJoin ["LEFT", "outer"]).toOption = some .left := by decide +kernel
example : (kindOfJoin ["left", "inner"]).toOption = none := by decide +kernel

/-- How the next table is joined, if there is one. -/
def joinKind? : Parse (Option JoinKind) := do
  if ← acceptMark "," then return some .inner
  else if ← acceptWord "join" then return some .inner
  else if ← sees fun s => joinWords.any (s.isWord ·) && !s.isWord "indexed" then
    let words ← namesUpTo 3
    expectWord "join"
    return some (← kindOfJoin words)
  else return none

/-- Whether indexes are to have no part in visiting a table. -/
def notIndexed : Parse Bool := do
  if ← acceptWord "not" then
    expectWord "indexed"
    return true
  else return false

/-- Arguments after the name of a table, which takes none. -/
def tableArguments : Parse Unit := do
  expectMark "("
  if !(← seesMark ")") then
    let _ ← list expr
  expectMark ")"

def fromItem (join : JoinKind) : Parse FromItem := do
  let table ← tableName
  let called ← seesMark "("
  if called then tableArguments
  let aliasName ← aliasName?
  let unindexed ← if called then pure false else notIndexed
  let on ← afterWord "on" expr
  return {
    table := table, aliasName := aliasName, join := join, on := on, called := called
    unindexed := unindexed }

/-- The tables of a SELECT from the next one on. Tables in parentheses are among the others. -/
def fromItems : Nat → JoinKind → Parse (List FromItem)
  | 0, _ => fail
  | fuel + 1, join => do
    let items ← if ← acceptMark "(" then
        let inner ← fromItems fuel join
        expectMark ")"
        pure inner
      else pure [← fromItem join]
    match ← joinKind? with
    | some next => return items ++ (← fromItems fuel next)
    | none => return items

/-- The greatest number of rows, and how many rows are left out before them. -/
def limits : Parse (Option WrittenExpr × Option WrittenExpr) := do
  if ← acceptWord "limit" then
    let first ← expr
    if ← acceptWord "offset" then return (some first, some (← expr))
    else if ← acceptMark "," then
      let second ← expr
      return (some second, some first)
    else return (some first, none)
  else return (none, none)

/-- What follows the word `select`. -/
def query : Parse QueryText := do
  let distinct ← acceptWord "distinct"
  if !distinct then
    let _ ← acceptWord "all"
  let items ← list resultItem
  let sources ← if ← acceptWord "from" then fromItems ((← get).length + 1) .inner else pure []
  let condition ← condition?
  let groupBy ← if ← acceptWord "group" then
      expectWord "by"
      list expr
    else pure []
  let having ← afterWord "having" expr
  let order ← if ← acceptWord "order" then
      expectWord "by"
      list orderItem
    else pure []
  let (limit, offset) ← limits
  return {
    distinct := distinct, items := items, sources := sources, condition := condition
    groupBy := groupBy, having := having, order := order, limit := limit, offset := offset }

/-- An assignment to a column, or one to several columns in parentheses of a row of as many. -/
def assignment : Parse (List (String × WrittenExpr)) := do
  let equals (s : Symbol) : Bool := s.isMark "=" || s.isMark "=="
  if ← seesMark "(" then
    let columns ← inParens (list name)
    expect equals
    let items := match ← expr with
      | .call { isRow := true, .. } items => items
      | e => [e]
    if items.length != columns.length then throw (.assignedCount columns.length items.length)
    return columns.zip items
  else
    let column ← name
    expect equals
    return [(column, ← expr)]

def assignments : Parse (List (String × WrittenExpr)) :=
  List.flatten <$> list assignment

/-- What an INSERT does with rows that repeat others. -/
def upserts : Nat → Parse (List Upsert)
  | 0 => return []
  | fuel + 1 => do
    if ← acceptWord "on" then
      expectWord "conflict"
      let target ← if ← seesMark "(" then inParens (list indexedName) else pure []
      expectWord "do"
      let names := target.map (·.name)
      if ← acceptWord "nothing" then
        let u : Upsert := { target := names }
        if target.isEmpty then return [u] else return u :: (← upserts fuel)
      else
        expectWord "update"
        expectWord "set"
        let assignments ← assignments
        let condition ← condition?
        let u : Upsert := {
          target := names, assignments := some assignments, condition := condition }
        if target.isEmpty then return [u] else return u :: (← upserts fuel)
    else return []

/-- What follows the word `insert` or `replace` and what is done about broken constraints. -/
def insert (conflict : Option ConflictAction) : Parse Instruction := do
  expectWord "into"
  let table ← tableName
  let _ ← afterWord "as" name
  let columns ← if ← seesMark "(" then some <$> inParens (list name) else pure none
  if ← acceptWord "default" then
    expectWord "values"
    return .insert conflict table columns .defaults []
  let rows ← if ← acceptWord "select" then RowSource.query <$> query
    else
      expectWord "values"
      RowSource.values <$> list (inParens (list expr))
  return .insert conflict table columns rows (← upserts ((← get).length + 1))

/-- What is done about broken constraints, if a statement says it. -/
def orConflict : Parse (Option ConflictAction) := do
  if ← acceptWord "or" then some <$> conflictAction else return none

/-- What follows the word `update`. -/
def update : Parse Instruction := do
  let conflict ← orConflict
  let table ← tableName
  let aliasName ← afterWord "as" name
  let _ ← notIndexed
  expectWord "set"
  let assignments ← assignments
  return .update conflict table aliasName assignments (← condition?)

/-- What follows the word `delete`. -/
def delete : Parse Instruction := do
  expectWord "from"
  let table ← tableName
  let aliasName ← afterWord "as" name
  let _ ← notIndexed
  return .delete table aliasName (← condition?)

/-- What follows the word that begins or ends a transaction. -/
def transaction (i : Instruction) : Parse Instruction := do
  if ← acceptWord "transaction" then
    if (← sees fun s => (nameOf? s reservedWords).isSome) then skip
  return i

def instruction : Parse Instruction := do
  if ← acceptWord "create" then create
  else if ← acceptWord "drop" then drop
  else if ← acceptWord "insert" then insert (← orConflict)
  else if ← acceptWord "replace" then insert (some .replace)
  else if ← acceptWord "select" then Instruction.select <$> query
  else if ← acceptWord "update" then update
  else if ← acceptWord "delete" then delete
  else if ← acceptWord "begin" then
    let _ ← acceptAnyWord ["deferred", "immediate", "exclusive"]
    transaction .start
  else if ← acceptAnyWord ["commit", "end"] then transaction .commit
  else if ← acceptWord "rollback" then transaction .rollback
  else fail

/-- A statement with its end: a semicolon or the end of the text. -/
def statement : Parse Instruction := do
  let i ← instruction
  if !(← get).isEmpty then expectMark ";"
  return i

end Parse

/-- The number of a place with a name: the one that the name has already, or the next. -/
def namedNumber (name : String) (top : Nat) (names : List (String × Nat)) :
    Nat × List (String × Nat) :=
  match names.lookup name with
  | some n => (n, names)
  | none => (top + 1, (name, top + 1) :: names)

/-- Numbers the places from left to right: a place written without a number gets the one after the
greatest so far. The result has the greatest number too. -/
def numberPlaces (top : Nat) (names : List (String × Nat)) : List Symbol → Nat × List Symbol
  | [] => (top, [])
  | s :: rest =>
    match s.kind with
    | .place n =>
      let number := n.getD (top + 1)
      let (last, rest) := numberPlaces (max top number) names rest
      (last, { s with kind := .place (some number) } :: rest)
    | .namedPlace =>
      let (number, names) := namedNumber s.text top names
      let (last, rest) := numberPlaces (max top number) names rest
      (last, { s with kind := .place (some number) } :: rest)
    | _ =>
      let (last, rest) := numberPlaces top names rest
      (last, s :: rest)

/-- A statement with the number of parameters that it has places for. -/
structure Sentence where
  instruction : Instruction
  places : Nat

/-- The symbols after a symbol that ends a statement. The run of blanks there may begin with one
that would only go on with it elsewhere. -/
def Symbol.unblanked (before : Option Symbol) : List Symbol → List Symbol
  | s :: rest =>
    if s.text == "\x0b" && before.all (·.gap.toList.all Symbol.inGap) then
      Symbol.unblanked (some s) rest
    else s :: rest
  | [] => []

/-- The first statement among symbols, if there is one, with the symbols that follow it. -/
def Sentence.first (symbols : List Symbol) : Except Fault (Option (Sentence × List Symbol)) :=
  match symbols.dropWhile (·.isMark ";") with
  | [] => .ok none
  | symbols => do
    let (_, numbered) := numberPlaces 0 [] symbols
    let (i, rest) ← Parse.statement.run numbered
    let length := symbols.length - rest.length
    let own := symbols.take length
    return some (⟨i, (numberPlaces 0 [] own).1⟩,
      Symbol.unblanked own.getLast? (symbols.drop length))

end EntityMapper.Sql
