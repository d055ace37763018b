import EntityMapper.Sql.Affinity
/-! Statements as they are written, and what can be wrong with them. -/

namespace EntityMapper.Sql

/-- Why a statement cannot be run. -/
inductive Fault where
  | syntaxNear (text : String)
  | unknownSymbol (text : String)
  | incomplete
  | placeNumber
  | numberTooBig (text : String)
  | unknownDatabase (name : String)
  | noTable (table : String)
  | tableExists (table : String)
  | tableNamedLikeIndex (name : String)
  | indexExists (name : String)
  | indexNamedLikeTable (name : String)
  | noIndex (name : String)
  | keptIndex
  | noColumn (column : String)
  | noColumnOf (table column : String)
  | ambiguousColumn (column : String)
  | repeatedColumn (column : String)
  | severalKeys (table : String)
  | countingKeyType
  | noCollation (name : String)
  | noFunction (name : String)
  | argumentCount (function : String)
  | misusedAggregate (name : String)
  | misplacedAggregate (name : String)
  | noMatching
  | misusedRow
  | assignedCount (columns values : Nat)
  | notFunction (name : String)
  | unknownOption (name : String)
  | aliasedAggregate (name : String)
  | groupedAggregate
  | distinctArguments
  | havingAlone
  | joinToRight
  | unknownJoin (words : List String)
  | defaultNotConstant (column : String)
  | parentColumns (column table : String)
  | keyColumnCounts
  | conflictingActions
  | noForeignColumn (column : String)
  | keyMismatch (child parent : String)
  | noConflictTarget
  | noSource
  | rowWidths
  | valueCount (values columns : Nat)
  | tableWidth (table : String) (columns values : Nat)
  | orderTermRange (position : String) (count : Nat)
  | groupTermRange (position : String) (count : Nat)
  | indexedExpression
  | reservedName (name : String)
  | keyType
  | overflow
  | patternTooComplex
  | escapeLength
  | missingValue (table column : String)
  | notUnique (table : String) (columns : List String)
  | checkFailed (name : String)
  | keyFailed
  | noKeysLeft
  | readOnly
  | transactionOpen
  | nothingToCommit
  | nothingToRollBack
  deriving DecidableEq

namespace Fault

def message : Fault → String
  | syntaxNear text => "near \"" ++ text ++ "\": syntax error"
  | unknownSymbol text => "unrecognized token: \"" ++ text ++ "\""
  | incomplete => "incomplete input"
  | placeNumber => "variable number must be between ?1 and ?32766"
  | numberTooBig text => "hex literal too big: " ++ text
  | unknownDatabase name => "unknown database " ++ name
  | noTable table => "no such table: " ++ table
  | tableExists table => "table " ++ table ++ " already exists"
  | tableNamedLikeIndex name => "there is already an index named " ++ name
  | indexExists name => "index " ++ name ++ " already exists"
  | indexNamedLikeTable name => "there is already a table named " ++ name
  | noIndex name => "no such index: " ++ name
  | keptIndex => "index associated with UNIQUE or PRIMARY KEY constraint cannot be dropped"
  | noColumn column => "no such column: " ++ column
  | noColumnOf table column => "table " ++ table ++ " has no column named " ++ column
  | ambiguousColumn column => "ambiguous column name: " ++ column
  | repeatedColumn column => "duplicate column name: " ++ column
  | severalKeys table => "table \"" ++ table ++ "\" has more than one primary key"
  | countingKeyType => "AUTOINCREMENT is only allowed on an INTEGER PRIMARY KEY"
  | noCollation name => "no such collation sequence: " ++ name
  | noFunction name => "no such function: " ++ name
  | argumentCount function => "wrong number of arguments to function " ++ function ++ "()"
  | misusedAggregate name => "misuse of aggregate: " ++ name ++ "()"
  | misplacedAggregate name => "misuse of aggregate function " ++ name ++ "()"
  | noMatching => "unable to use function MATCH in the requested context"
  | misusedRow => "row value misused"
  | assignedCount columns values =>
    showNat columns ++ " columns assigned " ++ showNat values ++ " values"
  | notFunction name => "'" ++ name ++ "' is not a function"
  | unknownOption name => "unknown table option: " ++ name
  | aliasedAggregate name => "misuse of aliased aggregate " ++ name
  | groupedAggregate => "aggregate functions are not allowed in the GROUP BY clause"
  | distinctArguments => "DISTINCT aggregates must have exactly one argument"
  | joinToRight => "ON clause references tables to its right"
  | unknownJoin words => "unknown join type: " ++ " ".intercalate words
  | havingAlone => "HAVING clause on a non-aggregate query"
  | defaultNotConstant column => "default value of column [" ++ column ++ "] is not constant"
  | parentColumns column table =>
    "foreign key on " ++ column ++ " should reference only one column of table " ++ table
  | keyColumnCounts =>
    "number of columns in foreign key does not match the number of columns in the referenced table"
  | conflictingActions => "conflicting ON CONFLICT clauses specified"
  | noForeignColumn column => "unknown column \"" ++ column ++ "\" in foreign key definition"
  | keyMismatch child parent =>
    "foreign key mismatch - \"" ++ child ++ "\" referencing \"" ++ parent ++ "\""
  | noConflictTarget =>
    "ON CONFLICT clause does not match any PRIMARY KEY or UNIQUE constraint"
  | noSource => "no tables specified"
  | rowWidths => "all VALUES must have the same number of terms"
  | valueCount values columns => showNat values ++ " values for " ++ showNat columns ++ " columns"
  | tableWidth table columns values =>
    "table " ++ table ++ " has " ++ showNat columns ++ " columns but " ++ showNat values ++
      " values were supplied"
  | orderTermRange position count =>
    position ++ " ORDER BY term out of range - should be between 1 and " ++ showNat count
  | groupTermRange position count =>
    position ++ " GROUP BY term out of range - should be between 1 and " ++ showNat count
  | indexedExpression => "expressions prohibited in PRIMARY KEY and UNIQUE constraints"
  | reservedName name => "object name reserved for internal use: " ++ name
  | keyType => "datatype mismatch"
  | overflow => "integer overflow"
  | patternTooComplex => "LIKE or GLOB pattern too complex"
  | escapeLength => "ESCAPE expression must be a single character"
  | missingValue table column => "NOT NULL constraint failed: " ++ table ++ "." ++ column
  | notUnique table columns =>
    "UNIQUE constraint failed: " ++ ", ".intercalate (columns.map fun c => table ++ "." ++ c)
  | checkFailed name => "CHECK constraint failed: " ++ name
  | keyFailed => "FOREIGN KEY constraint failed"
  | noKeysLeft => "database or disk is full"
  | readOnly => "attempt to write a readonly database"
  | transactionOpen => "cannot start a transaction within a transaction"
  | nothingToCommit => "cannot commit - no transaction is active"
  | nothingToRollBack => "cannot rollback - no transaction is active"

end Fault

/-- An operator with one operand. -/
inductive UnaryOperator where
  | negate
  | plus
  | complement
  | not
  | isNull
  | notNull
  /-- Whether a number is other than zero, a missing one being zero. -/
  | isTrue
  /-- Whether a number is zero, a missing one being none. -/
  | isFalse
  deriving DecidableEq

/-- An operator with two operands. -/
inductive BinaryOperator where
  | or
  | and
  | equal
  | different
  | less
  | lessOrEqual
  | greater
  | greaterOrEqual
  /-- Equal or both missing. -/
  | same
  | distinct
  | bitAnd
  | bitOr
  | shiftLeft
  | shiftRight
  | add
  | subtract
  | multiply
  | divide
  | remainder
  | concat
  deriving DecidableEq

/-- An expression; `κ` stands for the ways in which columns are named, and `φ` for functions. -/
inductive Expr (κ φ : Type) where
  | cell (c : Cell)
  /-- A place for a parameter, numbered from one. -/
  | place (number : Nat)
  | column (k : κ)
  | unary (op : UnaryOperator) (a : Expr κ φ)
  | binary (op : BinaryOperator) (a b : Expr κ φ)
  | between (a low high : Expr κ φ)
  | isIn (a : Expr κ φ) (items : List (Expr κ φ))
  | choose (condition yes no : Expr κ φ)
  | cast (a : Expr κ φ) (type : Affinity)
  | collate (a : Expr κ φ) (name : String)
  | call (f : φ) (args : List (Expr κ φ))
  deriving Inhabited

/-- A column as it is named in a statement. -/
structure ColumnName where
  table : Option String := none
  name : String
  /-- A loose name stands for its text if there is no such column. -/
  loose : Bool := false
  deriving DecidableEq

/-- A function as it is named in a statement. -/
structure FunctionName where
  name : String
  /-- Arguments that repeat count once. -/
  distinct : Bool := false
  /-- There is a star in place of arguments. -/
  star : Bool := false
  /-- There is no name, and the arguments are a row of their own. -/
  isRow : Bool := false
  deriving DecidableEq

abbrev WrittenExpr := Expr ColumnName FunctionName

/-- What is done when a row breaks a constraint. -/
inductive ConflictAction where
  /-- The statement comes to nothing. -/
  | abort
  /-- The statement ends, and what it did stays. -/
  | fail
  | ignore
  | replace
  | rollback
  deriving DecidableEq

/-- What happens to rows when a row that they refer to goes or changes. -/
inductive ReferenceAction where
  | noAction
  | restrict
  | setNull
  | setDefault
  | cascade
  deriving DecidableEq

/-- A reference of columns to a table, as it is written. -/
structure ReferenceDefinition where
  columns : List String
  table : String
  /-- The columns referred to, or else the primary key. -/
  parents : List String := []
  onDelete : ReferenceAction := .noAction
  onUpdate : ReferenceAction := .noAction
  /-- Whether the reference is checked at the end of a transaction. -/
  deferred : Bool := false
  deriving DecidableEq

/-- A condition that every row has to meet, with its name or else its text. -/
structure CheckDefinition where
  name : String
  condition : WrittenExpr

/-- A column of an index as it is written. -/
structure IndexedName where
  name : String
  collation : Option String := none
  descending : Bool := false
  deriving DecidableEq

/-- A column as it is declared. -/
structure ColumnDefinition where
  name : String
  type : String := ""
  notNull : Option ConflictAction := none
  unique : Option ConflictAction := none
  /-- The column is the primary key. -/
  primary : Option ConflictAction := none
  /-- The column is said to be the primary key more than once. -/
  primaryAgain : Bool := false
  /-- The primary key runs downwards. -/
  descending : Bool := false
  /-- The identifiers that the column gets are never used again. -/
  counting : Bool := false
  default : Option WrittenExpr := none
  collation : Option String := none
  checks : List CheckDefinition := []
  references : List ReferenceDefinition := []

/-- A constraint of a whole table. -/
inductive TableConstraint where
  | primary (columns : List IndexedName) (counting : Bool) (conflict : ConflictAction)
  | unique (columns : List IndexedName) (conflict : ConflictAction)
  | check (c : CheckDefinition)
  | foreign (r : ReferenceDefinition)

/-- What a SELECT gives for each row. -/
inductive ResultItem where
  | everything
  | everythingOf (table : String)
  /-- An expression with its name, or else the text that it is written as. -/
  | expr (e : WrittenExpr) (name : Option String) (text : String)

/-- How a table is joined to the tables before it. -/
inductive JoinKind where
  | inner
  /-- The tables are visited in the order in which they are written. -/
  | cross
  | left
  deriving DecidableEq

/-- A table of a SELECT. -/
structure FromItem where
  table : String
  aliasName : Option String := none
  join : JoinKind := .inner
  on : Option WrittenExpr := none
  /-- The name has arguments, as that of a table has not. -/
  called : Bool := false
  /-- Indexes have no part in visiting the table. -/
  unindexed : Bool := false

/-- An expression to order by. -/
structure OrderItem where
  expr : WrittenExpr
  descending : Bool := false
  /-- Missing cells come at the end that is not theirs. -/
  nullsTurned : Bool := false

/-- A SELECT. -/
structure QueryText where
  distinct : Bool := false
  items : List ResultItem
  sources : List FromItem := []
  condition : Option WrittenExpr := none
  groupBy : List WrittenExpr := []
  having : Option WrittenExpr := none
  order : List OrderItem := []
  limit : Option WrittenExpr := none
  offset : Option WrittenExpr := none

/-- Where the rows of an INSERT come from. -/
inductive RowSource where
  | values (rows : List (List WrittenExpr))
  | query (q : QueryText)
  /-- One row of what columns have at first. -/
  | defaults

/-- What an INSERT does with a row that repeats another one. -/
structure Upsert where
  /-- The columns that must not repeat; none stands for any constraint. -/
  target : List String := []
  /-- The assignments to the row that is there, or else nothing is done. -/
  assignments : Option (List (String × WrittenExpr)) := none
  condition : Option WrittenExpr := none

/-- A statement. -/
inductive Instruction where
  | createTable (table : String) (ifMissing : Bool) (columns : List ColumnDefinition)
    (constraints : List TableConstraint)
  /-- The beginning of a table that is not read to its end. The name and what was read are looked at
  first. -/
  | brokenTable (table : String) (ifMissing : Bool) (columns : List ColumnDefinition)
    (constraints : List TableConstraint) (fault : Fault)
  | createIndex (unique ifMissing : Bool) (name table : String) (columns : List IndexedName)
    (condition : Option WrittenExpr)
  | dropTable (table : String) (ifPresent : Bool)
  | dropIndex (name : String) (ifPresent : Bool)
  /-- Adds rows. Columns that are not named get what they have at first. -/
  | insert (conflict : Option ConflictAction) (table : String) (columns : Option (List String))
    (rows : RowSource) (upserts : List Upsert)
  | select (q : QueryText)
  | update (conflict : Option ConflictAction) (table : String) (aliasName : Option String)
    (assignments : List (String × WrittenExpr)) (condition : Option WrittenExpr)
  | delete (table : String) (aliasName : Option String) (condition : Option WrittenExpr)
  | start
  | commit
  | rollback

example : (Fault.notUnique "t" ["a", "b"]).message = "UNIQUE constraint failed: t.a, t.b" := by
  decide

end EntityMapper.Sql
