import EntityMapper.Number.Binary
/-! Documents: JSON values whose object members are kept in the order of their names. -/

namespace EntityMapper

/-- A JSON value. Whole numbers from `-2 ^ 63` to `2 ^ 64 - 1` stay integers. -/
inductive Document where
  | null
  | bool (b : Bool)
  | integer (n : Int)
  | real (x : Double)
  | text (s : String)
  | array (items : List Document)
  | object (members : List (String × Document))
  deriving Inhabited

namespace Document

mutual

/-- Equality in structure; real numbers compare as numbers do. -/
def equal : Document → Document → Bool
  | .null, .null => true
  | .bool a, .bool b => a == b
  | .integer a, .integer b => a == b
  | .real a, .real b => a.equal b
  | .text a, .text b => a == b
  | .array a, .array b => equalItems a b
  | .object a, .object b => equalMembers a b
  | _, _ => false

def equalItems : List Document → List Document → Bool
  | [], [] => true
  | a :: as, b :: bs => equal a b && equalItems as bs
  | _, _ => false

def equalMembers : List (String × Document) → List (String × Document) → Bool
  | [], [] => true
  | (k, a) :: as, (l, b) :: bs => k == l && equal a b && equalMembers as bs
  | _, _ => false

end

/-- Puts a member in its place among members ordered by name; a member of that name goes. -/
def insertMember (name : String) (d : Document) :
    List (String × Document) → List (String × Document)
  | [] => [(name, d)]
  | (k, e) :: rest =>
    if name < k then (name, d) :: (k, e) :: rest
    else if name = k then (name, d) :: rest
    else (k, e) :: insertMember name d rest

/-- The object with given members, the last of each name counting. -/
def ofMembers (members : List (String × Document)) : Document :=
  .object (members.foldl (fun done m => insertMember m.1 m.2 done) [])

end Document

end EntityMapper
