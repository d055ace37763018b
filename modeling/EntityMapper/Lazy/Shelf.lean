import EntityMapper.Error
import EntityMapper.Lazy.Cell
import EntityMapper.Value.Show
/-! A shelf of lazy lists, some of them clones that share one cell. -/

namespace EntityMapper

/-- What is asked of the items of a list besides their equality: to be added up and shown. -/
class ListItem (α : Type) where
  zero : α
  add : α → α → α
  text : α → String

instance : ListItem Int where
  zero := 0
  add a b := a + b
  text := showInt

/-- A loader that gives prepared results, and then nothing but the empty list. -/
abbrev PreparedLoader (α : Type) := List (Except Error (List α))

namespace PreparedLoader

def next {α : Type} : PreparedLoader α → Except Error (List α) × PreparedLoader α
  | [] => (.ok [], [])
  | r :: rest => (r, rest)

end PreparedLoader

/-- A cell with the number of times its loader has run. -/
structure CountedCell (α : Type) where
  cell : LazyCell (PreparedLoader α) α
  calls : Nat := 0

/-- The cell of a list of numbers. -/
abbrev ShelfSlot := CountedCell Int

namespace CountedCell

variable {α : Type}

def ofLoader (l : PreparedLoader α) : CountedCell α :=
  { cell := .pending l }

def ofItems (items : List α) : CountedCell α :=
  { cell := .loaded items }

def runCounted (l : PreparedLoader α) :
    StateM Nat (Except Error (List α) × PreparedLoader α) := do
  modify (· + 1)
  return l.next

/-- The items of a cell, loaded if they are not there yet. -/
def force (s : CountedCell α) : Except Error (List α) × CountedCell α :=
  let ((result, cell), calls) := (s.cell.force runCounted).run s.calls
  (result, ⟨cell, calls⟩)

end CountedCell

/-- Cells, and for each list the cell that it shares with its clones. -/
structure Shelf (α : Type) where
  slots : List (CountedCell α)
  lists : List Nat

/-- What can be done with a list. -/
inductive LazyCall where
  | isLoaded
  | loadedItems
  | items
  | len
  | isEmpty
  | get (index : Nat)
  | sum
  | describe
  | sameAs (other : Nat)
  | clone
  deriving DecidableEq

/-- What a call answers. -/
inductive ListAnswer (α : Type) where
  | flag (b : Bool)
  | count (n : Nat)
  | number (x : α)
  | items (xs : List α)
  | absent
  | text (s : String)
  | failed (e : Error)

/-- The answers of lists of numbers. -/
abbrev LazyAnswer := ListAnswer Int

namespace Shelf

variable {α : Type}

/-- A shelf on which every list has a cell of its own. -/
def ofSlots (slots : List (CountedCell α)) : Shelf α :=
  ⟨slots, List.range slots.length⟩

def slotOf (s : Shelf α) (list : Nat) : Nat :=
  (s.lists[list]?).getD 0

def slot (s : Shelf α) (list : Nat) : CountedCell α :=
  (s.slots[s.slotOf list]?).getD (.ofItems [])

/-- Forces a list and answers with a function of its items. -/
def forced (s : Shelf α) (list : Nat) (f : List α → ListAnswer α) : ListAnswer α × Shelf α :=
  let (result, slot) := (s.slot list).force
  let s := { s with slots := s.slots.set (s.slotOf list) slot }
  match result with
  | .ok items => (f items, s)
  | .error e => (.failed e, s)

/-- Two lists are the same when they share a cell, or when both are loaded with equal items. -/
def same [BEq α] (s : Shelf α) (a b : Nat) : Bool :=
  s.slotOf a == s.slotOf b ||
    match (s.slot a).cell.items?, (s.slot b).cell.items? with
    | some xs, some ys => xs == ys
    | _, _ => false

variable [ListItem α]

def describe (s : Shelf α) (list : Nat) : String :=
  match (s.slot list).cell.items? with
  | some items => "LazyList([" ++ ", ".intercalate (items.map ListItem.text) ++ "])"
  | none => "LazyList(<not loaded>)"

def call [BEq α] (s : Shelf α) (list : Nat) : LazyCall → ListAnswer α × Shelf α
  | .isLoaded => (.flag (s.slot list).cell.isLoaded, s)
  | .loadedItems =>
    match (s.slot list).cell.items? with
    | some items => (.items items, s)
    | none => (.absent, s)
  | .items => s.forced list .items
  | .len => s.forced list fun items => .count items.length
  | .isEmpty => s.forced list fun items => .flag items.isEmpty
  | .get index => s.forced list fun items =>
      match items[index]? with
      | some x => .number x
      | none => .absent
  | .sum => s.forced list fun items => .number (items.foldl ListItem.add ListItem.zero)
  | .describe => (.text (s.describe list), s)
  | .sameAs other => (.flag (s.same list other), s)
  | .clone => (.count s.lists.length, { s with lists := s.lists ++ [s.slotOf list] })

end Shelf

end EntityMapper
