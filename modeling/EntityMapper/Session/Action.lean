import EntityMapper.Store.Entry
/-! Actions: writes that wait in a queue until they are flushed. -/

namespace EntityMapper

/-- The kinds of actions, in the order in which a flush performs them. -/
inductive ActionKind where
  | persist
  | merge
  | remove
  deriving DecidableEq

/-- A write. -/
inductive Action where
  /-- Adds a row for an instance. An instant one is performed at once instead of being queued. -/
  | persist (handle : Handle) (instant : Bool)
  /-- Writes the row of an entry, which is expected to have a given version. -/
  | merge (entry : Entry) (expected : Value)
  /-- Removes the row of an entry. -/
  | remove (entry : Entry)

namespace ActionKind

def name : ActionKind → String
  | persist => "Persist"
  | merge => "Merge"
  | remove => "Remove"

end ActionKind

namespace Action

def kind : Action → ActionKind
  | persist _ _ => .persist
  | merge _ _ => .merge
  | remove _ => .remove

/-- The key of the row that is written, if the row is already there. -/
def key? : Action → Option EntityKey
  | persist _ _ => none
  | merge e _ => some e.key
  | remove e => some e.key

def isInstant : Action → Bool
  | persist _ instant => instant
  | merge _ _ => false
  | remove _ => false

def typeName (heap : Heap) : Action → String
  | persist h _ => (heap.get h).type.name
  | merge e _ => e.key.name
  | remove e => e.key.name

def describe (heap : Heap) : Action → String
  | persist h instant =>
    "Persist \x7b entity: " ++ Text.quoted (heap.get h).type.name ++ ", instant: " ++
      showBool instant ++ " \x7d"
  | merge e expected =>
    "Merge \x7b key: " ++ e.key.describe ++ ", expected_version: " ++ expected.describe ++ " \x7d"
  | remove e => "Remove \x7b key: " ++ e.key.describe ++ " \x7d"

end Action

/-- Actions that wait, in the order in which they came. -/
structure ActionQueue where
  actions : List Action := []

namespace ActionQueue

def add (q : ActionQueue) (a : Action) : ActionQueue :=
  ⟨q.actions ++ [a]⟩

def ofKind (q : ActionQueue) (k : ActionKind) : List Action :=
  q.actions.filter (·.kind == k)

/-- The actions in the order in which a flush performs them: by kind, and then as they came. -/
def ordered (q : ActionQueue) : List Action :=
  q.ofKind .persist ++ q.ofKind .merge ++ q.ofKind .remove

/-- Whether an action of a kind waits for a key. -/
def isPending (q : ActionQueue) (k : ActionKind) (key : EntityKey) : Bool :=
  (q.ofKind k).any fun a => a.key?.any (·.equal key)

def size (q : ActionQueue) : Nat :=
  q.actions.length

theorem ofKind_add (q : ActionQueue) (a : Action) (k : ActionKind) :
    (q.add a).ofKind k = q.ofKind k ++ if a.kind = k then [a] else [] := by
  by_cases h : a.kind = k <;> simp [add, ofKind, h]

@[simp] theorem length_ordered (q : ActionQueue) : q.ordered.length = q.size := by
  obtain ⟨actions⟩ := q
  induction actions with
  | nil => rfl
  | cons a rest ih =>
    simp only [ordered, ofKind, size, List.length_append] at ih ⊢
    cases h : a.kind <;> simp [h] <;> omega

end ActionQueue

end EntityMapper
