import EntityMapper.Entity.Instance
import EntityMapper.Lazy.Cell
import EntityMapper.Store.Connection
/-! Workspaces: a store with its transcript, the mappings resolved so far, and the instances and
lists in memory. -/

namespace EntityMapper

abbrev Handle := Nat

/-- Shared instances: all holders of a handle see the same instance. -/
structure Heap where
  cells : Assoc Handle Instance := .empty
  /-- The handle that the next instance gets. -/
  next : Handle := 0

namespace Heap

def get (h : Heap) (k : Handle) : Instance :=
  (h.cells.find? k).getD default

def set (h : Heap) (k : Handle) (i : Instance) : Heap :=
  { h with cells := h.cells.insert k i }

def push (h : Heap) (i : Instance) : Heap :=
  { cells := h.cells.insert h.next i, next := h.next + 1 }

@[simp] theorem get_set_self (h : Heap) (k : Handle) (i : Instance) : (h.set k i).get k = i := by
  simp [get, set, Assoc.find?_insert_self]

theorem get_set_of_ne (h : Heap) {k l : Handle} (i : Instance) (hkl : l ≠ k) :
    (h.set k i).get l = h.get l := by
  simp [get, set, Assoc.find?_insert_of_ne _ (Ne.symm hkl)]

@[simp] theorem get_push_self (h : Heap) (i : Instance) : (h.push i).get h.next = i := by
  simp [get, push, Assoc.find?_insert_self]

theorem get_push_of_ne (h : Heap) {l : Handle} (i : Instance) (hl : l ≠ h.next) :
    (h.push i).get l = h.get l := by
  simp [get, push, Assoc.find?_insert_of_ne _ (Ne.symm hl)]

end Heap

/-- The search that fills a list: the entities of a type that refer to an owner. -/
structure CollectionSearch where
  field : String
  target : EntityType
  /-- The field of the target that refers to the owner. -/
  mappedBy : String
  owner : Value

/-- A list of entities that may still be waiting for its search. -/
abbrev EntityList := LazyCell CollectionSearch Instance

/-- All that operations on a store work with. -/
structure Workspace (σ : Type) where
  store : σ
  transcript : List Exchange := []
  journal : Journal := {}
  heap : Heap := {}
  lists : List EntityList := []

/-- An operation on a store. What it has done stays when it fails. -/
abbrev Work (σ : Type) (α : Type) := ExceptT Error (StateM (Workspace σ)) α

namespace Workspace

variable {σ : Type}

def note (level : Level) (message : String) (w : Workspace σ) : Workspace σ :=
  { w with journal := w.journal.note level message }

/-- The workspace with one more exchange, after which the store is in a given state. -/
def exchanged (e : Exchange) (store : σ) (w : Workspace σ) : Workspace σ :=
  { w with store := store, transcript := w.transcript ++ [e] }

/-- The list of a number. A list that does not exist is empty. -/
def list (w : Workspace σ) (k : Nat) : EntityList :=
  (w.lists[k]?).getD (.loaded [])

/-- The list that a field holds, if it holds one. -/
def listOf (w : Workspace σ) (k : Option Nat) : EntityList :=
  (k.map w.list).getD (.loaded [])

end Workspace

namespace Work

variable {σ : Type}

def note (level : Level) (message : String) : Work σ Unit :=
  modify (Workspace.note level message)

def resolving {α : Type} (x : Resolving α) : Work σ α := fun w =>
  let (r, j) := x.run w.journal
  (r, { w with journal := j })

def share (i : Instance) : Work σ Handle := fun w =>
  (.ok w.heap.next, { w with heap := w.heap.push i })

/-- Puts a value into a field of a shared instance. -/
def setValue (h : Handle) (field : String) (v : Value) : Work σ Unit := fun w =>
  match (w.heap.get h).setValue field v with
  | .ok i => (.ok (), { w with heap := w.heap.set h i })
  | .error e => (.error e, w)

def newList (s : CollectionSearch) : Work σ Nat := fun w =>
  (.ok w.lists.length, { w with lists := w.lists ++ [.pending s] })

end Work

end EntityMapper
