/-! Lists that are loaded when they are first read. -/

namespace EntityMapper

/-- The state of a lazy list: still waiting for its loader, or holding its items for good. -/
inductive LazyCell (ℓ α : Type) where
  | pending (loader : ℓ)
  | loaded (items : List α)

namespace LazyCell

variable {ℓ α ε : Type}

def isLoaded : LazyCell ℓ α → Bool
  | pending _ => false
  | loaded _ => true

def items? : LazyCell ℓ α → Option (List α)
  | pending _ => none
  | loaded items => some items

/-- The items, loaded if they are not there yet. `run` runs a loader and gives the loader that is
left; a failed load leaves the list as it was, with that loader. -/
def force {m : Type → Type} [Monad m] (run : ℓ → m (Except ε (List α) × ℓ)) :
    LazyCell ℓ α → m (Except ε (List α) × LazyCell ℓ α)
  | loaded items => pure (.ok items, loaded items)
  | pending loader => do
    let (result, rest) ← run loader
    match result with
    | .ok items => return (.ok items, loaded items)
    | .error e => return (.error e, pending rest)

@[simp] theorem isLoaded_iff (c : LazyCell ℓ α) :
    c.isLoaded = true ↔ ∃ items, c = loaded items := by
  cases c <;> simp [isLoaded]

end LazyCell

end EntityMapper
