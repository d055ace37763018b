import EntityMapper.Lazy.Shelf
import Mathlib.Data.List.Infix
import Mathlib.Data.List.Forall2
/-! Runs of calls on the lists of a shelf: when a loader runs, what it gives and who reads it. -/

namespace EntityMapper

variable {α : Type}

/-- What a list begins with: a loader, or its items. -/
inductive ListSource (α : Type) where
  | loader (l : PreparedLoader α)
  | items (xs : List α)

namespace ListSource

def slot : ListSource α → CountedCell α
  | loader l => .ofLoader l
  | items xs => .ofItems xs

end ListSource

namespace PreparedLoader

/-- The results that a loader gives in its first `n` runs. -/
def given : PreparedLoader α → Nat → List (Except Error (List α))
  | _, 0 => []
  | l, n + 1 => l.next.1 :: given l.next.2 n

/-- The loader that is left after `n` runs. -/
def rest : PreparedLoader α → Nat → PreparedLoader α
  | l, 0 => l
  | l, n + 1 => rest l.next.2 n

variable (l : PreparedLoader α) (n : Nat)

theorem given_succ : l.given (n + 1) = l.given n ++ [(l.rest n).next.1] := by
  induction n generalizing l with
  | zero => rfl
  | succ n ih =>
    rw [given, ih]
    rfl

theorem rest_succ : l.rest (n + 1) = (l.rest n).next.2 := by
  induction n generalizing l with
  | zero => rfl
  | succ n ih =>
    rw [rest, ih]
    rfl

end PreparedLoader

namespace CountedCell

/-- What forcing a cell can come to: it holds its items already, or its loader runs once. -/
inductive Forcing (c : CountedCell α) : Except Error (List α) → CountedCell α → Prop
  | kept (xs : List α) (hc : c.cell = .loaded xs) : Forcing c (.ok xs) c
  | filled (l : PreparedLoader α) (xs : List α) (hc : c.cell = .pending l)
      (hl : l.next.1 = .ok xs) : Forcing c (.ok xs) ⟨.loaded xs, c.calls + 1⟩
  | failed (l : PreparedLoader α) (e : Error) (hc : c.cell = .pending l)
      (hl : l.next.1 = .error e) : Forcing c (.error e) ⟨.pending l.next.2, c.calls + 1⟩

theorem force_pending (l : PreparedLoader α) (n : Nat) :
    force ⟨.pending l, n⟩ =
      (l.next.1, ⟨l.next.1.toOption.elim (.pending l.next.2) .loaded, n + 1⟩) := by
  cases l with
  | nil => rfl
  | cons r rest => cases r <;> rfl

theorem forcing (c : CountedCell α) : Forcing c c.force.1 c.force.2 := by
  obtain ⟨_ | _, n⟩ := c
  case pending l =>
    rw [force_pending]
    cases h : l.next.1 with
    | ok xs => exact .filled l xs rfl h
    | error e => exact .failed l e rfl h
  case loaded xs => exact .kept xs rfl

/-- How a cell can stand after any number of accesses. A cell with a loader has run it once for
each failure, and once more if it is loaded: with what that last run gave. -/
inductive Follows : ListSource α → CountedCell α → Prop
  | items (xs : List α) : Follows (.items xs) (.ofItems xs)
  | waiting (l : PreparedLoader α) (failures : List Error)
      (h : l.given failures.length = failures.map .error) :
      Follows (.loader l) ⟨.pending (l.rest failures.length), failures.length⟩
  | loaded (l : PreparedLoader α) (failures : List Error) (xs : List α)
      (h : l.given (failures.length + 1) = failures.map .error ++ [.ok xs]) :
      Follows (.loader l) ⟨.loaded xs, failures.length + 1⟩

theorem follows_slot (source : ListSource α) : Follows source source.slot := by
  cases source with
  | loader l => exact .waiting l [] rfl
  | items xs => exact .items xs

theorem Follows.forced {source : ListSource α} {c c' : CountedCell α}
    {r : Except Error (List α)} (h : Follows source c) (hf : Forcing c r c') :
    Follows source c' := by
  cases h with
  | items xs => cases hf with
    | kept => exact .items xs
    | filled l _ hc => cases hc
    | failed l _ hc => cases hc
  | loaded l failures xs h => cases hf with
    | kept => exact .loaded l failures xs h
    | filled l _ hc => cases hc
    | failed l _ hc => cases hc
  | waiting l failures h => cases hf with
    | kept _ hc => cases hc
    | filled _ xs hc hl =>
      cases hc
      refine .loaded l failures xs ?_
      rw [PreparedLoader.given_succ, h, hl]
    | failed _ e hc hl =>
      cases hc
      have hlength : failures.length + 1 = (failures ++ [e]).length := by simp
      rw [← PreparedLoader.rest_succ, hlength]
      refine .waiting l (failures ++ [e]) ?_
      rw [← hlength, PreparedLoader.given_succ, h, hl, List.map_append, List.map_singleton]

end CountedCell

/-- What an access answers, from what forcing its list gave. -/
def ListAnswer.ofResult (f : List α → ListAnswer α) : Except Error (List α) → ListAnswer α
  | .ok xs => f xs
  | .error e => .failed e

namespace LazyCall

/-- What a forcing access makes of the items; the other calls do not force. -/
def reading? [ListItem α] : LazyCall → Option (List α → ListAnswer α)
  | .items => some .items
  | .len => some fun xs => .count xs.length
  | .isEmpty => some fun xs => .flag xs.isEmpty
  | .get index => some fun xs => match xs[index]? with
      | some x => .number x
      | none => .absent
  | .sum => some fun xs => .number (xs.foldl ListItem.add ListItem.zero)
  | .isLoaded | .loadedItems | .describe | .sameAs _ | .clone => none

/-- What a call answers on a list that holds its items. -/
def shows? [ListItem α] (xs : List α) : LazyCall → Option (ListAnswer α)
  | .isLoaded => some (.flag true)
  | .loadedItems => some (.items xs)
  | .describe => some (.text ("LazyList([" ++ ", ".intercalate (xs.map ListItem.text) ++ "])"))
  | .sameAs _ | .clone => none
  | c => c.reading?.map (· xs)

end LazyCall

namespace Shelf

variable {s t : Shelf α}

/-- Every list has its cell on the shelf. -/
def Whole (s : Shelf α) : Prop :=
  ∀ i ∈ s.lists, i < s.slots.length

theorem whole_ofSlots (slots : List (CountedCell α)) : (ofSlots slots).Whole := by
  simp [Whole, ofSlots]

theorem Whole.slotOf_lt {list : Nat} (h : s.Whole) (hl : list < s.lists.length) :
    s.slotOf list < s.slots.length := by
  simpa [slotOf, hl] using h _ (List.getElem_mem hl)

theorem Whole.getElem?_slotOf {list : Nat} (h : s.Whole) (hl : list < s.lists.length) :
    s.slots[s.slotOf list]? = some (s.slot list) := by
  simp [slot, h.slotOf_lt hl]

/-- Nothing of one shelf is lost on another: lists keep their cells, and a cell that holds its
items stays as it is, with as many calls of its loader. -/
structure LeadsTo (s t : Shelf α) : Prop where
  lists : s.lists <+: t.lists
  loaded : ∀ (i : Nat) (c : CountedCell α) (xs : List α),
    s.slots[i]? = some c → c.cell = .loaded xs → t.slots[i]? = some c

theorem LeadsTo.refl (s : Shelf α) : s.LeadsTo s :=
  ⟨List.prefix_rfl, fun _ _ _ h _ => h⟩

theorem LeadsTo.trans {u : Shelf α} (h : s.LeadsTo t) (h' : t.LeadsTo u) : s.LeadsTo u :=
  ⟨h.lists.trans h'.lists, fun i c xs hc hx => h'.loaded i c xs (h.loaded i c xs hc hx) hx⟩

theorem LeadsTo.slotOf_eq {list : Nat} (h : s.LeadsTo t) (hl : list < s.lists.length) :
    t.slotOf list = s.slotOf list := by
  have hprefix := h.lists.getElem hl
  have hlt : list < t.lists.length := lt_of_lt_of_le hl h.lists.length_le
  simp [slotOf, hl, hlt, hprefix]

theorem forced_eq (s : Shelf α) (list : Nat) (f : List α → ListAnswer α) :
    s.forced list f = (.ofResult f (s.slot list).force.1,
      { s with slots := s.slots.set (s.slotOf list) (s.slot list).force.2 }) := by
  unfold forced
  cases (s.slot list).force with
  | mk r c => cases r <;> rfl

theorem forced_of_loaded {list : Nat} {xs : List α} (hp : s.slotOf list < s.slots.length)
    (h : (s.slot list).cell = .loaded xs) (f : List α → ListAnswer α) :
    s.forced list f = (f xs, s) := by
  have hforce : (s.slot list).force = (.ok xs, s.slot list) := by
    cases hc : s.slot list with
    | mk cell n =>
      obtain rfl : cell = .loaded xs := by rw [← h, hc]
      rfl
  have hset : s.slots.set (s.slotOf list) (s.slot list) = s.slots := by
    simp [slot, hp]
  rw [forced_eq, hforce, hset]
  rfl

variable [ListItem α] [BEq α]

theorem call_of_reading {c : LazyCall} {f : List α → ListAnswer α} (h : c.reading? = some f)
    (s : Shelf α) (list : Nat) : s.call list c = s.forced list f := by
  cases c <;> cases h <;> rfl

theorem slots_of_quiet {c : LazyCall} (h : (c.reading? : Option (List α → ListAnswer α)) = none)
    (s : Shelf α) (list : Nat) : (s.call list c).2.slots = s.slots := by
  cases c <;> cases h <;> try rfl
  case loadedItems =>
    unfold call
    cases (s.slot list).cell.items? <;> rfl

theorem lists_of_ne_clone {c : LazyCall} (h : c ≠ .clone) (s : Shelf α) (list : Nat) :
    (s.call list c).2.lists = s.lists := by
  cases c <;> try rfl
  case loadedItems =>
    unfold call
    cases (s.slot list).cell.items? <;> rfl
  case clone => exact absurd rfl h
  all_goals rw [call_of_reading rfl, forced_eq]

section Loaded

variable {list : Nat} {xs : List α} (hp : s.slotOf list < s.slots.length)
  (h : (s.slot list).cell = .loaded xs)
include hp h

theorem slots_of_loaded (c : LazyCall) : (s.call list c).2.slots = s.slots := by
  cases hc : (c.reading? : Option (List α → ListAnswer α)) with
  | none => exact slots_of_quiet hc s list
  | some f => rw [call_of_reading hc, forced_of_loaded hp h]

theorem answer_of_shows {c : LazyCall} {a : ListAnswer α} (hc : c.shows? xs = some a) :
    (s.call list c).1 = a := by
  cases c <;> cases hc
  case isLoaded => simp [call, h, LazyCell.isLoaded]
  case loadedItems => simp [call, h, LazyCell.items?]
  case describe => simp [call, describe, h, LazyCell.items?]
  all_goals rw [call_of_reading rfl, forced_of_loaded hp h]

omit hp in
theorem answer_sameAs (other : Nat) : (s.call list (.sameAs other)).1 = .flag
    (s.slotOf list == s.slotOf other || (s.slot other).cell.items?.any (xs == ·)) := by
  simp only [call, same, h, LazyCell.items?]
  cases (s.slot other).cell <;> rfl

end Loaded

end Shelf

/-- A call on one of the lists of a shelf. -/
structure ShelfStep (α : Type) where
  before : Shelf α
  list : Nat
  call : LazyCall

namespace ShelfStep

variable (p : ShelfStep α)

/-- The cell that the list of the call shares with its clones. -/
def place : Nat :=
  p.before.slotOf p.list

variable [ListItem α] [BEq α]

def answer : ListAnswer α :=
  (p.before.call p.list p.call).1

def after : Shelf α :=
  (p.before.call p.list p.call).2

/-- What a call does. One that forces touches the cell of its list and no other, and runs its loader
once if it does not hold its items yet; all others leave the cells alone. -/
structure Sound (p : ShelfStep α) : Prop where
  quiet : (p.call.reading? : Option (List α → ListAnswer α)) = none →
    p.after.slots = p.before.slots
  forces : ∀ f : List α → ListAnswer α, p.call.reading? = some f →
    ∃ r c, CountedCell.Forcing (p.before.slot p.list) r c ∧ p.answer = .ofResult f r ∧
      p.after.slots = p.before.slots.set p.place c
  clone : p.call = .clone → p.answer = .count p.before.lists.length ∧
    p.after.lists = p.before.lists ++ [p.place]
  lists : p.call ≠ .clone → p.after.lists = p.before.lists

theorem sound : p.Sound where
  quiet h := Shelf.slots_of_quiet h p.before p.list
  forces f h := by
    refine ⟨_, _, (p.before.slot p.list).forcing, ?_, ?_⟩
    · rw [answer, Shelf.call_of_reading h, Shelf.forced_eq]
    · rw [after, Shelf.call_of_reading h, Shelf.forced_eq, place]
  clone h := by
    obtain ⟨s, list, c⟩ := p
    cases h
    exact ⟨rfl, rfl⟩
  lists h := Shelf.lists_of_ne_clone h p.before p.list

/-- What a later call owes to an earlier one: it finds all that was loaded, and once the list of
the earlier call is loaded, a list that shares its cell answers from the same items and runs no
loader. -/
structure Heeds (p q : ShelfStep α) : Prop where
  leads : p.after.LeadsTo q.before
  reads : ∀ xs, (p.after.slot p.list).cell = .loaded xs → q.place = p.place →
    q.after.slots = q.before.slots ∧
    (∀ a, q.call.shows? xs = some a → q.answer = a) ∧
    ∀ other, q.call = .sameAs other → q.answer = .flag
      (q.place == q.before.slotOf other || (q.before.slot other).cell.items?.any (xs == ·))

end ShelfStep

open EntityMapper.Shelf

variable [ListItem α] [BEq α]

/-- The calls on a shelf, one after the other. -/
inductive ShelfRun (s : Shelf α) : List (ShelfStep α) → Shelf α → Prop
  | start : ShelfRun s [] s
  | call {steps : List (ShelfStep α)} {t : Shelf α} (run : ShelfRun s steps t) (list : Nat)
      (hl : list < t.lists.length) (c : LazyCall) :
      ShelfRun s (steps ++ [⟨t, list, c⟩]) (t.call list c).2

variable {s t : Shelf α} {steps : List (ShelfStep α)}

theorem Shelf.Whole.call (h : t.Whole) {list : Nat} (hl : list < t.lists.length) (c : LazyCall) :
    (t.call list c).2.Whole := by
  have p := (⟨t, list, c⟩ : ShelfStep α).sound
  have hlength : (t.call list c).2.slots.length = t.slots.length := by
    cases hc : (c.reading? : Option (List α → ListAnswer α)) with
    | none => rw [slots_of_quiet hc]
    | some f => rw [call_of_reading hc, forced_eq, List.length_set]
  by_cases hc : c = .clone
  · intro i hi
    obtain ⟨-, hlists⟩ := p.clone hc
    rw [hlength]
    rw [show (t.call list c).2.lists = _ from hlists, List.mem_append, List.mem_singleton] at hi
    rcases hi with hi | rfl
    · exact h i hi
    · exact h.slotOf_lt hl
  · intro i hi
    rw [hlength]
    exact h i (lists_of_ne_clone hc t list ▸ hi)

/-- A call loses nothing of what was loaded. -/
theorem Shelf.leadsTo_call (h : t.Whole) {list : Nat} (hl : list < t.lists.length)
    (c : LazyCall) : t.LeadsTo (t.call list c).2 where
  lists := by
    by_cases hc : c = .clone
    · subst hc
      exact List.prefix_append _ _
    · rw [lists_of_ne_clone hc]
  loaded i d xs hd hx := by
    by_cases hi : i = t.slotOf list
    · subst hi
      obtain rfl : t.slot list = d := by simpa [h.getElem?_slotOf hl] using hd
      rw [slots_of_loaded (h.slotOf_lt hl) hx, hd]
    · cases hc : (c.reading? : Option (List α → ListAnswer α)) with
      | none => rw [slots_of_quiet hc, hd]
      | some f => rw [call_of_reading hc, forced_eq, List.getElem?_set_ne (Ne.symm hi), hd]

/-- Every cell stays what its source and its calls make of it. -/
theorem follows_call {sources : List (ListSource α)}
    (hf : List.Forall₂ CountedCell.Follows sources t.slots) (h : t.Whole) {list : Nat}
    (hl : list < t.lists.length) (c : LazyCall) :
    List.Forall₂ CountedCell.Follows sources (t.call list c).2.slots := by
  cases hc : (c.reading? : Option (List α → ListAnswer α)) with
  | none => rwa [slots_of_quiet hc]
  | some f =>
    rw [call_of_reading hc, forced_eq]
    refine List.forall₂_iff_get.mpr ⟨by simpa using hf.length_eq, fun i hi hi' => ?_⟩
    have hlt : i < t.slots.length := by simpa using hi'
    have hold := hf.get hi hlt
    by_cases hp : i = t.slotOf list
    · subst hp
      simp only [List.get_eq_getElem, List.getElem_set_self] at hold ⊢
      have hslot : t.slots[t.slotOf list] = t.slot list := by
        simpa [hlt] using h.getElem?_slotOf hl
      exact (hslot ▸ hold).forced (t.slot list).forcing
    · simpa [List.getElem_set_ne (Ne.symm hp)] using hold

namespace ShelfRun

theorem whole (run : ShelfRun s steps t) (h : s.Whole) : t.Whole := by
  induction run with
  | start => exact h
  | call _ list hl c ih => exact ih.call hl c

theorem follows {sources : List (ListSource α)} (run : ShelfRun s steps t) (h : s.Whole)
    (hf : List.Forall₂ CountedCell.Follows sources s.slots) :
    List.Forall₂ CountedCell.Follows sources t.slots := by
  induction run with
  | start => exact hf
  | call run list hl c ih => exact follows_call ih (run.whole h) hl c

theorem leadsTo_of_mem (run : ShelfRun s steps t) (h : s.Whole) :
    ∀ p ∈ steps, p.after.LeadsTo t := by
  induction run with
  | start => simp
  | call run list hl c ih =>
    intro p hp
    rcases List.mem_append.mp hp with hp | hp
    · exact (ih p hp).trans (leadsTo_call (run.whole h) hl c)
    · obtain rfl := List.mem_singleton.mp hp
      exact .refl _

/-- Each call of a run is made on a list of the shelf that the calls before it have left. -/
theorem before_of_mem (run : ShelfRun s steps t) :
    ∀ p ∈ steps, p.list < p.before.lists.length ∧
      ∃ earlier, ShelfRun s earlier p.before := by
  induction run with
  | start => simp
  | call run list hl c ih =>
    intro p hp
    rcases List.mem_append.mp hp with hp | hp
    · exact ih p hp
    · obtain rfl := List.mem_singleton.mp hp
      exact ⟨hl, _, run⟩

/-- A call that comes after `p`, on the shelf that `p` led to. -/
theorem heeds_of_leadsTo {p q : ShelfStep α} (hp : p.before.Whole)
    (hpl : p.list < p.before.lists.length) (hq : q.before.Whole)
    (hql : q.list < q.before.lists.length) (h : p.after.LeadsTo q.before) : p.Heeds q where
  leads := h
  reads xs hx hplace := by
    have hafter : p.after.Whole := hp.call hpl p.call
    have hkept : p.before.LeadsTo p.after := leadsTo_call hp hpl p.call
    have hpl' : p.list < p.after.lists.length := lt_of_lt_of_le hpl hkept.lists.length_le
    have hfound : q.before.slots[q.place]? = some (p.after.slot p.list) := by
      have hi : q.place = p.after.slotOf p.list := by
        rw [hkept.slotOf_eq hpl]
        exact hplace
      rw [hi]
      exact h.loaded _ _ xs (hafter.getElem?_slotOf hpl') hx
    have hcell : (q.before.slot q.list).cell = .loaded xs := by
      have hslot := hq.getElem?_slotOf hql
      rw [show q.before.slotOf q.list = q.place from rfl, hfound, Option.some.injEq] at hslot
      rw [← hslot, hx]
    have hlt := hq.slotOf_lt hql
    refine ⟨slots_of_loaded hlt hcell q.call, fun a ha => answer_of_shows hlt hcell ha,
      fun other hc => ?_⟩
    rw [ShelfStep.answer, hc]
    exact answer_sameAs hcell other

theorem pairwise_heeds (run : ShelfRun s steps t) (h : s.Whole) :
    steps.Pairwise ShelfStep.Heeds := by
  induction run with
  | start => exact .nil
  | call run list hl c ih =>
    refine List.pairwise_append.mpr ⟨ih, List.pairwise_singleton _ _, fun p hp q hq => ?_⟩
    obtain rfl := List.mem_singleton.mp hq
    obtain ⟨hpl, _, before⟩ := run.before_of_mem p hp
    exact heeds_of_leadsTo (before.whole h) hpl (run.whole h) hl (run.leadsTo_of_mem h p hp)

end ShelfRun

/-- A list is loaded at most once, for all its clones together. Whatever is done with the lists of
a shelf, each loader has run once for every failure and once more if that run filled its cell; it
runs for accesses that force a cell without items and for no other call; and what it gave once is
what every list that shares the cell answers from. -/
theorem loads_at_most_once (sources : List (ListSource α))
    (run : ShelfRun (.ofSlots (sources.map ListSource.slot)) steps t) :
    List.Forall₂ CountedCell.Follows sources t.slots ∧
    (∀ p ∈ steps, p.after.LeadsTo t) ∧
    steps.Pairwise ShelfStep.Heeds ∧
    ∀ p ∈ steps, List.Forall₂ CountedCell.Follows sources p.before.slots ∧
      p.before.slots[p.place]? = some (p.before.slot p.list) ∧ p.Sound := by
  have hwhole := whole_ofSlots (sources.map ListSource.slot)
  have hfollows : List.Forall₂ CountedCell.Follows sources (sources.map ListSource.slot) :=
    List.forall₂_map_right_iff.mpr (List.forall₂_same.mpr fun _ _ => CountedCell.follows_slot _)
  refine ⟨run.follows hwhole hfollows, run.leadsTo_of_mem hwhole, run.pairwise_heeds hwhole,
    fun p hp => ?_⟩
  obtain ⟨hl, _, before⟩ := run.before_of_mem p hp
  exact ⟨before.follows hwhole hfollows, (before.whole hwhole).getElem?_slotOf hl, p.sound⟩

namespace ListSource

/-- A list whose first load fails, and one that was given its items. -/
def failing : List (ListSource Int) :=
  [.loader [.error (.store .connection "offline"), .ok [1, 2]], .items [5]]

end ListSource

/-- The failing list is cloned, read in vain, and then read through the clone. -/
theorem loads_at_most_once_after_failure :
    ∃ (steps : List (ShelfStep Int)) (t : Shelf Int),
      t.slots.map (fun c => (c.calls, c.cell.items?)) = [(2, some [1, 2]), (0, some [5])] ∧
      steps.map (·.answer) =
        [.count 2, .failed (.store .connection "offline"), .flag false, .number 3, .count 2] ∧
      List.Forall₂ CountedCell.Follows ListSource.failing t.slots ∧
      steps.Pairwise ShelfStep.Heeds := by
  have cloned := (ShelfRun.start (s := .ofSlots (ListSource.failing.map ListSource.slot))).call 0
    (by decide) .clone
  have failed := (cloned.call 2 (by decide) .len).call 0 (by decide) .isLoaded
  have loaded := (failed.call 2 (by decide) .sum).call 0 (by decide) .len
  have h := loads_at_most_once _ loaded
  exact ⟨_, _, rfl, rfl, h.1, h.2.2.1⟩

end EntityMapper
