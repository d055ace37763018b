import EntityMapper.Error
import Mathlib.Data.List.Forall2
/-! Computations that change a state and may fail: what one run does, and what every run keeps. -/

namespace EntityMapper

variable {s α β : Type}

section Results

variable {ε ε' : Type} (f : ε → ε')

@[simp] theorem mapError_ok (v : α) : (Except.ok v : Except ε α).mapError f = .ok v := rfl

@[simp] theorem mapError_error (e : ε) :
    (Except.error e : Except ε α).mapError f = .error (f e) := rfl

theorem ok_of_mapError {x : Except ε α} {v : α} (h : x.mapError f = .ok v) : x = .ok v := by
  cases x with
  | error e => cases h
  | ok u => exact congrArg Except.ok (Except.ok.inj h)

theorem eq_ok_of_toOption {x : Except ε α} {v : α} (h : x.toOption = some v) : x = .ok v := by
  cases x with
  | error e => cases h
  | ok u =>
    cases h
    rfl

theorem eq_of_toOption {β : Type} {x : Except ε α × β} {v : α} (h : x.1.toOption = some v) :
    x = (.ok v, x.2) :=
  Prod.ext (eq_ok_of_toOption h) rfl

/-- Both parts of what gives a value give one. -/
theorem exists_of_ok_bind {x : Except ε α} {f : α → Except ε β} {v : β} (h : x >>= f = .ok v) :
    ∃ u, x = .ok u ∧ f u = .ok v := by
  cases x with
  | error e => cases h
  | ok u => exact ⟨u, rfl, h⟩

end Results

section Apply

variable (a : s)

@[simp] theorem pure_apply (v : α) : (pure v : ExceptT Error (StateM s) α) a = (.ok v, a) := rfl

@[simp] theorem throw_apply (e : Error) :
    (throw e : ExceptT Error (StateM s) α) a = (.error e, a) := rfl

@[simp] theorem get_apply : (get : ExceptT Error (StateM s) s) a = (.ok a, a) := rfl

@[simp] theorem modify_apply (f : s → s) :
    (modify f : ExceptT Error (StateM s) PUnit) a = (.ok ⟨⟩, f a) := rfl

/-- A failed first part ends the whole. -/
@[simp] theorem bind_apply (x : ExceptT Error (StateM s) α) (f : α → ExceptT Error (StateM s) β) :
    (x >>= f) a = match x a with
      | (.ok v, b) => f v b
      | (.error e, b) => (.error e, b) := by
  change (match x a with | (r, b) => ExceptT.bindCont f r b) = _
  rcases x a with ⟨_ | v, b⟩ <;> rfl

/-- Both parts of what gives a value give one. -/
theorem exists_of_bind {x : ExceptT Error (StateM s) α} {f : α → ExceptT Error (StateM s) β}
    {a c : s} {v : β} (h : (x >>= f) a = (.ok v, c)) :
    ∃ u b, x a = (.ok u, b) ∧ f u b = (.ok v, c) := by
  rw [bind_apply] at h
  rcases hx : x a with ⟨e | u, b⟩ <;> rw [hx] at h
  · cases h
  · exact ⟨u, b, rfl, h⟩

@[simp] theorem map_apply (f : α → β) (x : ExceptT Error (StateM s) α) :
    (f <$> x) a = ((x a).1.map f, (x a).2) := by
  rw [map_eq_pure_bind, bind_apply]
  rcases x a with ⟨_ | v, b⟩ <;> rfl

@[simp] theorem liftM_state_apply (x : StateM s α) :
    (liftM x : ExceptT Error (StateM s) α) a = (.ok (x a).1, (x a).2) := rfl

@[simp] theorem liftM_except_apply (x : Except Error α) :
    (liftM x : ExceptT Error (StateM s) α) a = (x, a) := by
  cases x <;> rfl

@[simp] theorem adapt_apply (f : Error → Error) (x : ExceptT Error (StateM s) α) :
    (x.adapt f) a = ((x a).1.mapError f, (x a).2) := rfl

@[simp] theorem run_apply (x : ExceptT Error (StateM s) α) : x.run a = x a := rfl

@[simp] theorem state_pure_apply (v : α) : (pure v : StateM s α) a = (v, a) := rfl

@[simp] theorem state_bind_apply (x : StateM s α) (f : α → StateM s β) :
    (x >>= f) a = f (x a).1 (x a).2 := rfl

@[simp] theorem state_map_apply (f : α → β) (x : StateM s α) :
    (f <$> x) a = (f (x a).1, (x a).2) := rfl

@[simp] theorem state_modify_apply (f : s → s) :
    (modify f : StateM s PUnit) a = (⟨⟩, f a) := rfl

end Apply

/-- Of two lists in a relation each element of the first one has one of the second one. -/
theorem exists_of_forall₂ {R : α → β → Prop} {l : List α} {m : List β} (h : List.Forall₂ R l m) :
    ∀ a ∈ l, ∃ b ∈ m, R a b := by
  induction h with
  | nil => simp
  | cons hab _ ih =>
    refine List.forall_mem_cons.mpr ⟨⟨_, List.mem_cons_self, hab⟩, fun c hc => ?_⟩
    obtain ⟨x, hx, hcx⟩ := ih c hc
    exact ⟨x, List.mem_cons_of_mem _ hx, hcx⟩

/-- Two passes over a list are alike if their steps are alike on its elements. -/
theorem mapM_congr {n : Type → Type} [Monad n] [LawfulMonad n] {f g : α → n β} {l : List α}
    (h : ∀ a ∈ l, f a = g a) : l.mapM f = l.mapM g := by
  induction l with
  | nil => rfl
  | cons a l ih =>
    obtain ⟨ha, hl⟩ := List.forall_mem_cons.mp h
    rw [List.mapM_cons, List.mapM_cons, ha, ih hl]

section Passes

variable {ε : Type} {f : α → Except ε β} {l : List α} {m : List β}

/-- A pass over a list gives a result for each element, in order. -/
theorem mapM_eq_ok_iff : l.mapM f = .ok m ↔ List.Forall₂ (fun a b => f a = .ok b) l m := by
  induction l generalizing m with
  | nil =>
    rw [List.forall₂_nil_left_iff]
    exact ⟨fun h => (Except.ok.inj h).symm, fun h => h ▸ rfl⟩
  | cons a l ih =>
    rw [List.mapM_cons, List.forall₂_cons_left_iff]
    cases ha : f a with
    | error e => simp [bind, Except.bind]
    | ok b =>
      cases hl : l.mapM f with
      | error e => simp [← ih, hl, bind, Except.bind]
      | ok bs => simp [← ih, hl, bind, Except.bind, pure, Except.pure, eq_comm]

/-- Whatever a pass over a list gives comes from an element of the list. -/
theorem mem_of_mapM (h : l.mapM f = .ok m) : ∀ b ∈ m, ∃ a ∈ l, f a = .ok b :=
  exists_of_forall₂ (mapM_eq_ok_iff.mp h).flip

/-- Every element of the list gives something to the result of a pass. -/
theorem exists_of_mapM (h : l.mapM f = .ok m) : ∀ a ∈ l, ∃ b ∈ m, f a = .ok b :=
  exists_of_forall₂ (mapM_eq_ok_iff.mp h)

/-- The result for an element stands at its place. -/
theorem getElem?_of_mapM (h : l.mapM f = .ok m) {k : Nat} {a : α} (hk : l[k]? = some a) :
    ∃ b, m[k]? = some b ∧ f a = .ok b := by
  have hall := mapM_eq_ok_iff.mp h
  clear h
  induction hall generalizing k with
  | nil => cases hk
  | cons hab _ ih =>
    cases k with
    | zero =>
      cases hk
      exact ⟨_, rfl, hab⟩
    | succ k => exact ih hk

/-- A pass succeeds exactly if each of its steps does. -/
theorem mapM_isOk_iff : (∃ m, l.mapM f = .ok m) ↔ ∀ a ∈ l, ∃ b, f a = .ok b := by
  constructor
  · rintro ⟨m, h⟩ a ha
    obtain ⟨b, -, hb⟩ := exists_of_mapM h a ha
    exact ⟨b, hb⟩
  · intro h
    induction l with
    | nil => exact ⟨[], rfl⟩
    | cons a l ih =>
      obtain ⟨⟨b, hb⟩, hl⟩ := List.forall_mem_cons.mp h
      obtain ⟨bs, hbs⟩ := ih hl
      exact ⟨b :: bs, mapM_eq_ok_iff.mpr (.cons hb (mapM_eq_ok_iff.mp hbs))⟩

/-- A pass fails as one of its steps does. -/
theorem exists_of_mapM_error {e : ε} (h : l.mapM f = .error e) : ∃ a ∈ l, f a = .error e := by
  induction l with
  | nil => cases h
  | cons a l ih =>
    rw [List.mapM_cons] at h
    cases ha : f a with
    | error e' =>
      rw [ha] at h
      cases h
      exact ⟨a, List.mem_cons_self, ha⟩
    | ok b =>
      cases hl : l.mapM f with
      | error e' =>
        rw [ha, hl] at h
        cases h
        obtain ⟨c, hc, hfc⟩ := ih hl
        exact ⟨c, List.mem_cons_of_mem a hc, hfc⟩
      | ok bs =>
        rw [ha, hl] at h
        cases h

end Passes

section SameErrors

variable {ε α β γ δ : Type}

/-- Two results with one error, or with related values. -/
inductive SameErrors (R : α → β → Prop) : Except ε α → Except ε β → Prop where
  | error (e : ε) : SameErrors R (.error e) (.error e)
  | ok {a : α} {b : β} (h : R a b) : SameErrors R (.ok a) (.ok b)

namespace SameErrors

theorem of_eq {R : α → α → Prop} (hR : ∀ a, R a a) {x y : Except ε α} (h : x = y) :
    SameErrors R x y := by
  rw [← h]
  cases x with
  | error e => exact .error e
  | ok a => exact .ok (hR a)

theorem eq {x y : Except ε α} (h : SameErrors (· = ·) x y) : x = y := by
  cases h with
  | error e => rfl
  | ok h => rw [h]

variable {R : α → β → Prop} {S : γ → δ → Prop} {x : Except ε α} {y : Except ε β}

theorem bind {f : α → Except ε γ} {g : β → Except ε δ} (h : SameErrors R x y)
    (hf : ∀ a b, R a b → SameErrors S (f a) (g b)) : SameErrors S (x >>= f) (y >>= g) := by
  cases h with
  | error e => exact .error e
  | ok h => exact hf _ _ h

theorem map {f : α → γ} {g : β → δ} (h : SameErrors R x y) (hf : ∀ a b, R a b → S (f a) (g b)) :
    SameErrors S (x.map f) (y.map g) := by
  cases h with
  | error e => exact .error e
  | ok h => exact .ok (hf _ _ h)

/-- What both results give as a value may be known of the values. -/
theorem strengthen {R' : α → β → Prop} (h : SameErrors R x y)
    (hr : ∀ a b, x = .ok a → y = .ok b → R a b → R' a b) : SameErrors R' x y := by
  cases h with
  | error e => exact .error e
  | ok h => exact .ok (hr _ _ rfl rfl h)

/-- Two passes over lists that correspond: the first step that fails is the same one. -/
theorem mapM {C : γ → δ → Prop} {f : γ → Except ε α} {g : δ → Except ε β} {l : List γ}
    {m : List δ} (h : List.Forall₂ C l m) (hfg : ∀ c d, C c d → SameErrors R (f c) (g d)) :
    SameErrors (List.Forall₂ R) (l.mapM f) (m.mapM g) := by
  induction h with
  | nil => exact .ok .nil
  | cons hcd _ ih =>
    rw [List.mapM_cons, List.mapM_cons]
    exact (hfg _ _ hcd).bind fun _ _ ha => ih.bind fun _ _ has => .ok (.cons ha has)

end SameErrors

end SameErrors

/-- From every state with `P` a computation either gives a value that has `Q` with the state
after, or fails in a state with `E`. -/
def Meets (P : s → Prop) (x : ExceptT Error (StateM s) α) (Q : α → s → Prop) (E : s → Prop) :
    Prop :=
  ∀ a, P a → match x a with
    | (.ok v, b) => Q v b
    | (.error _, b) => E b

namespace Meets

variable {P P' : s → Prop} {Q Q' : α → s → Prop} {R : β → s → Prop} {E E' : s → Prop}
  {x : ExceptT Error (StateM s) α} {f : α → ExceptT Error (StateM s) β}

theorem ok {a b : s} {v : α} (h : Meets P x Q E) (ha : P a) (hx : x a = (.ok v, b)) : Q v b := by
  have hq := h a ha
  rw [hx] at hq
  exact hq

theorem final {a : s} (h : Meets P x (fun _ => E) E) (ha : P a) : E (x a).2 := by
  have hq := h a ha
  rcases hr : x a with ⟨e | v, b⟩ <;> rw [hr] at hq <;> exact hq

/-- Every computation meets what says nothing. -/
theorem trivially : Meets P x (fun _ _ => True) (fun _ => True) := by
  intro a _
  rcases x a with ⟨e | v, b⟩ <;> trivial

/-- Asks for more and promises less. -/
theorem weaken (h : Meets P x Q E) (hp : ∀ a, P' a → P a) (hq : ∀ v b, Q v b → Q' v b)
    (he : ∀ b, E b → E' b) : Meets P' x Q' E' := by
  intro a ha
  have hx := h a (hp a ha)
  rcases hr : x a with ⟨e | v, b⟩ <;> rw [hr] at hx
  · exact he b hx
  · exact hq v b hx

/-- What is known apart from the state may be used. -/
theorem assuming {C : Prop} (h : C → Meets P x Q E) : Meets (fun a => C ∧ P a) x Q E :=
  fun a ⟨hc, ha⟩ => h hc a ha

theorem pure {v : α} (h : ∀ a, P a → Q v a) : Meets P (Pure.pure v) Q E :=
  fun a ha => h a ha

theorem throw {e : Error} (h : ∀ a, P a → E a) : Meets P (MonadExcept.throw e) Q E :=
  fun a ha => h a ha

theorem get {Q : s → s → Prop} (h : ∀ a, P a → Q a a) : Meets P MonadState.get Q E :=
  fun a ha => h a ha

theorem modify {g : s → s} {Q : PUnit → s → Prop} (h : ∀ a, P a → Q ⟨⟩ (g a)) :
    Meets P (modify g) Q E :=
  fun a ha => h a ha

/-- What the first part promises the second part may ask for. -/
theorem bind (hx : Meets P x Q E) (hf : ∀ v, Meets (Q v) (f v) R E) : Meets P (x >>= f) R E := by
  intro a ha
  have hq := hx a ha
  rw [bind_apply]
  rcases hr : x a with ⟨e | v, b⟩ <;> rw [hr] at hq
  · exact hq
  · exact hf v b hq

theorem lift {y : Except Error α} (hq : ∀ v, y = .ok v → ∀ a, P a → Q v a)
    (he : ∀ a, P a → E a) : Meets P (liftM y) Q E := by
  intro a ha
  rw [liftM_except_apply]
  cases y with
  | error e => exact he a ha
  | ok v => exact hq v rfl a ha

theorem map {g : α → β} (hx : Meets P x (fun v => R (g v)) E) : Meets P (g <$> x) R E := by
  rw [map_eq_pure_bind]
  exact hx.bind fun v => pure fun _ h => h

theorem adapt {g : Error → Error} (hx : Meets P x Q E) : Meets P (x.adapt g) Q E := by
  intro a ha
  have hq := hx a ha
  rw [adapt_apply]
  rcases hr : x a with ⟨e | v, b⟩ <;> rw [hr] at hq <;> exact hq

/-- What each step of a pass over a list gives for its element is given by the whole pass. -/
theorem mapM {C : α → β → Prop} {step : α → ExceptT Error (StateM s) β}
    {l : List α} (h : ∀ v ∈ l, Meets P (step v) (fun u b => C v u ∧ P b) E) :
    Meets P (l.mapM step) (fun us b => List.Forall₂ C l us ∧ P b) E := by
  induction l with
  | nil => exact pure fun a ha => ⟨.nil, ha⟩
  | cons v l ih =>
    rw [List.mapM_cons]
    exact (h v List.mem_cons_self).bind fun u => assuming fun hu =>
      (ih fun w hw => h w (List.mem_cons_of_mem v hw)).bind fun us =>
        pure fun a ⟨hus, ha⟩ => ⟨.cons hu hus, ha⟩

end Meets

end EntityMapper
