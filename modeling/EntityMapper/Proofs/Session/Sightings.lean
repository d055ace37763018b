import EntityMapper.Proofs.Session.Moves
/-! Sightings of a key: the events in which its instance was seen since it was last removed. -/

namespace EntityMapper

namespace SessionEvent

def key : SessionEvent → EntityKey
  | returned k _ => k
  | produced k _ => k
  | evicted k => k

def handle? : SessionEvent → Option Handle
  | returned _ h => some h
  | produced _ h => some h
  | evicted _ => none

def isProduction : SessionEvent → Bool
  | returned _ _ => false
  | produced _ _ => true
  | evicted _ => false

def isEviction : SessionEvent → Bool
  | returned _ _ => false
  | produced _ _ => false
  | evicted _ => true

/-- The sightings of a key after one more event. -/
def sight (K : EntityKey) (seen : List SessionEvent) (e : SessionEvent) : List SessionEvent :=
  if e.key == K then if e.isEviction then [] else seen ++ [e] else seen

/-- The sightings of a key: its events since it was last removed. -/
def sightings (K : EntityKey) (evs : List SessionEvent) : List SessionEvent :=
  evs.foldl (sight K) []

/-- No row got the key after it was first seen. -/
def Unrepeated (seen : List SessionEvent) : Prop :=
  ∀ e ∈ seen.tail, e.isProduction = false

instance (seen : List SessionEvent) : Decidable (Unrepeated seen) :=
  inferInstanceAs (Decidable (∀ e ∈ seen.tail, e.isProduction = false))

/-- Unless the key was given to another row, all sightings are of one instance. -/
def Uniform (seen : List SessionEvent) : Prop :=
  Unrepeated seen → ∀ e ∈ seen, ∀ f ∈ seen, e.handle? = f.handle?

variable {K : EntityKey} {seen : List SessionEvent} {e : SessionEvent}

theorem sight_of_not_beq (h : (e.key == K) = false) : sight K seen e = seen := by
  simp [sight, h]

theorem sight_of_beq (h : (e.key == K) = true) (he : e.isEviction = false) :
    sight K seen e = seen ++ [e] := by
  simp [sight, h, he]

theorem sightings_append (evs evs' : List SessionEvent) :
    sightings K (evs ++ evs') = evs'.foldl (sight K) (sightings K evs) := by
  simp [sightings, List.foldl_append]

/-- Rows that are added are all seen. -/
theorem foldl_sight_productions (es : List Entry) :
    (es.map Entry.production).foldl (sight K) seen =
      seen ++ (es.filter (·.key == K)).map Entry.production := by
  induction es generalizing seen with
  | nil => simp
  | cons e es ih =>
    rw [List.map_cons, List.foldl_cons, ih]
    cases hk : e.key == K with
    | true =>
      rw [sight_of_beq hk rfl]
      simp [hk]
    | false =>
      rw [sight_of_not_beq hk]
      simp [hk]

theorem foldl_sight_evictions (ks : List EntityKey) :
    (ks.map SessionEvent.evicted).foldl (sight K) seen =
      if ks.any (· == K) then [] else seen := by
  induction ks generalizing seen with
  | nil => rfl
  | cons k ks ih =>
    rw [List.map_cons, List.foldl_cons, ih]
    cases hk : k == K with
    | true =>
      simp [sight, key, isEviction, hk]
    | false =>
      rw [sight_of_not_beq hk]
      simp [hk]

theorem Unrepeated.of_append (h : Unrepeated (seen ++ [e])) : Unrepeated seen := by
  cases seen with
  | nil => simp [Unrepeated]
  | cons a rest => exact fun f hf => h f (List.mem_append_left [e] hf)

/-- A row that was added is the first sighting. -/
theorem Unrepeated.eq_nil {rest : List SessionEvent} (h : Unrepeated (seen ++ e :: rest))
    (he : e.isProduction = true) : seen = [] := by
  cases seen with
  | nil => rfl
  | cons a tail =>
    have hfirst := h e (List.mem_append_right tail List.mem_cons_self)
    rw [he] at hfirst
    cases hfirst

theorem Uniform.of_forall {h : Handle} (hs : ∀ e ∈ seen, e.handle? = some h) : Uniform seen :=
  fun _ e he f hf => (hs e he).trans (hs f hf).symm

/-- What is written leaves sightings uniform. -/
theorem Uniform.sight (hs : Uniform seen) (he : e.isProduction = true ∨ e.isEviction = true) :
    Uniform (sight K seen e) := by
  unfold SessionEvent.sight
  split
  · split
    · simp [Uniform]
    · rename_i hev
      rcases he with hprod | hev'
      · intro hu f hf f' hf'
        obtain rfl := hu.eq_nil hprod
        rw [List.mem_singleton.mp hf, List.mem_singleton.mp hf']
      · exact absurd hev' hev
  · exact hs

/-- At each moment of a history the sightings are uniform. -/
def Consistent (K : EntityKey) (evs : List SessionEvent) : Prop :=
  ∀ pre post, evs = pre ++ post → Uniform (sightings K pre)

namespace Consistent

variable {evs es : List SessionEvent}

theorem nil : Consistent K [] := by
  intro pre post h
  rw [(List.append_eq_nil_iff.mp h.symm).1]
  simp [Uniform, sightings]

theorem last (h : Consistent K evs) : Uniform (sightings K evs) :=
  h evs [] (List.append_nil evs).symm

theorem concat (h : Consistent K evs) (he : Uniform (sightings K (evs ++ [e]))) :
    Consistent K (evs ++ [e]) := by
  intro pre post heq
  rcases List.eq_nil_or_concat post with rfl | ⟨init, f, rfl⟩
  · rw [List.append_nil] at heq
    rwa [← heq]
  · rw [List.concat_eq_append, ← List.append_assoc] at heq
    exact h pre init (List.append_inj_left' heq rfl)

/-- What is written keeps a history consistent. -/
theorem written (h : Consistent K evs)
    (hes : ∀ e ∈ es, e.isProduction = true ∨ e.isEviction = true) :
    Consistent K (evs ++ es) := by
  induction es generalizing evs with
  | nil => rwa [List.append_nil]
  | cons e es ih =>
    obtain ⟨he, hes⟩ := List.forall_mem_cons.mp hes
    have hone : Consistent K (evs ++ [e]) := by
      refine h.concat ?_
      rw [sightings_append]
      exact h.last.sight he
    simpa using ih hone hes

end Consistent

end SessionEvent

end EntityMapper
