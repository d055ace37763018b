import EntityMapper.Proofs.Flush.Accepted
import EntityMapper.Proofs.Flush.VersionSteps
/-! Stale updates: an UPDATE that expects another version than its row has is refused, and a drain
records only UPDATEs that it came to. -/

namespace EntityMapper

variable {σ : Type}

namespace Gateway

variable (g : Gateway σ)

/-- An action fails and is not recorded, and the row stays as it is. Nothing was sent, or the store
failed, or the store changed nothing and the failure says that somebody else wrote the row. -/
structure Refuses (row : σ → String → Value) (a : Action) (o : Outcome) (w : Workspace σ)
    (err : Error) : Prop where
  result : (g.perform a o w).1 = (.error err, o)
  row : row (g.perform a o w).2.store = row w.store
  said : (g.perform a o w).2.transcript = w.transcript ∨
    ∃ c answer, (g.perform a o w).2.transcript = w.transcript ++ [.execute c answer] ∧
      ((∃ f, answer = .error f) ∨ answer = .ok 0 ∧ err.isOptimisticLock = true)

section Merge

variable {g} {e : Entry} {x : Value} {m : Metadata} {w : Workspace σ} {p : RowPlace}
  {row : σ → String → Value} {column : String} {schema : Schema}

/-- The store does not carry out an UPDATE for the row of a place that expects another version than
the row has. -/
theorem exchange_stale (hc : g.connection.Guards p row) (hm : g.resolveKey e.key w = (.ok m, w))
    (htable : p.isTable m.table = true) (hid : p.isId e.key.id = true)
    (hversions : p.Versions column schema m)
    (hstale : (row w.store column).version? ≠ x.version?) (o : Outcome) :
    row (g.perform (.merge e x) o w).2.store = row w.store ∧
      (g.exchange? w (.merge e x) = none ∨
        ∃ c answer, g.exchange? w (.merge e x) = some (.execute c answer) ∧
          ((∃ f, answer = .error f) ∨ answer = .ok 0 ∧
            ∃ err, (g.perform (.merge e x) o w).1.1 = .error err ∧
              err.isOptimisticLock = true)) := by
  cases hplan : m.updateOf (some x) e.key.id (w.heap.get e.handle).fieldValue with
  | error fault =>
    exact ⟨congrArg row (g.store_perform_unsent hm hplan o),
      .inl (exchange?_of_unplanned hm hplan)⟩
  | ok plan =>
    obtain ⟨u, n, -, -, hx, hends⟩ := g.row_sent hc hm hplan htable hid hversions o
    have hsent := exchange?_of_planned hm hplan
    rw [hx] at hstale
    rcases hends with ⟨f, hanswer, hsame⟩ | ⟨hanswer, -, hsame, hlock⟩ | ⟨k, -, -, hcurrent, -⟩
    · exact ⟨hsame, .inr ⟨_, _, hsent, .inl ⟨f, hanswer⟩⟩⟩
    · exact ⟨hsame, .inr ⟨_, _, hsent, .inr ⟨hanswer, hlock⟩⟩⟩
    · exact absurd hcurrent hstale

/-- An UPDATE is refused if the row has another version than it expects. -/
theorem refuses_stale (hc : g.connection.Guards p row) (he : e.Sound w)
    (hm : w.journal.registry.find? (w.heap.get e.handle).type.path = some m)
    (htable : p.isTable m.table = true) (hid : p.isId e.key.id = true)
    (hversions : p.Versions column schema m)
    (hstale : (row w.store column).version? ≠ x.version?) (o : Outcome) :
    ∃ err, g.Refuses row (.merge e x) o w err := by
  obtain ⟨hrow, hexchange⟩ :=
    exchange_stale hc (he.resolveKey g hm) htable hid hversions hstale o
  have hsaid := g.transcript_perform_request (.merge e x) o w
  rcases g.failed_or_carriedOut ⟨he, m, hm⟩ x o with
    ⟨err, xs, herr, -, -⟩ | ⟨y, c, b, -, hcarried⟩
  · refine ⟨err, herr, hrow, ?_⟩
    rcases hexchange with hnone | ⟨c, answer, hsome, hanswer⟩
    · rw [hnone] at hsaid
      exact .inl (hsaid.trans (List.append_nil _))
    · rw [hsome] at hsaid
      refine .inr ⟨c, answer, hsaid, hanswer.imp_right ?_⟩
      rintro ⟨rfl, err', herr', hlock⟩
      rw [herr] at herr'
      obtain rfl := Except.error.inj herr'
      exact ⟨rfl, hlock⟩
  · -- What was carried out is none of these exchanges.
    have hy := List.append_cancel_left (hcarried.sent.symm.trans hsaid)
    have haccepted := hcarried.accepted
    rcases hexchange with hnone | ⟨c, answer, hsome, ⟨f, rfl⟩ | ⟨rfl, -⟩⟩
    · rw [hnone] at hy
      cases hy
    · rw [hsome] at hy
      obtain rfl := List.singleton_inj.mp hy
      cases haccepted
    · rw [hsome] at hy
      obtain rfl := List.singleton_inj.mp hy
      cases haccepted

end Merge

/-- What is recorded of UPDATEs was so before, or the action is an UPDATE that was recorded. -/
theorem mem_merged_perform {e : Entry} {a : Action} {o : Outcome} {w : Workspace σ}
    (h : e ∈ (g.perform a o w).1.2.merged) :
    e ∈ o.merged ∨ ∃ x, a = .merge e x ∧ (g.perform a o w).1.2 ≠ o := by
  obtain ⟨xs, -, hends⟩ := g.perform_ends a o w
  generalize g.perform a o w = run at h hends ⊢
  obtain ⟨⟨r, out⟩, v⟩ := run
  cases hends with
  | unsent _ | refused _ _ | unkept _ _ | inserted _ _ | deleted _ => exact .inl h
  | @updated entry expected c n hn =>
    refine (List.mem_append.mp h).imp_right fun h => ?_
    obtain rfl := List.mem_singleton.mp h
    exact ⟨expected, rfl, fun heq => by simpa using congrArg (·.merged.length) heq⟩

/-- A drain came to every UPDATE that it has recorded, and recorded it then. -/
theorem exists_of_mem_merged {e : Entry} {as : List Action} {o : Outcome} {w : Workspace σ}
    (h : e ∈ (g.performAll as o w).1.outcome.merged) : e ∈ o.merged ∨
      ∃ x before after out v, as = before ++ .merge e x :: after ∧
        g.performAll before o w = (⟨.ok (), [], out⟩, v) ∧
        (g.perform (.merge e x) out v).1.2 ≠ out := by
  induction as generalizing o w with
  | nil => exact .inl h
  | cons a rest ih =>
    have hone : e ∈ (g.perform a o w).1.2.merged → e ∈ o.merged ∨
        ∃ x before after out v, a :: rest = before ++ .merge e x :: after ∧
          g.performAll before o w = (⟨.ok (), [], out⟩, v) ∧
          (g.perform (.merge e x) out v).1.2 ≠ out := fun h => by
      refine (g.mem_merged_perform h).imp_right ?_
      rintro ⟨x, rfl, hrecorded⟩
      exact ⟨x, [], rest, o, w, rfl, rfl, hrecorded⟩
    rcases hr : g.perform a o w with ⟨⟨f | u, written⟩, v⟩ <;> rw [hr] at hone
    · rw [g.performAll_of_error hr] at h
      exact hone h
    · rw [g.performAll_of_ok hr] at h
      rcases ih h with h | ⟨x, before, after, out, v', rfl, hbefore, hrecorded⟩
      · exact hone h
      · exact .inr ⟨x, a :: before, after, out, v', rfl,
          by rw [g.performAll_of_ok hr]; exact hbefore, hrecorded⟩

/-- A drain comes to an UPDATE that it records, and this one does not leave the outcome alone. -/
theorem comesTo_of_mem_merged {e : Entry} {as : List Action} {w : Workspace σ}
    (h : e ∈ (g.performAll as {} w).1.outcome.merged) : ∃ x o v,
      g.ComesTo as w (.merge e x) o v ∧ (g.perform (.merge e x) o v).1.2 ≠ o := by
  obtain ⟨x, before, after, o, v, hsplit, hbefore, hrecorded⟩ :=
    (g.exists_of_mem_merged h).resolve_left List.not_mem_nil
  exact ⟨x, o, v, ⟨before, after, hsplit, hbefore⟩, hrecorded⟩

end Gateway

end EntityMapper
