import EntityMapper.Proofs.Flush.Asking
import EntityMapper.Sql.Link
/-! Wires: what a link sends to its database, and whether a transaction is open there by then. -/

namespace EntityMapper.Sql

variable {δ : Type}

/-- What is sent to a database, with whether a transaction is open there. -/
inductive Sent where
  /-- A text that is run as a whole, without values. -/
  | text (sql : String) (before : Bool)
  /-- A statement with values for its places, with whether a transaction is open after it. -/
  | statement (sql : String) (before after : Bool)
  deriving DecidableEq

namespace Sent

def isText : Sent → Bool
  | text _ _ => true
  | statement _ _ _ => false

/-- A statement leaves it open whether a transaction is: it begins and ends none. -/
def IsPlain : Sent → Prop
  | text _ _ => True
  | statement _ before after => before = after

/-- BEGIN is not sent inside a transaction, and COMMIT and ROLLBACK are not sent outside of one. -/
def Fits : Sent → Prop
  | text sql before =>
    (sql = "BEGIN" → before = false) ∧ (sql = "COMMIT" ∨ sql = "ROLLBACK" → before = true)
  | statement _ _ _ => True

instance (x : Sent) : Decidable x.IsPlain := by
  cases x <;> unfold IsPlain <;> infer_instance

theorem fits_step {step : TransactionStep} {before : Bool} (h : before = (step != .start)) :
    (text step.text before).Fits := by
  subst h
  cases step <;> simp [Fits, TransactionStep.text]

end Sent

/-- A database with all that was sent to it. -/
structure Tapped (δ : Type) where
  database : δ
  sent : List Sent := []

namespace Engine

/-- The database that keeps all that is sent to it. -/
def tapped (e : Engine δ) (isOpen : δ → Bool) : Engine (Tapped δ) where
  run sql params t :=
    let (r, d) := e.run sql params t.database
    (r, ⟨d, t.sent ++ [.statement sql (isOpen t.database) (isOpen d)]⟩)
  runAll sql t :=
    let (r, d) := e.runAll sql t.database
    (r, ⟨d, t.sent ++ [.text sql (isOpen t.database)]⟩)
  changes t := e.changes t.database
  lastRow t := e.lastRow t.database

/-- The steps of transactions open and end them. A step that fails does neither. -/
structure Transacts (e : Engine δ) (isOpen : δ → Bool) : Prop where
  done {step : TransactionStep} {d d' : δ} (h : e.runAll step.text d = (.ok (), d')) :
    isOpen d' = (step == .start)
  failed {step : TransactionStep} {d d' : δ} {f : Error}
    (h : e.runAll step.text d = (.error f, d')) : isOpen d' = isOpen d

end Engine

namespace Link

variable (isOpen : δ → Bool) {l m n : Link (Tapped δ)}

/-- The second link comes from the first by statements. Those that are plain do not change whether a
transaction is open. -/
structure Spoken (l m : Link (Tapped δ)) : Prop where
  flag : m.inTransaction = l.inTransaction
  sent : ∃ xs, m.database.sent = l.database.sent ++ xs ∧ ∀ x ∈ xs, x.isText = false
  plain (h : ∀ x ∈ m.database.sent, x.IsPlain) :
    isOpen m.database.database = isOpen l.database.database

variable {isOpen}

instance : IsPreorder (Link (Tapped δ)) (Spoken isOpen) where
  refl l := ⟨rfl, ⟨[], by simp⟩, fun _ => rfl⟩
  trans l m n h h' := by
    obtain ⟨xs, hxs, htext⟩ := h.sent
    obtain ⟨ys, hys, htext'⟩ := h'.sent
    refine ⟨h'.flag.trans h.flag, ⟨xs ++ ys, by rw [hys, hxs, List.append_assoc], ?_⟩,
      fun hplain => (h'.plain hplain).trans (h.plain fun x hx => hplain x ?_)⟩
    · exact fun x hx => (List.mem_append.mp hx).elim (htext x) (htext' x)
    · rw [hys]
      exact List.mem_append_left _ hx

/-- A link that has sent one more statement. -/
theorem Spoken.statement {d : δ} {sql : String} (l : Link (Tapped δ)) :
    Spoken isOpen l { l with database :=
      ⟨d, l.database.sent ++ [.statement sql (isOpen l.database.database) (isOpen d)]⟩ } where
  flag := rfl
  sent := ⟨_, rfl, by simp [Sent.isText]⟩
  plain h := (h (.statement sql (isOpen l.database.database) (isOpen d)) (by simp)).symm

theorem spoken_of_asked {e : Engine δ} (h : (e.tapped isOpen).connection.Asked l m) :
    Spoken isOpen l m :=
  h.rel (fun _ l => .statement l) (fun _ l => .statement l) (fun _ l => .statement l)

/-- How a transaction step over a link ends. -/
inductive Stepped (isOpen : δ → Bool) (step : TransactionStep) (l : Link (Tapped δ)) :
    Except Error Unit → Link (Tapped δ) → Prop
  /-- The link knows that the step does not fit, and nothing is sent. -/
  | refused (hl : l.inTransaction = (step == .start)) (f) : Stepped isOpen step l (.error f) l
  /-- The step fails in the database. -/
  | failed {d} (hl : l.inTransaction = (step != .start))
    (hd : isOpen d = isOpen l.database.database) (f) :
    Stepped isOpen step l (.error f) { l with database :=
      ⟨d, l.database.sent ++ [.text step.text (isOpen l.database.database)]⟩ }
  | done {d} (hl : l.inTransaction = (step != .start)) (hd : isOpen d = (step == .start)) :
    Stepped isOpen step l (.ok ()) { l with
      database := ⟨d, l.database.sent ++ [.text step.text (isOpen l.database.database)]⟩
      inTransaction := step == .start }

theorem stepped {e : Engine δ} (he : e.Transacts isOpen) (step : TransactionStep)
    (l : Link (Tapped δ)) :
    Stepped isOpen step l ((e.tapped isOpen).connection.transact step l).1
      ((e.tapped isOpen).connection.transact step l).2 := by
  change Stepped isOpen step l ((e.tapped isOpen).transact step l).1
    ((e.tapped isOpen).transact step l).2
  unfold Engine.transact
  dsimp only
  split
  · next hl => exact .refused (by simpa using hl) _
  · next hl =>
    have hflag : l.inTransaction = (step != .start) := by
      rw [bne, Bool.eq_not]
      simpa using hl
    have hrun : (e.tapped isOpen).runAll step.text l.database =
        ((e.runAll step.text l.database.database).1,
          ⟨(e.runAll step.text l.database.database).2,
            l.database.sent ++ [.text step.text (isOpen l.database.database)]⟩) := rfl
    rw [hrun]
    rcases hr : e.runAll step.text l.database.database with ⟨f | u, d⟩
    · exact .failed hflag (he.failed hr) f
    · exact .done hflag (he.done hr)

end Link

namespace Database

/-- What a transaction step does to a database. -/
def act : TransactionStep → Database → Except Fault Cells × Database
  | .start => start
  | .commit => commit
  | .rollback => rollback

/-- Whether a transaction is open. -/
def isOpen (d : Database) : Bool :=
  d.saved.isSome

theorem first_text (step : TransactionStep) : ∃ i, Sentence.first (Symbol.ofText step.text) =
    .ok (some (⟨i, 0⟩, [])) ∧ ∀ d : Database, ∃ plan, d.prepare ⟨i, 0⟩ =
      .ok { plan := plan, places := 0 } ∧ d.run plan [] = act step d := by
  cases step with
  | start => exact ⟨.start, rfl, fun d => ⟨.start, rfl, by simp [run, Plan.isWrite, act]⟩⟩
  | commit => exact ⟨.commit, rfl, fun d => ⟨.commit, rfl, by simp [run, Plan.isWrite, act]⟩⟩
  | rollback => exact ⟨.rollback, rfl, fun d => ⟨.rollback, rfl, by simp [run, Plan.isWrite, act]⟩⟩

/-- The text of a transaction step is the one statement that makes the step. -/
theorem runAll_text (step : TransactionStep) (d : Database) :
    d.runAll step.text = ((act step d).1.map fun _ => (), (act step d).2) := by
  obtain ⟨i, hfirst, hplan⟩ := first_text step
  obtain ⟨plan, hprepare, hrun⟩ := hplan d
  have hnone : Sentence.first [] = .ok none := rfl
  unfold runAll
  dsimp only
  rw [runSymbols, hfirst]
  dsimp only
  rw [hprepare]
  dsimp only
  rw [hrun]
  rcases act step d with ⟨f | cells, d'⟩
  · rfl
  · cases hlen : (Symbol.ofText step.text).length with
    | zero => rfl
    | succ n =>
      dsimp only
      rw [runSymbols, hnone]
      rfl

theorem isOpen_act (step : TransactionStep) (d : Database) :
    (act step d).2.isOpen =
      if (act step d).1.isOk then step == .start else d.isOpen := by
  cases step with
  | start => cases h : d.saved <;> simp [act, start, isOpen, h, Except.isOk, Except.toBool]
  | commit =>
    cases h : d.saved with
    | none => simp [act, commit, isOpen, h, Except.isOk, Except.toBool]
    | some tables =>
      by_cases hb : Reference.anyBroken true d.tables <;>
        simp [act, commit, isOpen, h, hb, Except.isOk, Except.toBool]
  | rollback => cases h : d.saved <;> simp [act, rollback, isOpen, h, Except.isOk, Except.toBool]

/-- The transactions of a database are those of its steps. -/
theorem engine_transacts : engine.Transacts isOpen := by
  have hrun : ∀ step d, engine.runAll (TransactionStep.text step) d =
      (((act step d).1.map fun _ => ()).mapError fun f => failure step.text f.message,
        (act step d).2) := by
    intro step d
    have hnull : (TransactionStep.text step).toList.contains '\x00' = false := by
      cases step <;> rfl
    change runTexts step.text d = _
    unfold runTexts
    rw [hnull, runAll_text]
    rfl
  constructor
  · intro step d d' h
    have hopen := isOpen_act step d
    rw [hrun] at h
    obtain ⟨ha, rfl⟩ := Prod.mk.inj h
    cases hr : (act step d).1 with
    | error f => rw [hr] at ha; cases ha
    | ok cells => rwa [hr] at hopen
  · intro step d d' f h
    have hopen := isOpen_act step d
    rw [hrun] at h
    obtain ⟨ha, rfl⟩ := Prod.mk.inj h
    cases hr : (act step d).1 with
    | error f => rwa [hr] at hopen
    | ok cells => rw [hr] at ha; cases ha

end Database

end EntityMapper.Sql
